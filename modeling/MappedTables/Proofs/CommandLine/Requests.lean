import Mathlib.Data.List.TakeWhile
import MappedTables.CommandLine.Command
import MappedTables.Proofs.Text.Numerals
import MappedTables.Proofs.Text.Utf8

namespace MappedTables
namespace CommandLine

/-!
What is read from arguments.

Options that are given by their words, each with its value behind it, are read
with these values, in whatever order they are given, if none is given twice and
no value starts with a dash.  A numeral does not, and a text of one character
counts as a value even if it is a dash.  So there is a way to ask for every
column of every line, and for every mark.
-/

namespace Arguments

/-- Options by their words, each with its value behind it. -/
def spelled (given : List (OptionForm × String)) : List String :=
  given.flatMap fun option => ["--" ++ option.1.long, option.2]

/-- The arguments that options with their values amount to. -/
def ofOptions (given : List (OptionForm × String)) : Arguments where
  options := given.map fun option => (option.1.long, some option.2)

/-- A word behind two dashes that is the word of an option and nothing else. -/
structure IsWord (word : String) : Prop where
  undashed : exists first rest, word.toList = first :: rest ∧ first ≠ '-'
  whole : '=' ∉ word.toList

/-- Options of some kind, each given once, with values that do not start with a dash. -/
structure GivenFrom (options : List OptionForm) (given : List (OptionForm × String)) : Prop where
  known : forall option, option ∈ given -> option.1 ∈ options
  plain : forall option, option ∈ given -> isDashed option.2 = false
  distinct : (given.map (·.1.long)).Nodup

variable {shape : Shape} {option : OptionForm}

/-! ## Reading -/

theorem toList_word (word : String) : ("--" ++ word).toList = '-' :: '-' :: word.toList := by
  rw [String.toList_append]
  rfl

theorem ofArgument_word (known : option ∈ shape.options) (word : IsWord option.long) :
    Token.ofArgument shape ("--" ++ option.long) = .option option.long none := by
  rcases word.undashed with ⟨first, rest, characters, undashed⟩
  have dashes : option.long.toList.dropWhile (· = '-') = option.long.toList := by
    rw [characters, List.dropWhile_cons_of_neg (by simpa using undashed)]
  have apart : forall character, character ∈ option.long.toList ->
      decide (character ≠ '=') = true :=
    fun character member => decide_eq_true fun same => word.whole (same ▸ member)
  have name : option.long.toList.takeWhile (· ≠ '=') = option.long.toList :=
    List.takeWhile_eq_self_iff.mpr apart
  have value : option.long.toList.dropWhile (· ≠ '=') = [] :=
    List.dropWhile_eq_nil_iff.mpr apart
  have listed : shape.options.any (·.long = option.long) = true :=
    List.any_eq_true.mpr ⟨option, known, decide_eq_true rfl⟩
  rw [Token.ofArgument, toList_word]
  simp only [dashes, Token.ofWord, name, value, String.ofList_toList, listed, if_true]

/-- An option is read together with its value. -/
theorem readFrom_option (known : option ∈ shape.options) (word : IsWord option.long)
    {value : String} (plain : isDashed value = false) (before : Arguments) (rest : List String) :
    readFrom shape before (("--" ++ option.long) :: value :: rest) =
      readFrom shape (before.addOption option.long (some value)) rest := by
  rcases word.undashed with ⟨first, others, characters, _⟩
  have further : "--" ++ option.long ≠ "--" := by
    intro same
    have lists := congrArg String.toList same
    rw [toList_word, characters] at lists
    cases lists
  have dashed : isDashed ("--" ++ option.long) = true := by
    rw [isDashed, toList_word]
    rfl
  rw [readFrom, if_neg further, if_pos dashed, ofArgument_word known word]
  simp only [plain, Bool.false_eq_true, if_false]

theorem readFrom_spelled (words : forall option, option ∈ shape.options -> IsWord option.long)
    {given : List (OptionForm × String)} (givenFrom : GivenFrom shape.options given)
    (before : Arguments) :
    readFrom shape before (spelled given) =
      finish shape { before with options := before.options ++ (ofOptions given).options } := by
  induction given generalizing before with
  | nil =>
      rw [ofOptions, List.map_nil, List.append_nil]
      rfl
  | cons option rest ih =>
      have later : GivenFrom shape.options rest :=
        ⟨fun other member => givenFrom.known other (List.mem_cons_of_mem _ member),
          fun other member => givenFrom.plain other (List.mem_cons_of_mem _ member),
          (List.nodup_cons.mp givenFrom.distinct).2⟩
      have known := givenFrom.known option List.mem_cons_self
      have here := readFrom_option known (words _ known)
        (givenFrom.plain option List.mem_cons_self) before (spelled rest)
      refine here.trans ((ih later _).trans ?_)
      simp only [addOption, ofOptions, List.map_cons, List.append_assoc, List.singleton_append]

/-! ## Values -/

/-- What was given for an option is the value behind its word. -/
theorem given?_ofOptions (given : List (OptionForm × String)) (option : OptionForm) :
    (ofOptions given).given? option =
      (given.map fun other => (other.1.long, other.2)).lookup option.long := by
  induction given with
  | nil => rfl
  | cons other rest ih =>
      simp only [given?, ofOptions, List.map_cons, List.lookup_cons] at ih ⊢
      cases option.long == other.1.long with
      | true => rfl
      | false => exact ih

theorem given?_ofOptions_append (first second : List (OptionForm × String))
    (option : OptionForm) :
    (ofOptions (first ++ second)).given? option =
      ((ofOptions first).given? option).or ((ofOptions second).given? option) := by
  simp only [given?_ofOptions, List.map_append, List.lookup_append]

/-- An option that was not given has no value. -/
theorem given?_ofOptions_of_notMem {given : List (OptionForm × String)}
    (absent : forall other, other ∈ given -> other.1.long ≠ option.long) :
    (ofOptions given).given? option = none := by
  rw [given?_ofOptions, List.lookup_eq_none_iff]
  intro entry member
  rcases List.mem_map.mp member with ⟨other, inside, rfl⟩
  exact bne_iff_ne.mpr (Ne.symm (absent other inside))

theorem value?_append_of_first {first second : List (OptionForm × String)}
    (absent : forall other, other ∈ second -> other.1.long ≠ option.long) :
    (ofOptions (first ++ second)).value? option = (ofOptions first).value? option := by
  rw [value?, value?, given?_ofOptions_append, given?_ofOptions_of_notMem absent, Option.or_none]

theorem value?_append_of_second {first second : List (OptionForm × String)}
    (absent : forall other, other ∈ first -> other.1.long ≠ option.long) :
    (ofOptions (first ++ second)).value? option = (ofOptions second).value? option := by
  rw [value?, value?, given?_ofOptions_append, given?_ofOptions_of_notMem absent, Option.none_or]

/-- Options that can be given together make the arguments of a command without operands. -/
theorem read_spelled (words : forall option, option ∈ shape.options -> IsWord option.long)
    {given : List (OptionForm × String)} (givenFrom : GivenFrom shape.options given)
    (operandless : shape.operands = 0) :
    read shape (spelled given) = .complete (ofOptions given) := by
  have values : (ofOptions given).haveValues shape = true := by
    rw [haveValues, List.all_eq_true]
    intro option _
    cases looked : (ofOptions given).options.lookup option.long with
    | none => rfl
    | some value =>
        rcases List.lookup_eq_some_iff.mp looked with ⟨before, after, parts, _⟩
        have member : (option.long, value) ∈ (ofOptions given).options := by
          rw [parts]
          exact List.mem_append_right _ List.mem_cons_self
        rcases List.mem_map.mp member with ⟨other, _, same⟩
        rcases Prod.mk.inj same with ⟨_, rfl⟩
        rw [value?, given?, looked]
        rfl
  have distinct : (ofOptions given).areDistinct = true := by
    have words : (ofOptions given).options.map (·.1) = given.map (·.1.long) := by
      rw [ofOptions, List.map_map]
      rfl
    rw [areDistinct, words, decide_eq_true givenFrom.distinct]
    rfl
  rw [read, readFrom_spelled words givenFrom, List.nil_append]
  exact if_pos ⟨values, distinct, operandless.symm⟩

end Arguments
open Arguments

/-! ## Values without a dash -/

theorem isDashed_of_numeral {text : String} {number : Nat} (numeral : Numeral text number) :
    isDashed text = false := by
  have digits := numeral.digits
  unfold isDashed
  split
  case h_1 _ _ characters =>
    rw [characters, List.all_cons] at digits
    cases digits
  case h_2 => rfl

theorem isDashed_of_single {text : String} {octet : UInt8}
    (single : Utf8.ofString text = #[octet]) : isDashed text = false := by
  unfold isDashed
  split
  case h_1 second rest characters =>
    have size := congrArg Array.size single
    rw [Utf8.ofString, characters, Utf8.encode_cons, Utf8.encode_cons] at size
    have dash : '-'.utf8Size = 1 := by decide
    have wide := second.utf8Size_pos
    have one : #[octet].size = 1 := rfl
    simp only [Array.size_append, List.size_toArray, String.length_utf8EncodeChar, one] at size
    omega
  case h_2 => rfl

/-! ## Lookups -/

/-- The options that say what to look up in a segment. -/
def inquiryOptions : List OptionForm := [lineOption, columnOption, markOption]

theorem isWord_of_mem {option : OptionForm} (known : option ∈ segmentOptions ++ inquiryOptions) :
    IsWord option.long := by
  simp only [segmentOptions, inquiryOptions, List.cons_append, List.nil_append, List.mem_cons,
    List.not_mem_nil, or_false] at known
  rcases known with rfl | rfl | rfl | rfl | rfl <;> exact ⟨⟨_, _, rfl, by decide⟩, by decide⟩

theorem long_ne : forall one, one ∈ segmentOptions -> forall other, other ∈ inquiryOptions ->
    one.long ≠ other.long := by
  decide

section Lookup

variable {place asked : List (OptionForm × String)} (locates : GivenFrom segmentOptions place)
  (inquires : GivenFrom inquiryOptions asked)
include locates inquires

/-- Which segment is meant and what is to be looked up there are said independently. -/
theorem queryOf_append :
    queryOf (ofOptions (place ++ asked)) =
      { queryOf (ofOptions asked) with segment := segmentOf (ofOptions place) } := by
  have inPlace : forall {option}, option ∈ segmentOptions ->
      (ofOptions (place ++ asked)).value? option = (ofOptions place).value? option :=
    fun known => value?_append_of_first fun other member =>
      (long_ne _ known _ (inquires.known other member)).symm
  have inAsked : forall {option}, option ∈ inquiryOptions ->
      (ofOptions (place ++ asked)).value? option = (ofOptions asked).value? option :=
    fun known => value?_append_of_second fun other member =>
      long_ne _ (locates.known other member) _ known
  have segment : segmentOf (ofOptions (place ++ asked)) = segmentOf (ofOptions place) := by
    rw [segmentOf, inPlace (by decide), inPlace (by decide)]
    rfl
  rw [queryOf, segment, inAsked (by decide), inAsked (by decide), inAsked (by decide)]
  rfl

theorem givenFrom_append : GivenFrom (segmentOptions ++ inquiryOptions) (place ++ asked) := by
  constructor
  case known =>
    intro option member
    rcases List.mem_append.mp member with first | second
    · exact List.mem_append_left _ (locates.known option first)
    · exact List.mem_append_right _ (inquires.known option second)
  case plain =>
    intro option member
    rcases List.mem_append.mp member with first | second
    · exact locates.plain option first
    · exact inquires.plain option second
  case distinct =>
    rw [List.map_append]
    refine List.nodup_append.mpr ⟨locates.distinct, inquires.distinct, ?_⟩
    intro one inFirst other inSecond
    rcases List.mem_map.mp inFirst with ⟨first, firstMember, rfl⟩
    rcases List.mem_map.mp inSecond with ⟨second, secondMember, rfl⟩
    exact long_ne _ (locates.known first firstMember) _ (inquires.known second secondMember)

end Lookup

/-- Everything that can be looked up in a segment can be asked for. -/
structure LookupsTaken (place : List (OptionForm × String)) : Prop where
  data : forall {line column number index}, Numeral line number -> Numeral column index ->
    Request.ofArguments
        ("data" :: spelled (place ++ [(lineOption, line), (columnOption, column)])) =
      .run (.data { segment := segmentOf (ofOptions place), line := line, column })
  head : forall {line column number index}, Numeral line number -> Numeral column index ->
    Request.ofArguments
        ("head" :: spelled (place ++ [(lineOption, line), (columnOption, column)])) =
      .run (.head { segment := segmentOf (ofOptions place), line := line, column })
  marked : forall {text column octet index}, Utf8.ofString text = #[octet] ->
    Numeral column index ->
      Request.ofArguments
          ("head" :: spelled (place ++ [(markOption, text), (columnOption, column)])) =
        .run (.head { segment := segmentOf (ofOptions place), line := none, column, mark := text })

/-- The form of the command that looks up data lines. -/
theorem exists_dataForm : exists form : CommandForm, form.shape = { options := lookupOptions } ∧
    (forall given, form.command? given = some (.data (queryOf given))) ∧
    forall rest, Request.ofArguments ("data" :: rest) = form.request rest :=
  ⟨commandForms[6], rfl, fun _ => rfl, fun _ => rfl⟩

/-- The form of the command that looks up head lines. -/
theorem exists_headForm : exists form : CommandForm,
    form.shape = { options := lookupOptions ++ [markOption] } ∧
    (forall given, form.command? given =
      if (queryOf given).line.isSome ∧ (queryOf given).mark.isSome then none
      else some (.head (queryOf given))) ∧
    forall rest, Request.ofArguments ("head" :: rest) = form.request rest :=
  ⟨commandForms[5], rfl, fun _ => rfl, fun _ => rfl⟩

/-- Two options that say what to look up are read behind those that say where. -/
theorem request_pair {form : CommandForm} {place : List (OptionForm × String)}
    (locates : GivenFrom segmentOptions place) (first second : OptionForm)
    (inquiries : first ∈ inquiryOptions ∧ second ∈ inquiryOptions)
    (apart : first.long ≠ second.long)
    (taken : forall option, option ∈ segmentOptions ++ [first, second] ->
      option ∈ form.shape.options)
    (kinds : forall option, option ∈ form.shape.options ->
      option ∈ segmentOptions ++ inquiryOptions)
    (operandless : form.shape.operands = 0) {one other : String}
    (plain : isDashed one = false ∧ isDashed other = false) :
    let asked := [(first, one), (second, other)]
    queryOf (ofOptions (place ++ asked)) =
        { queryOf (ofOptions asked) with segment := segmentOf (ofOptions place) } ∧
      forall command, form.command? (ofOptions (place ++ asked)) = some command ->
        form.request (spelled (place ++ asked)) = .run command := by
  intro asked
  have inquires : GivenFrom inquiryOptions asked :=
    { known := by simp [asked, inquiries]
      plain := by simp [asked, plain]
      distinct := by simp [asked, apart] }
  have all := givenFrom_append locates inquires
  have known : forall option, option ∈ place ++ asked -> option.1 ∈ form.shape.options := by
    intro option member
    refine taken _ ?_
    rcases List.mem_append.mp member with front | back
    · exact List.mem_append_left _ (locates.known option front)
    · simp only [asked, List.mem_cons, List.not_mem_nil, or_false] at back
      rcases back with rfl | rfl
      · exact List.mem_append_right _ List.mem_cons_self
      · exact List.mem_append_right _ (List.mem_cons_of_mem _ List.mem_cons_self)
  have read := Arguments.read_spelled (fun option member => isWord_of_mem (kinds option member))
    ⟨known, all.plain, all.distinct⟩ operandless
  refine ⟨queryOf_append locates inquires, fun command made => ?_⟩
  rw [CommandForm.request, read]
  simp only [made]

theorem lookupsTaken {place : List (OptionForm × String)}
    (locates : GivenFrom segmentOptions place) : LookupsTaken place := by
  rcases exists_dataForm with ⟨dataForm, dataShape, dataCommand, dataRequest⟩
  rcases exists_headForm with ⟨headForm, headShape, headCommand, headRequest⟩
  constructor
  case data =>
    intro line column number index counts means
    have plain := And.intro (isDashed_of_numeral counts) (isDashed_of_numeral means)
    rcases request_pair locates lineOption columnOption (by decide) (by decide)
      (by rw [dataShape]; decide) (by rw [dataShape]; decide) (by rw [dataShape]) plain with
      ⟨query, runs⟩
    rw [dataRequest]
    exact runs _ (by rw [dataCommand, query]; rfl)
  case head =>
    intro line column number index counts means
    have plain := And.intro (isDashed_of_numeral counts) (isDashed_of_numeral means)
    rcases request_pair locates lineOption columnOption (by decide) (by decide)
      (by rw [headShape]; decide) (by rw [headShape]; decide) (by rw [headShape]) plain with
      ⟨query, runs⟩
    rw [headRequest]
    exact runs _ (by rw [headCommand, query]; rfl)
  case marked =>
    intro text column octet index single means
    have plain := And.intro (isDashed_of_single single) (isDashed_of_numeral means)
    rcases request_pair locates markOption columnOption (by decide) (by decide)
      (by rw [headShape]; decide) (by rw [headShape]; decide) (by rw [headShape]) plain with
      ⟨query, runs⟩
    rw [headRequest]
    exact runs _ (by rw [headCommand, query]; rfl)

/-! ## Segments of commands -/

/-- The segment that a command is about. -/
def Command.segment? : Command -> Option SegmentConfig
  | .build _ _ => none
  | .publish _ _ segment => some segment
  | .unlink segment => some segment
  | .check segment => some segment
  | .info segment => some segment
  | .head query => some query.segment
  | .data query => some query.segment
  | .version _ _ => none

/-- A command is about the segment that its arguments mean. -/
theorem segment_of_command? : forall form, form ∈ commandForms -> forall given command,
    CommandForm.command? form given = some command -> forall segment,
      command.segment? = some segment -> segment = segmentOf given := by
  simp only [commandForms, List.forall_mem_cons]
  refine ⟨?build, ?publish, ?unlink, ?check, ?info, ?head, ?data, ?version, nofun⟩
  case build =>
    intro given command made segment about
    split at made
    · cases made
      cases about
    · cases made
  case publish =>
    intro given command made segment about
    split at made
    · cases made
      cases about
      rfl
    · cases made
  case unlink =>
    rintro given _ ⟨⟩ segment ⟨⟩
    rfl
  case check =>
    rintro given _ ⟨⟩ segment ⟨⟩
    rfl
  case info =>
    rintro given _ ⟨⟩ segment ⟨⟩
    rfl
  case head =>
    intro given command made segment about
    split at made
    · cases made
    · cases made
      cases about
      rfl
  case data =>
    rintro given _ ⟨⟩ segment ⟨⟩
    rfl
  case version =>
    intro given command made segment about
    split at made
    · cases made
      cases about
    · cases made

/-- What a form makes of arguments is the command of a complete reading. -/
theorem CommandForm.exists_of_request {form : CommandForm} {arguments : List String}
    {command : Command} (asked : form.request arguments = .run command) :
    exists given, form.command? given = some command := by
  unfold request at asked
  split at asked
  case h_1 given _ =>
    cases made : form.command? given with
    | none =>
        rw [made] at asked
        cases asked
    | some other =>
        rw [made] at asked
        cases asked
        exact ⟨given, made⟩
  case h_2 => cases asked
  case h_3 => cases asked
  case h_4 => cases asked

/-- The command of a request was made by one of the forms. -/
theorem exists_form_of_ofArguments {arguments : List String} {command : Command}
    (asked : Request.ofArguments arguments = .run command) :
    exists form given, form ∈ commandForms ∧ CommandForm.command? form given = some command := by
  unfold Request.ofArguments at asked
  split at asked
  case h_1 => cases asked
  case h_2 first rest =>
    split at asked
    case h_1 form known =>
      rcases CommandForm.exists_of_request asked with ⟨given, made⟩
      exact ⟨form, given, List.mem_of_find?_eq_some known, made⟩
    case h_2 =>
      split at asked
      · split at asked <;> cases asked
      · split at asked
        · split at asked <;> cases asked
        · cases asked

/-- No arguments ask for permissions other than the usual ones. -/
theorem permissions_of_ofArguments {arguments : List String} {command : Command}
    (asked : Request.ofArguments arguments = .run command) {segment : SegmentConfig}
    (about : command.segment? = some segment) :
    segment.permissions = unnamedSegment.permissions := by
  rcases exists_form_of_ofArguments asked with ⟨form, given, known, made⟩
  rw [segment_of_command? form known given command made segment about, segmentOf]
  split
  · rfl
  · rfl

end CommandLine
end MappedTables
