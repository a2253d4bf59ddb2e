import MappedTables.Proofs.CommandLine.Processes
import MappedTables.Proofs.CommandLine.Requests
import MappedTables.Proofs.Image.Fields
import MappedTables.Proofs.Segment.Protocol

namespace MappedTables

/-!
Questions about a published source.

A source that is published is divided into lines and fields, stored as rows of
octets, laid out, relocated and left behind as an object; a process that asks for
a column finds the object, maps it at an address of its own and reads the octets
back as text.  All these stages count lines and columns from one, and none of
them loses or confuses anything, so that the answers can be read off the source.
A number that does not fit into the machine word in which lines or columns are
counted is refused, and there is no field at such a place either.
-/

/-- The segment can be named, and its path leads to the object. -/
structure SegmentConfig.Shows (segment : SegmentConfig) (files : FileSystem)
    (object : StoredFile) : Prop where
  valid : segment.validate = .ok ()
  found : files.fileAt? segment.objectPath = some object

namespace CommandLine

/-! ## Answers -/

/-- The program prints what there is to answer and succeeds, or prints nothing and fails. -/
def Outcome.Answers (outcome : Outcome) : Option String -> Prop
  | some output => outcome.code = 0 ∧ outcome.output = output
  | none => outcome.code = 1 ∧ outcome.output = ""

namespace Run

variable {Value : Type} {host after : Host} {answer : Option String}

/-- The run comes to an answer on the host; without one it fails, and is not stopped. -/
def ComesTo (run : Run String) (host : Host) : Option String -> Prop
  | some output => (run host).1 = .ok output
  | none => exists error, (run host).1 = .error (.error error)

theorem ComesTo.answers {run : Run String} (comes : run.ComesTo host answer) :
    (Outcome.ofResult (run host).1).Answers answer := by
  cases answer with
  | some output =>
      have result : (run host).1 = .ok output := comes
      rw [result]
      exact ⟨rfl, rfl⟩
  | none =>
      rcases comes with ⟨error, result⟩
      rw [result]
      exact ⟨rfl, rfl⟩

theorem ComesTo.of_bind {run : Run Value} {next : Value -> Run String} {value : Value}
    (ran : run host = (.ok value, after)) (comes : (next value).ComesTo after answer) :
    (run >>= next).ComesTo host answer := by
  have step : (run >>= next) host = next value after := by
    rw [Outcome.bind_apply, ran]
  unfold ComesTo at comes ⊢
  rw [step]
  exact comes

theorem ComesTo.of_failure {run : Run Value} {next : Value -> Run String} {error : Error}
    (ran : run host = (.error (.error error), after)) : (run >>= next).ComesTo host none := by
  have step : (run >>= next) host = (.error (.error error), after) := by
    rw [Outcome.bind_apply, ran]
  exact ⟨error, by rw [step]⟩

end Run

/-! ## Numbers -/

section Number

variable {host : Host} {answer : Option String} {numeral : String} {value : Nat}
  (means : Numeral numeral value)
include means

theorem comesTo_of_number (option : OptionForm) (limit : Nat) {next : Nat -> Run String}
    (small : value < limit -> (next value).ComesTo host answer)
    (large : ¬ value < limit -> answer = none) :
    (number option limit numeral >>= next).ComesTo host answer := by
  rw [number, means.numeral?_eq]
  by_cases fits : value < limit
  · rw [if_pos fits]
    exact small fits
  · rw [if_neg fits, large fits]
    exact Run.ComesTo.of_failure rfl

/-- A column is asked for by its own number; one that is too great for that is nowhere. -/
theorem comesTo_of_column {query : Query} (given : query.column = numeral)
    {next : UInt16 -> Run String}
    (small : forall column : UInt16, column.toNat = value -> (next column).ComesTo host answer)
    (large : ¬ value < UInt16.size -> answer = none) :
    (columnOf query >>= next).ComesTo host answer := by
  rw [columnOf, given, bind_assoc]
  refine comesTo_of_number means columnOption UInt16.size (fun fits => ?_) large
  exact small _ (UInt16.toNat_ofNat_of_lt' fits)

theorem comesTo_of_line {query : Query} {missing : Refusal} (given : query.line = some numeral)
    {next : UInt32 -> Run String}
    (small : forall line : UInt32, line.toNat = value -> (next line).ComesTo host answer)
    (large : ¬ value < UInt32.size -> answer = none) :
    (lineOf query missing >>= next).ComesTo host answer := by
  rw [lineOf, given, bind_assoc]
  refine comesTo_of_number means lineOption UInt32.size (fun fits => ?_) large
  exact small _ (UInt32.toNat_ofNat_of_lt' fits)

end Number

/-! ## Columns of a container -/

section Lookup

variable {history : DraftHistory} {addressing : Addressing} {base : UInt64} {host : Host}
  {query : Query} (kept : history.Kept) (legible : history.draft.Legible addressing base)
include kept legible

/-- A lookup by line comes to the cell there. -/
theorem comesTo_columnByLine (kind : TableKind) {numeral : String} {number : Nat}
    (given : query.line = some numeral) (means : Numeral numeral number) (column : UInt16)
    (missing : Refusal) :
    (columnByLine (history.draft.view addressing base) kind query column missing).ComesTo host
      ((history.cell? kind number column.toNat).map fun octets =>
        line (Utf8.decodeLossy octets)) := by
  refine comesTo_of_line means given ?_ ?_
  · rintro word rfl
    cases present : history.cell? kind word.toNat column.toNat with
    | some octets =>
        rcases kept.found legible kind word column octets present with ⟨_, _, found, _⟩
        rw [found]
        rfl
    | none =>
        rw [(kept.missed legible kind word column present).1]
        exact Run.ComesTo.of_failure rfl
  · intro large
    rw [kept.cell?_eq_none (.inl large)]
    rfl

/-- A lookup by mark comes to the cell of the first row that has the mark, and to no other row's. -/
theorem comesTo_columnByMark {text : String} {mark : UInt8}
    (single : Utf8.ofString text = #[mark]) (column : UInt16) :
    (columnByMark (history.draft.view addressing base) text column).ComesTo host
      ((history.firstMarked mark).bind fun index =>
        (history.cell? .head (index + 1) column.toNat).map fun octets =>
          line s!"line {index + 1}" ++ line (Utf8.decodeLossy octets)) := by
  have marked : markOf text host = (.ok mark, host) := by
    rw [markOf, single]
    rfl
  refine Run.ComesTo.of_bind marked ?_
  cases first : history.firstMarked mark with
  | none =>
      rw [kept.findHead_of_none legible column first]
      exact ⟨_, rfl⟩
  | some index =>
      rcases kept.findHead_of_some legible column first with ⟨number, same, searched⟩
      rw [searched, Option.bind_some, <- same]
      cases present : history.cell? .head number.toNat column.toNat with
      | some octets =>
          rcases kept.found legible .head number column octets present with ⟨_, _, found, _⟩
          rw [found]
          rfl
      | none =>
          rw [(kept.missed legible .head number column present).1]
          exact ⟨_, rfl⟩

end Lookup

/-! ## Segments -/

/-- A process attaches the container that an object holds, at an address of its own. -/
theorem attached_newProcess {segment : SegmentConfig} {files : FileSystem} {object : StoredFile}
    (shows : segment.Shows files object) (readable : object.isReadable = true) {address : Nat}
    {container : Container}
    (opens : Container.ofRelocated ⟨UInt64.ofNat address, object.content⟩ = .ok container) :
    exists after, attached segment (newProcess address files) = (.ok container, after) := by
  rcases FileSystem.fileAt?_eq_some_iff.mp shows.found with ⟨id, found, rfl⟩
  have allowed : files.findReadable segment.objectPath = .ok (.file id) := by
    rw [FileSystem.findReadable_of_find found, if_pos readable]
  have attaching := @SegmentHandle.exists_attach_of_readable segment (newProcess address files) id
  rcases attaching shows.valid allowed opens with ⟨handle, after, attaches, gives⟩
  have same : after.files = files := by
    have keeps := (SegmentHandle.attach_keepsFiles segment (newProcess address files)).1
    rwa [attaches] at keeps
  refine ⟨after, ?_⟩
  have first : Run.ofSession (SegmentHandle.attach segment) (newProcess address files) =
      (.ok handle, after) := by
    rw [Run.ofSession, attaches]
    rfl
  rw [attached, Outcome.bind_apply, first]
  change Run.ofExcept (handle.container after) after = _
  rw [gives after (by rw [same]; rfl)]
  rfl

/-! ## Questions -/

/-- A text that is a mark: a single octet, and not one that separates columns. -/
structure Marks (text : String) (mark : UInt8) : Prop where
  single : Utf8.ofString text = #[mark]
  noSeparator : mark ≠ columnSeparator
  /-- No process is given an argument with a NUL in it. -/
  noTerminator : mark ≠ columnTerminator

/-- A process asks for a column of a table behind an object. -/
structure Asks (table : Query -> Command) (query : Query) (column : Nat) (object : StoredFile)
    (address : Nat) (arguments : List String) (files : FileSystem) : Prop where
  usable : UsableBase address
  asked : Request.ofArguments arguments = .run (table query)
  shown : query.segment.Shows files object
  means : Numeral query.column column

/-- Whoever asks about an object is answered from head lines and data lines. -/
structure Answering (object : StoredFile) (headLines dataLines : List (List Char)) : Prop where
  data : forall {query column address arguments files},
    Asks .data query column object address arguments files ->
      forall {numeral number}, query.line = some numeral -> Numeral numeral number ->
        (runFrom address arguments files).1.Answers
          ((field? dataLines number column).map fun field => line (String.ofList field))
  head : forall {query column address arguments files},
    Asks .head query column object address arguments files -> query.mark = none ->
      forall {numeral number}, query.line = some numeral -> Numeral numeral number ->
        (runFrom address arguments files).1.Answers
          ((field? headLines number column).map fun field => line (String.ofList field))
  /-- The first line with the mark decides; no later line is tried. -/
  marked : forall {query column address arguments files},
    Asks .head query column object address arguments files ->
      forall {text mark}, query.mark = some text -> Marks text mark ->
        (runFrom address arguments files).1.Answers
          ((firstWith? headLines mark).bind fun index =>
            (field? headLines (index + 1) column).map fun field =>
              line s!"line {index + 1}" ++ line (String.ofList field))

section Answering

variable {history : DraftHistory} {parts : SourceParts} {object : StoredFile}
  (kept : history.Kept) (records : history.Records parts)
include kept records

section Container

variable {base : UInt64} (aligned : base.toNat % headerAlignment = 0) {host : Host}
  {query : Query} {column : Nat} (means : Numeral query.column column)
include aligned means

/-- A column by line comes to the field there. -/
theorem comesTo_field (kind : TableKind) {numeral : String} {number : Nat}
    (given : query.line = some numeral) (counts : Numeral numeral number) (missing : Refusal) :
    (columnOf query >>= fun word =>
      columnByLine (history.draft.view .distances base) kind query word missing).ComesTo host
        ((field? (parts.linesOf kind) number column).map fun field =>
          line (String.ofList field)) := by
  have legible := history.draft.legible_distances aligned
  rw [records.map_field?_eq kind number column line]
  refine comesTo_of_column means rfl ?_ ?_
  · rintro word rfl
    exact comesTo_columnByLine kept legible kind given counts word missing
  · intro large
    rw [kept.cell?_eq_none (.inr large)]
    rfl

/-- A column by mark comes to the field of the first line with the mark. -/
theorem comesTo_markedField {text : String} {mark : UInt8} (marks : Marks text mark) :
    (columnOf query >>= columnByMark (history.draft.view .distances base) text).ComesTo host
      ((firstWith? parts.headLines mark).bind fun index =>
        (field? parts.headLines (index + 1) column).map fun field =>
          line s!"line {index + 1}" ++ line (String.ofList field)) := by
  have legible := history.draft.legible_distances aligned
  have first := records.firstMarked_eq ⟨marks.noSeparator, marks.noTerminator⟩
  have shown : (firstWith? parts.headLines mark).bind (fun index =>
      (field? parts.headLines (index + 1) column).map fun field =>
        line s!"line {index + 1}" ++ line (String.ofList field)) =
      (history.firstMarked mark).bind fun index =>
        (history.cell? .head (index + 1) column).map fun octets =>
          line s!"line {index + 1}" ++ line (Utf8.decodeLossy octets) := by
    rw [first]
    congr 1
    funext index
    exact records.map_field?_eq .head (index + 1) column fun text =>
      line s!"line {index + 1}" ++ line text
  rw [shown]
  refine comesTo_of_column means rfl ?_ ?_
  · rintro word rfl
    exact comesTo_columnByMark kept legible marks.single word
  · intro large
    rw [Option.bind_eq_none_iff]
    intro index _
    rw [kept.cell?_eq_none (.inr large)]
    rfl

end Container

/-- An object that holds the canonical form of a draft is answered for from the lines that the
draft records. -/
theorem answering_of_records (readable : object.isReadable = true)
    (holds : object.content = history.draft.serialized.toArray) :
    Answering object parts.headLines parts.dataLines := by
  have attaches : forall {table query column address arguments files},
      Asks table query column object address arguments files ->
        exists after, attached query.segment (newProcess address files) =
          (.ok (history.draft.view .distances (UInt64.ofNat address)), after) := by
    intro table query column address arguments files asks
    refine attached_newProcess asks.shown readable ?_
    rw [holds, history.draft.serialized_eq]
    exact Container.ofRelocated_eq_ok_iff.mpr
      ⟨kept.bounded.ofSpan_eq .distances asks.usable.aligned_ofNat, rfl⟩
  constructor
  case data =>
    intro query column address arguments files asks numeral number given counts
    rcases attaches asks with ⟨after, ran⟩
    rw [runFrom_of_command asks.asked]
    exact (Run.ComesTo.of_bind ran (comesTo_field kept records asks.usable.aligned_ofNat
      asks.means .data given counts .dataLineMissing)).answers
  case head =>
    intro query column address arguments files asks unmarked numeral number given counts
    rcases attaches asks with ⟨after, ran⟩
    rw [runFrom_of_command asks.asked]
    refine (Run.ComesTo.of_bind ran ?_).answers
    simp only [unmarked]
    exact comesTo_field kept records asks.usable.aligned_ofNat asks.means .head given counts
      .headLineMissing
  case marked =>
    intro query column address arguments files asks text mark given marks
    rcases attaches asks with ⟨after, ran⟩
    rw [runFrom_of_command asks.asked]
    refine (Run.ComesTo.of_bind ran ?_).answers
    simp only [given]
    exact comesTo_markedField kept records asks.usable.aligned_ofNat asks.means marks

end Answering

/-- A text that is accepted for publication is found under its segment; whoever asks about it
later is answered with the fields of its head lines and data lines, and with nothing else; and
all of them can be asked for. -/
theorem published_source_answers {publishing : List String} {source : String}
    {segment : SegmentConfig} {files : FileSystem} {stored : StoredFile} {text : List Char}
    {version : String} {body headLines dataLines : List (List Char)} {address : Nat}
    (asked : Request.ofArguments publishing = .run (.publish source .source segment))
    (usable : UsableBase address) (read : files.read source = .ok stored)
    (written : stored.content = Utf8.encode text) (opens : OpensWith (lines text) version body)
    (divides : DividesInto body headLines dataLines)
    (accepted : (runFrom address publishing files).1.code = 0) :
    exists object, segment.Shows (runFrom address publishing files).2 object ∧
      Answering object headLines dataLines ∧
      forall place, Arguments.GivenFrom segmentOptions place -> LookupsTaken place := by
  have parses : Draft.ofFile files source = Draft.ofText text := by
    rw [Draft.ofFile, read]
    simp only [written, Utf8.characters?_encode]
  cases parsed : Draft.ofText text with
  | error error =>
      rw [runFrom_publish_of_unparsed asked (parses.trans parsed)] at accepted
      cases accepted
  | ok draft =>
      rcases DraftHistory.exists_kept_of_ofText parsed with ⟨history, kept, rfl, records⟩
      rw [SourceParts.ofLines_eq opens divides] at records
      have gives := gives_of_source usable (parses.trans parsed)
      cases free : segment.objectPlace files with
      | error error =>
          rw [runFrom_publish_of_error asked gives free] at accepted
          cases accepted
      | ok place =>
          rcases runFrom_publish_of_ok asked gives free with ⟨after, ran, found⟩
          rcases Outcome.bind_eq_ok_iff.mp free with ⟨_, valid, _⟩
          have usual : segment.permissions = unnamedSegment.permissions :=
            permissions_of_ofArguments asked rfl
          refine ⟨segment.publishedFile _, ⟨valid, by rw [ran]; exact found⟩,
            answering_of_records kept records ?_ rfl, fun _ => lookupsTaken⟩
          rw [segment.isReadable_publishedFile, usual]
          decide

/-- A working directory with a source that has one head line and two data lines. -/
def sampleFiles : FileSystem :=
  (hostHolding (Utf8.encode Draft.sampleSource)).files

theorem published_source_answers_sample :
    exists stored body,
      Request.ofArguments ["publish", "--source", "kb"] =
          .run (.publish "kb" .source unnamedSegment) ∧
        UsableBase 4096 ∧ sampleFiles.read "kb" = .ok stored ∧
        stored.content = Utf8.encode Draft.sampleSource ∧
        OpensWith (lines Draft.sampleSource) "r1" body ∧
        DividesInto body ["hi\tx".toList] [[], "\tok".toList] ∧
        (runFrom 4096 ["publish", "--source", "kb"] sampleFiles).1.code = 0 ∧
        exists object,
          unnamedSegment.Shows (runFrom 4096 ["publish", "--source", "kb"] sampleFiles).2 object ∧
            Answering object ["hi\tx".toList] [[], "\tok".toList] ∧
            (forall place, Arguments.GivenFrom segmentOptions place -> LookupsTaken place) ∧
            (runFrom 8192 ["head", "-p", "h", "-c", "2"]
              (runFrom 4096 ["publish", "--source", "kb"] sampleFiles).2).1.Answers
                (some "line 1\nx\n") := by
  have asked : Request.ofArguments ["publish", "--source", "kb"] =
      .run (.publish "kb" .source unnamedSegment) := by decide +kernel
  have usable : UsableBase 4096 := ⟨by decide, by decide, by decide⟩
  have later : UsableBase 8192 := ⟨by decide, by decide, by decide⟩
  have read : sampleFiles.read "kb" = .ok
      { content := Utf8.encode Draft.sampleSource,
        permissions := FileSystem.plainPermissions } := by decide +kernel
  have opens : OpensWith (lines Draft.sampleSource) "r1"
      (["hi\tx".toList] ++ [] :: [[], "\tok".toList]) :=
    .tagged "r1 ".toList _
  have divides : DividesInto (["hi\tx".toList] ++ [] :: [[], "\tok".toList])
      ["hi\tx".toList] [[], "\tok".toList] :=
    .split _ _ (by decide)
  have free : unnamedSegment.objectPlace sampleFiles = .ok ["dev", "shm", "sharedkb"] := by
    decide +kernel
  have parsed : Draft.ofFile sampleFiles "kb" = .ok
      { version := "r1"
        head := ⟨#[⟨#[104, 105, 0, 120, 0], #[0, 3]⟩], 16⟩
        data := ⟨#[⟨#[0], #[0]⟩, ⟨#[0, 111, 107, 0], #[0, 1]⟩], 16⟩ } := by decide +kernel
  rcases runFrom_publish_of_ok asked (gives_of_source usable parsed) free with ⟨after, ran, _⟩
  have accepted : (runFrom 4096 ["publish", "--source", "kb"] sampleFiles).1.code = 0 := by
    rw [ran]
    rfl
  rcases published_source_answers asked usable read rfl opens divides accepted with
    ⟨object, shows, answering, taken⟩
  refine ⟨_, _, asked, usable, read, rfl, opens, divides, accepted, object, shows, answering,
    taken, ?_⟩
  have two : Numeral "2" 2 := ⟨by decide, by decide, by decide⟩
  have asks : Asks .head { segment := unnamedSegment, line := none, column := "2", mark := "h" } 2
      object 8192 ["head", "-p", "h", "-c", "2"]
        (runFrom 4096 ["publish", "--source", "kb"] sampleFiles).2 :=
    ⟨later, by decide +kernel, shows, two⟩
  have marks : Marks "h" 104 := ⟨by decide, by decide, by decide⟩
  exact answering.marked asks rfl marks

end CommandLine
end MappedTables
