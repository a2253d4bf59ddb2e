import Mathlib.Data.List.Basic
import Mathlib.Data.List.TakeWhile
import MappedTables.Proofs.Draft.History
import MappedTables.Proofs.Text.Lines
import MappedTables.Proofs.Text.Utf8

namespace MappedTables

/-!
Text sources.

What a source describes is said here without the parser: a version line, if the
first line opens with the key; head lines up to the first empty line; data lines
behind it.  A line is stored as it stands, with a terminator for every tab and
one more at the end.  A text is accepted exactly if each of its lines fits into a
row, and nothing is lost: the rows of the draft are the stored forms of all the
lines, in their order.
-/

/-- The octet of a tab. -/
def columnSeparator : UInt8 := 9

/-- What is stored for an octet of a line. -/
def storedOctet (octet : UInt8) : UInt8 :=
  if octet = columnSeparator then columnTerminator else octet

/-- The stored form of a line.  Every tab becomes a terminator, one more terminator ends the
row, and a column begins at the front and behind every tab. -/
def rowOfLine (line : List Char) : DraftRow where
  text := ((Utf8.encode line).map storedOctet).push columnTerminator
  starts :=
    (0 :: ((Utf8.encode line).toList.findIdxs (· = columnSeparator)).map (· + 1)).toArray

/-- A line that fits into a row. -/
structure Storable (line : List Char) : Prop where
  clean : columnTerminator ∉ Utf8.encode line
  room : (Utf8.encode line).size <= 65534

/-- The version tag that a token stands for, which is none if the token is no tag. -/
def tagOfToken (token : List Char) : String :=
  if isVersionTag (trimEnd token) then String.ofList (trimEnd token) else ""

/-- The lines of a source are a version line with the given tag and a body, or a body that
does not open with a version line. -/
inductive OpensWith : List (List Char) -> String -> List (List Char) -> Prop where
  | tagged (token : List Char) (body : List (List Char)) :
      OpensWith ((versionKey ++ token) :: body) (tagOfToken token) body
  | untagged (body : List (List Char))
      (absent : forall token rest, body ≠ (versionKey ++ token) :: rest) :
      OpensWith body "" body

/-- The body of a source is divided by its first empty line; without one it is all head. -/
inductive DividesInto : List (List Char) -> List (List Char) -> List (List Char) -> Prop where
  | whole (head : List (List Char)) (filled : [] ∉ head) : DividesInto head head []
  | split (head data : List (List Char)) (filled : [] ∉ head) :
      DividesInto (head ++ [] :: data) head data

/-! ## Lines as rows -/

/-- A character that is no tab belongs to the first column of the line that it opens. -/
theorem columnsOfLine_cons {character : Char} (rest : List Char) (other : character ≠ '\t') :
    exists first others, columnsOfLine rest = first :: others ∧
      columnsOfLine (character :: rest) =
        ((String.utf8EncodeChar character).toArray ++ first) :: others := by
  unfold columnsOfLine
  rw [pieces_cons, if_neg other]
  cases cut : pieces '\t' rest with
  | nil => exact absurd cut (pieces_ne_nil '\t' rest)
  | cons piece others =>
      refine ⟨Utf8.encode piece, others.map Utf8.encode, rfl, ?_⟩
      rw [consFirst, List.map_cons, Utf8.encode_cons]

theorem columnsOfLine_tab (rest : List Char) :
    columnsOfLine ('\t' :: rest) = #[] :: columnsOfLine rest := by
  rw [columnsOfLine, pieces_cons, if_pos rfl]
  rfl

theorem encode_tab (rest : List Char) :
    (Utf8.encode ('\t' :: rest)).toList = columnSeparator :: (Utf8.encode rest).toList := by
  rw [Utf8.encode_cons, Array.toList_append]
  rfl

/-- No other character has the octet of a tab in it. -/
theorem separator_notMem {character : Char} (other : character ≠ '\t') :
    columnSeparator ∉ String.utf8EncodeChar character := by
  intro member
  rw [Utf8.mem_utf8EncodeChar_iff (by decide)] at member
  exact other (Char.toNat_inj.mp member)

theorem map_storedOctet {character : Char} (other : character ≠ '\t') :
    (String.utf8EncodeChar character).map storedOctet = String.utf8EncodeChar character := by
  have kept : forall octet, octet ∈ String.utf8EncodeChar character ->
      storedOctet octet = id octet := by
    intro octet member
    apply if_neg
    intro same
    exact separator_notMem other (same ▸ member)
  rw [List.map_congr_left kept, List.map_id]

theorem textOf_columnsOfLine (line : List Char) :
    DraftRow.textOf (columnsOfLine line) =
      (Utf8.encode line).toList.map storedOctet ++ [columnTerminator] := by
  induction line with
  | nil => rfl
  | cons character rest ih =>
      by_cases tab : character = '\t'
      · rw [tab, columnsOfLine_tab, encode_tab, DraftRow.textOf_cons, ih]
        rfl
      · rcases columnsOfLine_cons rest tab with ⟨first, others, cut, joined⟩
        rw [cut, DraftRow.textOf_cons] at ih
        rw [joined, DraftRow.textOf_cons, Array.toList_append, List.append_assoc,
          List.append_assoc, <- List.append_assoc first.toList, ih, Utf8.encode_cons,
          Array.toList_append, List.map_append, map_storedOctet tab, List.append_assoc]

theorem startsFrom_columnsOfLine (start : Nat) (line : List Char) :
    DraftRow.startsFrom start (columnsOfLine line) =
      start :: ((Utf8.encode line).toList.findIdxs (· = columnSeparator) start).map (· + 1) := by
  induction line generalizing start with
  | nil => rfl
  | cons character rest ih =>
      by_cases tab : character = '\t'
      · rw [tab, columnsOfLine_tab, encode_tab, DraftRow.startsFrom, ih, List.findIdxs_cons,
          if_pos (by decide)]
        rfl
      · rcases columnsOfLine_cons rest tab with ⟨first, others, cut, joined⟩
        have none :
            (String.utf8EncodeChar character).findIdxs (· = columnSeparator) start = [] := by
          apply List.findIdxs_eq_nil_iff.mpr
          intro octet member
          exact decide_eq_false fun same => separator_notMem tab (same ▸ member)
        have later := ih (start + (String.utf8EncodeChar character).length)
        rw [cut, DraftRow.startsFrom, List.cons.injEq] at later
        rw [joined, DraftRow.startsFrom, Array.size_append, List.size_toArray, <- Nat.add_assoc,
          later.2, Utf8.encode_cons, Array.toList_append, List.findIdxs_append, none]
        rfl

/-- A line is stored as the row that holds its columns. -/
theorem holding_columnsOfLine (line : List Char) :
    DraftRow.holding (columnsOfLine line) = rowOfLine line := by
  have text : (DraftRow.textOf (columnsOfLine line)).toArray = (rowOfLine line).text := by
    apply Array.toList_inj.mp
    rw [textOf_columnsOfLine, rowOfLine, Array.toList_push, Array.toList_map]
  rw [DraftRow.holding, text, startsFrom_columnsOfLine]
  rfl

/-- A line fits into a row exactly if its columns are admissible. -/
theorem admissible_columnsOfLine_iff (line : List Char) :
    DraftRow.Admissible (columnsOfLine line) <-> Storable line := by
  have size : (DraftRow.textOf (columnsOfLine line)).length = (Utf8.encode line).size + 1 := by
    rw [textOf_columnsOfLine]
    simp
  have terminator : columnTerminator ∈ Utf8.encode line <->
      exists column, column ∈ columnsOfLine line ∧ columnTerminator ∈ column := by
    have ascii : forall characters, columnTerminator ∈ Utf8.encode characters <->
        '\x00' ∈ characters := fun _ => @Utf8.mem_encode_iff '\x00' _ (by decide)
    rw [ascii, <- mem_pieces_iff (by decide : '\x00' ≠ '\t')]
    simp [columnsOfLine, ascii]
  constructor
  · intro admissible
    have room := admissible.room
    refine ⟨fun member => ?_, ?_⟩
    · rcases terminator.mp member with ⟨column, inside, dirty⟩
      exact admissible.clean column inside dirty
    · rw [size, rowLimit] at room
      exact Nat.le_of_succ_le_succ room
  · intro storable
    refine ⟨fun column inside dirty => ?_, ?_⟩
    · exact storable.clean (terminator.mpr ⟨column, inside, dirty⟩)
    · rw [size, rowLimit]
      exact Nat.succ_le_succ storable.room

/-! ## Parts of a source -/

theorem DividesInto.cons {line : List Char} {body head data : List (List Char)}
    (filled : line ≠ []) (divides : DividesInto body head data) :
    DividesInto (line :: body) (line :: head) data := by
  cases divides with
  | whole _ others =>
      exact .whole (line :: body) fun member =>
        (List.mem_cons.mp member).elim (Ne.symm filled) others
  | split _ _ others =>
      exact .split (line :: head) data fun member =>
        (List.mem_cons.mp member).elim (Ne.symm filled) others

namespace SourceParts

theorem divides_ofBody (version : String) (body : List (List Char)) :
    DividesInto body (ofBody version body).headLines (ofBody version body).dataLines := by
  induction body with
  | nil => exact .whole [] List.not_mem_nil
  | cons line rest ih =>
      by_cases empty : line = []
      · subst empty
        exact .split [] rest List.not_mem_nil
      · have head : (ofBody version (line :: rest)).headLines =
            line :: (ofBody version rest).headLines := by
          simp [ofBody, empty]
        have data : (ofBody version (line :: rest)).dataLines =
            (ofBody version rest).dataLines := by
          simp [ofBody, empty]
        rw [head, data]
        exact ih.cons empty

/-- A body is divided in one way. -/
theorem ofBody_eq {version : String} {body head data : List (List Char)}
    (divides : DividesInto body head data) : ofBody version body = ⟨version, head, data⟩ := by
  have filled : forall {part : List (List Char)}, [] ∉ part -> forall line, line ∈ part ->
      decide (line ≠ []) = true := by
    intro part apart line member
    exact decide_eq_true fun empty => apart (empty ▸ member)
  cases divides with
  | whole _ apart =>
      have taken : body.takeWhile (· ≠ []) = body := List.takeWhile_eq_self_iff.mpr (filled apart)
      have dropped : body.dropWhile (· ≠ []) = [] := List.dropWhile_eq_nil_iff.mpr (filled apart)
      rw [ofBody, taken, dropped]
      rfl
  | split _ _ apart =>
      have taken : (head ++ [] :: data).takeWhile (· ≠ []) = head := by
        rw [List.takeWhile_append_of_pos (filled apart)]
        exact List.append_nil head
      have dropped : (head ++ [] :: data).dropWhile (· ≠ []) = [] :: data :=
        List.dropWhile_append_of_pos (filled apart)
      rw [ofBody, taken, dropped]
      rfl

/-- What follows the key in a version line stands for the version tag. -/
theorem ofLines_tagged (token : List Char) (body : List (List Char)) :
    ofLines ((versionKey ++ token) :: body) = ofBody (tagOfToken token) body := by
  have key : isVersionLine (versionKey ++ token) = true :=
    List.isPrefixOf_iff_prefix.mpr ⟨token, rfl⟩
  simp only [ofLines, if_pos key, versionOfLine?, List.drop_left, tagOfToken]
  split <;> rfl

theorem ofLines_untagged {body : List (List Char)}
    (absent : forall token rest, body ≠ (versionKey ++ token) :: rest) :
    ofLines body = ofBody "" body := by
  cases body with
  | nil => rfl
  | cons first rest =>
      apply if_neg
      intro key
      rcases List.isPrefixOf_iff_prefix.mp key with ⟨token, opened⟩
      exact absent token rest (by rw [opened])

/-- The parts of a source are its version tag, and its body divided. -/
theorem exists_body (sourceLines : List (List Char)) :
    exists body, OpensWith sourceLines (ofLines sourceLines).version body ∧
      DividesInto body (ofLines sourceLines).headLines (ofLines sourceLines).dataLines := by
  by_cases tagged : exists token rest, sourceLines = (versionKey ++ token) :: rest
  · rcases tagged with ⟨token, rest, rfl⟩
    rw [ofLines_tagged]
    exact ⟨rest, .tagged token rest, divides_ofBody (tagOfToken token) rest⟩
  · have absent : forall token rest, sourceLines ≠ (versionKey ++ token) :: rest :=
      fun token rest same => tagged ⟨token, rest, same⟩
    rw [ofLines_untagged absent]
    exact ⟨sourceLines, .untagged sourceLines absent, divides_ofBody "" sourceLines⟩

/-- They are the parts of the source in only one way. -/
theorem ofLines_eq {sourceLines body head data : List (List Char)} {version : String}
    (opens : OpensWith sourceLines version body) (divides : DividesInto body head data) :
    ofLines sourceLines = ⟨version, head, data⟩ := by
  cases opens with
  | tagged token =>
      rw [ofLines_tagged]
      exact ofBody_eq divides
  | untagged _ absent =>
      rw [ofLines_untagged absent]
      exact ofBody_eq divides

end SourceParts

/-- The head and the data lines are lines of the source. -/
theorem length_parts_le {sourceLines body head data : List (List Char)} {version : String}
    (opens : OpensWith sourceLines version body) (divides : DividesInto body head data) :
    head.length + data.length <= sourceLines.length := by
  have inBody : head.length + data.length <= body.length := by
    cases divides with
    | whole => exact Nat.le_refl _
    | split =>
        rw [List.length_append, List.length_cons]
        exact Nat.add_le_add_left (Nat.le_succ _) _
  cases opens with
  | tagged token => exact Nat.le_succ_of_le inBody
  | untagged => exact inBody

/-! ## Admission of a source -/

namespace Draft

theorem exists_pushed {draft : Draft} {kind : TableKind} {columns : List Bytes}
    (admissible : DraftRow.Admissible columns)
    (room : (draft.table kind).rows.size < tableLimit) :
    exists grown, draft.push kind columns = .ok grown := by
  have pushed : exists table, (draft.table kind).push (DraftRow.holding columns) = .ok table :=
    ⟨_, if_neg (Nat.not_le.mpr room)⟩
  rcases pushed with ⟨table, added⟩
  exact ⟨_, (push_eq_ok_iff draft _ kind columns).mpr ⟨table, admissible, added, rfl⟩⟩

/-- Lines that fit into rows are admitted while the table has room. -/
theorem exists_pushedLines {draft : Draft} {kind : TableKind} {sourceLines : List (List Char)}
    {rows : TableKind -> List (List Bytes)}
    (holds : forall other, (draft.table other).Holds (rows other))
    (storable : forall line, line ∈ sourceLines -> Storable line)
    (room : (rows kind).length + sourceLines.length <= tableLimit) :
    exists grown, draft.pushLines kind sourceLines = .ok grown := by
  induction sourceLines generalizing draft rows with
  | nil => exact ⟨draft, rfl⟩
  | cons line rest ih =>
      rw [List.length_cons] at room
      have admissible := (admissible_columnsOfLine_iff line).mpr (storable line List.mem_cons_self)
      have slot : (draft.table kind).rows.size < tableLimit := by
        rw [(holds kind).size_eq]
        omega
      rcases exists_pushed admissible slot with ⟨next, first⟩
      have later : (if kind = kind then rows kind ++ [columnsOfLine line] else rows kind).length +
          rest.length <= tableLimit := by
        rw [if_pos rfl, List.length_append, List.length_singleton]
        omega
      rcases ih (holds_push holds first).2
        (fun other member => storable other (List.mem_cons_of_mem _ member)) later with
        ⟨grown, others⟩
      refine ⟨grown, ?_⟩
      rw [pushLines, List.foldlM_cons, first]
      exact others

/-! Every refusal of a row is a refusal of an argument. -/

theorem kind_of_addColumn {row : DraftRow} {column : Bytes} {error : Error}
    (refused : row.addColumn column = .error error) : error.kind = .invalidParameter := by
  unfold DraftRow.addColumn at refused
  split at refused
  · cases refused
    rfl
  · split at refused
    · cases refused
      rfl
    · cases refused

theorem kind_of_ofColumns {columns : List Bytes} {error : Error}
    (refused : DraftRow.ofColumns columns = .error error) : error.kind = .invalidParameter := by
  unfold DraftRow.ofColumns at refused
  rcases Outcome.bind_eq_error_iff.mp refused with folding | ⟨row, _, checking⟩
  · rcases Outcome.exists_of_foldlM_eq_error folding with ⟨_, _, adding⟩
    exact kind_of_addColumn adding
  · by_cases long : rowLimit < row.text.size
    · rw [if_pos long] at checking
      cases checking
      rfl
    · rw [if_neg long] at checking
      by_cases many : rowLimit < row.starts.size
      · rw [if_pos many] at checking
        cases checking
        rfl
      · rw [if_neg many] at checking
        cases checking

theorem kind_of_pushRow {table : DraftTable} {row : DraftRow} {error : Error}
    (refused : table.push row = .error error) : error.kind = .invalidParameter := by
  unfold DraftTable.push at refused
  split at refused
  · cases refused
    rfl
  · cases refused

theorem kind_of_push {draft : Draft} {kind : TableKind} {columns : List Bytes} {error : Error}
    (refused : draft.push kind columns = .error error) : error.kind = .invalidParameter := by
  unfold push at refused
  rcases Outcome.bind_eq_error_iff.mp refused with building | ⟨row, _, adding⟩
  · exact kind_of_ofColumns building
  · cases kind with
    | head =>
        rcases Outcome.bind_eq_error_iff.mp adding with full | ⟨_, _, done⟩
        · exact kind_of_pushRow full
        · cases done
    | data =>
        rcases Outcome.bind_eq_error_iff.mp adding with full | ⟨_, _, done⟩
        · exact kind_of_pushRow full
        · cases done

theorem kind_of_ofText {text : List Char} {error : Error}
    (refused : ofText text = .error error) : error.kind = .invalidParameter := by
  unfold ofText at refused
  rcases Outcome.bind_eq_error_iff.mp refused with head | ⟨_, _, data⟩
  · rcases Outcome.exists_of_foldlM_eq_error head with ⟨_, _, pushing⟩
    exact kind_of_push pushing
  · rcases Outcome.exists_of_foldlM_eq_error data with ⟨_, _, pushing⟩
    exact kind_of_push pushing

/-- A text whose lines fit into rows is accepted. -/
theorem exists_ofText {text : List Char} (few : (lines text).length < 2 ^ 32)
    (storable : forall line,
      line ∈ (SourceParts.ofLines (lines text)).headLines ++
          (SourceParts.ofLines (lines text)).dataLines -> Storable line) :
    exists draft, ofText text = .ok draft := by
  rcases SourceParts.exists_body (lines text) with ⟨_, opens, divides⟩
  have fewer := length_parts_le opens divides
  have limit : tableLimit = 2 ^ 32 - 1 := rfl
  have pushed : exists draft,
      (pushLines { version := (SourceParts.ofLines (lines text)).version } .head
        (SourceParts.ofLines (lines text)).headLines >>= fun withHead =>
          withHead.pushLines .data (SourceParts.ofLines (lines text)).dataLines) = .ok draft := by
    generalize SourceParts.ofLines (lines text) = parts at storable fewer ⊢
    have headRoom : ([] : List (List Bytes)).length + parts.headLines.length <= tableLimit := by
      rw [List.length_nil]
      omega
    have dataRoom : ([] : List (List Bytes)).length + parts.dataLines.length <= tableLimit := by
      rw [List.length_nil]
      omega
    rcases @exists_pushedLines _ .head parts.headLines _ (holds_nothing parts.version)
      (fun line member => storable line (List.mem_append_left _ member)) headRoom with
      ⟨withHead, first⟩
    have headHolds := (holds_pushLines (holds_nothing parts.version) first).2
    rcases @exists_pushedLines withHead .data parts.dataLines _ headHolds
      (fun line member => storable line (List.mem_append_right _ member)) dataRoom with
      ⟨draft, second⟩
    exact ⟨draft, Outcome.bind_eq_ok_iff.mpr ⟨withHead, first, second⟩⟩
  exact pushed

/-- A text of fewer than two to the thirty-second lines is accepted exactly if every line of
its head and of its data fits into a row.  An accepted text keeps its version tag and all these
lines, each as its stored form; any other is refused as an invalid argument. -/
theorem ofText_accepts_exactly (text : List Char) (few : (lines text).length < 2 ^ 32) :
    exists version body head data,
      OpensWith (lines text) version body ∧ DividesInto body head data ∧
        ((exists draft, ofText text = .ok draft) <->
          forall line, line ∈ head ++ data -> Storable line) ∧
        (forall draft, ofText text = .ok draft ->
          draft.version = version ∧ draft.head.rows.toList = head.map rowOfLine ∧
            draft.data.rows.toList = data.map rowOfLine) ∧
        forall error, ofText text = .error error -> error.kind = .invalidParameter := by
  rcases SourceParts.exists_body (lines text) with ⟨body, opens, divides⟩
  have stored : forall {table : DraftTable} {sourceLines : List (List Char)},
      table.Holds (sourceLines.map columnsOfLine) ->
        table.rows.toList = sourceLines.map rowOfLine := by
    intro table sourceLines holds
    rw [holds.rows_eq, List.map_map]
    exact List.map_congr_left fun line _ => holding_columnsOfLine line
  have fits : forall {table : DraftTable} {sourceLines : List (List Char)},
      table.Holds (sourceLines.map columnsOfLine) ->
        forall line, line ∈ sourceLines -> Storable line := by
    intro table sourceLines holds line member
    exact (admissible_columnsOfLine_iff line).mp
      (holds.admissible _ (List.mem_map_of_mem member))
  refine ⟨_, body, _, _, opens, divides, ⟨?_, exists_ofText few⟩, ?_, fun _ => kind_of_ofText⟩
  · rintro ⟨draft, parsed⟩ line member
    rcases holds_ofText parsed with ⟨_, head, data⟩
    rcases List.mem_append.mp member with inHead | inData
    · exact fits head line inHead
    · exact fits data line inData
  · intro draft parsed
    rcases holds_ofText parsed with ⟨version, head, data⟩
    exact ⟨version, stored head, stored data⟩

/-- A version line with blanks behind its tag, a head row of two columns, the empty line, an
empty data row, and a data row with an empty column. -/
def sampleSource : List Char :=
  "VERSION=r1 \r\nhi\tx\n\n\n\tok".toList

theorem ofText_accepts_exactly_sample :
    (lines sampleSource).length < 2 ^ 32 ∧
      exists version body head data,
        OpensWith (lines sampleSource) version body ∧ DividesInto body head data ∧
          ((exists draft, ofText sampleSource = .ok draft) <->
            forall line, line ∈ head ++ data -> Storable line) ∧
          (forall draft, ofText sampleSource = .ok draft ->
            draft.version = version ∧ draft.head.rows.toList = head.map rowOfLine ∧
              draft.data.rows.toList = data.map rowOfLine) ∧
          forall error, ofText sampleSource = .error error -> error.kind = .invalidParameter := by
  have few : (lines sampleSource).length < 2 ^ 32 := by decide
  exact ⟨few, ofText_accepts_exactly sampleSource few⟩

example : ofText sampleSource = .ok
    { version := "r1"
      head := ⟨#[⟨#[104, 105, 0, 120, 0], #[0, 3]⟩], 16⟩
      data := ⟨#[⟨#[0], #[0]⟩, ⟨#[0, 111, 107, 0], #[0, 1]⟩], 16⟩ } := by
  cbv

end Draft
end MappedTables
