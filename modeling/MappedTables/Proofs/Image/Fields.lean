import MappedTables.Proofs.Draft.Source
import MappedTables.Proofs.Image.Marks

namespace MappedTables

/-!
Fields of a source.

The tabs of a line divide it into fields, and the cells of a history that
records a source are the octets of these fields and no others.  A line can be
found by its first octet as well, unless that octet is a tab: a tab in front of
a line is stored as the terminator of an empty column, and a terminator is no
octet that a line can have.
-/

/-- A field of a line, both counted from one. -/
def field? (sourceLines : List (List Char)) (line column : Nat) : Option (List Char) :=
  if line = 0 ∨ column = 0 then none
  else sourceLines[line - 1]?.bind fun text => (text.splitOn '\t')[column - 1]?

/-- The position of the first line that begins with an octet. -/
def firstWith? (sourceLines : List (List Char)) (octet : UInt8) : Option Nat :=
  sourceLines.findIdx? fun line => (Utf8.encode line).toList.head? == some octet

/-- The lines that become the rows of a table. -/
def SourceParts.linesOf (parts : SourceParts) : TableKind -> List (List Char)
  | .head => parts.headLines
  | .data => parts.dataLines

/-- The first octet of a line is that of its row, tabs and terminators apart. -/
theorem head?_textOf_columnsOfLine {octet : UInt8} (line : List Char)
    (text : octet ≠ columnSeparator ∧ octet ≠ columnTerminator) :
    (DraftRow.textOf (columnsOfLine line)).head? = some octet <->
      (Utf8.encode line).toList.head? = some octet := by
  rw [textOf_columnsOfLine]
  cases (Utf8.encode line).toList with
  | nil =>
      simp only [List.map_nil, List.nil_append, List.head?_cons, List.head?_nil, Option.some.injEq,
        reduceCtorEq, iff_false]
      exact Ne.symm text.2
  | cons first rest =>
      simp only [List.map_cons, List.cons_append, List.head?_cons, Option.some.injEq]
      by_cases tab : first = columnSeparator
      · have stored : storedOctet first = columnTerminator := if_pos tab
        rw [stored, tab]
        exact ⟨fun same => absurd same.symm text.2, fun same => absurd same.symm text.1⟩
      · have stored : storedOctet first = first := if_neg tab
        rw [stored]

namespace DraftHistory

/-- The rows are the lines of a source, each divided into its columns. -/
def Records (history : DraftHistory) (parts : SourceParts) : Prop :=
  forall kind, history.rows kind = (parts.linesOf kind).map columnsOfLine

/-- The draft of a text that is accepted keeps the history of the text's parts. -/
theorem exists_kept_of_ofText {text : List Char} {draft : Draft}
    (parsed : Draft.ofText text = .ok draft) :
    exists history : DraftHistory, history.Kept ∧ history.draft = draft ∧
      history.Records (SourceParts.ofLines (lines text)) := by
  refine ⟨_, kept_ofText parsed, rfl, fun kind => ?_⟩
  cases kind with
  | head => rfl
  | data => rfl

variable {history : DraftHistory} {parts : SourceParts}

/-- The cells are the octets of the fields. -/
theorem Records.cell?_eq (records : history.Records parts) (kind : TableKind)
    (line column : Nat) :
    history.cell? kind line column =
      (field? (parts.linesOf kind) line column).map Utf8.encode := by
  rw [cell?, row?, records kind, field?]
  by_cases first : line = 0
  · simp [first]
  · by_cases front : column = 0
    · simp [first, front]
    · simp only [first, front, or_self, if_false, List.getElem?_map, Option.bind_map,
        Option.map_bind]
      congr 1
      funext text
      simp only [Function.comp_apply, columnsOfLine, pieces_eq_splitOn, List.getElem?_map]

/-- What is made of a field as a text can be made of the octets of its cell. -/
theorem Records.map_field?_eq {Value : Type} (records : history.Records parts)
    (kind : TableKind) (line column : Nat) (make : String -> Value) :
    (field? (parts.linesOf kind) line column).map (fun field => make (String.ofList field)) =
      (history.cell? kind line column).map fun octets => make (Utf8.decodeLossy octets) := by
  rw [records.cell?_eq, Option.map_map]
  congr 1
  funext field
  rw [Function.comp_apply, Utf8.decodeLossy_encode]

/-- A search by mark comes to the first line that begins with the mark. -/
theorem Records.firstMarked_eq (records : history.Records parts) {octet : UInt8}
    (text : octet ≠ columnSeparator ∧ octet ≠ columnTerminator) :
    history.firstMarked octet = firstWith? parts.headLines octet := by
  have rows : history.headRows = parts.headLines.map columnsOfLine := records .head
  rw [firstMarked, firstWith?, rows, List.findIdx?_map]
  congr 1
  funext line
  rw [Bool.eq_iff_iff, Function.comp_apply, beq_iff_eq, beq_iff_eq]
  exact head?_textOf_columnsOfLine line text

/-- No cell lies where a machine word could not point to. -/
theorem Kept.cell?_lt (kept : history.Kept) {kind : TableKind} {line column : Nat}
    {octets : Bytes} (present : history.cell? kind line column = some octets) :
    line < UInt32.size ∧ column < UInt16.size := by
  have table := kept.table kind
  rcases Option.bind_eq_some_iff.mp present with ⟨columns, line_eq, column_eq⟩
  unfold row? at line_eq
  split at line_eq
  case isTrue => cases line_eq
  case isFalse =>
    split at column_eq
    case isTrue => cases column_eq
    case isFalse =>
      have inside := (List.getElem?_eq_some_iff.mp line_eq).1
      have within := (List.getElem?_eq_some_iff.mp column_eq).1
      have rows := table.size_eq
      have slots := table.size_le_capacity
      have limit := table.capacity_le
      have fewer := DraftRow.length_le_length_textOf columns
      have room := (table.admissible columns (List.mem_of_getElem? line_eq)).room
      have lines : tableLimit = 2 ^ 32 - 1 := rfl
      have octets : rowLimit = 2 ^ 16 - 1 := rfl
      have words : UInt32.size = 2 ^ 32 := rfl
      have halves : UInt16.size = 2 ^ 16 := rfl
      omega

theorem Kept.cell?_eq_none (kept : history.Kept) {kind : TableKind} {line column : Nat}
    (outside : ¬ line < UInt32.size ∨ ¬ column < UInt16.size) :
    history.cell? kind line column = none := by
  cases present : history.cell? kind line column with
  | none => rfl
  | some octets =>
      rcases kept.cell?_lt present with ⟨inLines, inColumns⟩
      exact absurd outside (not_or.mpr ⟨not_not.mpr inLines, not_not.mpr inColumns⟩)

end DraftHistory
end MappedTables
