import MappedTables.Span
import MappedTables.Text.Utf8

namespace MappedTables

/-!
Rows: texts that are divided into columns.

The text of a row holds its columns one after the other, each followed by a
NUL, and a table of column starts says where each of them begins.  Columns are
counted from one.  A column reaches from its start to the next NUL or to the end
of the row, whichever comes first.

The place of one entry in the table of starts is computed by a plain sum of
machine words, so reading a column stops where that sum does not fit; reading
the whole table goes through the range check instead and fails.
-/

/-- The octet that ends every column. -/
def columnTerminator : UInt8 := 0

/-- A row of a table, in the mode of its table. -/
structure Row where
  span : Span
  header : RowHeader
  deriving DecidableEq, Repr

/-- Octets of a column and the address at which they stand. -/
structure ColumnText where
  address : UInt64
  octets : Bytes
  deriving DecidableEq, Repr

namespace Row

/-- The row described by a slot, which must be in the mode of its table. -/
def ofHeader (span : Span) (header : RowHeader) (expected : AddressMode) :
    Except Error Row := do
  let mode ← header.mode
  if mode ≠ expected then
    throw (.modeViolation (.rowInTable mode expected))
  return { span, header }

/-- Octets of the text. -/
def length (row : Row) : Nat :=
  row.header.length.toNat

def columnCount (row : Row) : Nat :=
  row.header.columns.toNat

/-- The whole text, column terminators included. -/
def text (row : Row) : Except Error Bytes := do
  row.span.resolve (← row.header.textReference) row.length

/-- The first octet of the text, by which head rows are searched.  A row whose
text is empty or cannot be read has none. -/
def mark? (row : Row) : Option UInt8 :=
  match row.text with
  | .ok octets => octets[0]?
  | .error _ => none

/-- The entry of a table of column starts. -/
def startEntry (table : Bytes) (index : Nat) : Nat :=
  table.field (2 * index) 2

def columnStarts (row : Row) : Except Error (List Nat) := do
  match ← row.header.startsReference with
  | none => return []
  | some reference =>
      let table ← row.span.resolve reference (2 * row.columnCount)
      return (List.range row.columnCount).map (startEntry table)

/-- The position in the text where a column begins. -/
def columnStart (row : Row) (column : UInt16) : Except Fault Nat := do
  if column = 0 ∨ row.header.columns < column then
    throw (.error (.outOfBounds .column column.toNat row.columnCount))
  match ← row.header.startsReference with
  | none => throw (.error (.outOfBounds .column column.toNat 0))
  | some reference =>
      let table ← reference.offsetFrom row.span.base
      let entry := table.toNat + 2 * (column.toNat - 1)
      if addressLimit <= entry then
        throw (.abort .overflow)
      let start := startEntry (← row.span.slice entry 2) 0
      if row.length < start then
        throw (.error (.malformed (.columnPastRow column.toNat start row.length)))
      return start

/-- What is left of a text from `start` on; stops where the text is shorter. -/
def tail (octets : Bytes) (start : Nat) : Except Abort Bytes :=
  if start <= octets.size then .ok (octets.extract start octets.size)
  else .error .outOfRange

/-- The address of the first octet of the text. -/
def textAddress (row : Row) : Except Error UInt64 := do
  return (← row.header.textReference).address row.span.base

/-- The address of the first octet of a column, the text of the row being
wholly inside the container. -/
def columnAddress (row : Row) (column : UInt16) : Except Fault UInt64 := do
  let start ← row.columnStart column
  let octets ← row.text
  let _ ← tail octets start
  return (← row.textAddress) + UInt64.ofNat start

/-- A column: its octets up to the next terminator or the end of the row. -/
def column (row : Row) (column : UInt16) : Except Fault ColumnText := do
  let start ← row.columnStart column
  let octets ← tail (← row.text) start
  return {
    address := (← row.textAddress) + UInt64.ofNat start
    octets := octets.takeWhile (· ≠ columnTerminator) }

/-- A column as characters, `none` when its octets are not well-formed UTF-8. -/
def columnString (row : Row) (column : UInt16) : Except Fault (Option String) := do
  return Utf8.decode? (← row.column column).octets

/-- Refuse column starts that decrease or pass the end of the text, the next
column being number `column` and the previous start `previous`. -/
def checkStarts (length : Nat) : Nat -> Nat -> List Nat -> Except Error Unit
  | _, _, [] => .ok ()
  | column, previous, start :: rest =>
      if start < previous ∨ length < start then
        .error (.malformed (.columnOrder column start previous length))
      else checkStarts length (column + 1) start rest

/-- Refuse a row whose column starts are out of order or whose text or table of
starts does not lie inside the container. -/
def validate (row : Row) : Except Error Unit := do
  checkStarts row.length 1 0 (← row.columnStarts)
  let _ ← row.text

end Row
end MappedTables
