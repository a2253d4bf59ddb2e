import MappedTables.LeastNumber
import MappedTables.Row

namespace MappedTables

/-!
Tables: sequences of rows of one mode.

Rows are counted from zero here and read one by one, each through its own range
check, so a table whose array reaches outside the container still gives the rows
that do not.
-/

/-- A table of a container, in the mode of the container. -/
structure Table where
  span : Span
  header : TableHeader
  /-- The mode of the table and of every row that can be read from it. -/
  mode : AddressMode
  deriving DecidableEq, Repr

namespace Table

/-- The table described by a header, which must be in the mode of its container. -/
def ofHeader (span : Span) (header : TableHeader) (expected : AddressMode) :
    Except Error Table := do
  let mode ← header.mode
  if mode ≠ expected then
    throw (.modeViolation (.tableInContainer mode expected))
  return { span, header, mode }

def length (table : Table) : Nat :=
  table.header.length.toNat

def capacity (table : Table) : Nat :=
  table.header.capacity.toNat

/-- The row at a position counted from zero. -/
def rowAt (table : Table) (index : Nat) : Except Error Row := do
  if table.length <= index then
    throw (.outOfBounds .row index table.length)
  let array ← (← table.header.arrayReference).offsetFrom table.span.base
  let offset := array.toNat + index * rowSlotSize
  if addressLimit <= offset then
    throw (.malformed (.rowArrayOverflow array.toNat))
  Row.ofHeader table.span (← table.span.headerAt RowHeader offset) table.mode

/-- The address of a column of the row at `index`. -/
def columnAddressAt (table : Table) (index : Nat) (column : UInt16) :
    Except Fault UInt64 := do
  (← table.rowAt index).columnAddress column

/-- A column of the row at `index`. -/
def columnAt (table : Table) (index : Nat) (column : UInt16) :
    Except Fault ColumnText := do
  (← table.rowAt index).column column

/-- Every row, or what keeps it from being read. -/
def rows (table : Table) : List (Except Error Row) :=
  (List.range table.length).map table.rowAt

/-- The mark of the row at `index`, if there is such a row and it has one. -/
def markAt? (table : Table) (index : Nat) : Option UInt8 :=
  match table.rowAt index with
  | .ok row => row.mark?
  | .error _ => none

/-- The position of the first row with a given mark.  Rows that cannot be read
have no mark and are passed over. -/
def find? (table : Table) (mark : UInt8) : Option Nat :=
  leastFrom (fun index => table.markAt? index == some mark) table.length 0

/-- Refuse the rows at the `count` positions from `start` on, by the first of
them that is not well formed. -/
def validateFrom (table : Table) : Nat -> Nat -> Except Error Unit
  | 0, _ => .ok ()
  | count + 1, start => do
      (← table.rowAt start).validate
      table.validateFrom count (start + 1)

/-- Refuse a table with a row that is not well formed. -/
def validate (table : Table) : Except Error Unit :=
  table.validateFrom table.length 0

end Table
end MappedTables
