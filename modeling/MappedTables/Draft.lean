import MappedTables.Row
import MappedTables.VersionTag

namespace MappedTables

/-!
Drafts: the rows of a container before it is laid out.

A draft row is already in the form in which it will be stored, its columns one
after the other with a NUL behind each, and the starts of the columns beside
it.  A row is admitted if no column contains a NUL and the whole text is at most
65535 octets long, so that every start and the length fit into sixteen bits.
Each table records how many slots it will have: none at first, sixteen from the
first row on, and twice as many whenever a row arrives at a full table.
-/

/-- The greatest number that fits into sixteen bits. -/
def rowLimit : Nat := 65535

/-- The greatest number that fits into thirty-two bits. -/
def tableLimit : Nat := 4294967295

/-- Slots of a table that holds its first row. -/
def initialCapacity : Nat := 16

structure DraftRow where
  /-- The columns, each followed by a terminator. -/
  text : Bytes := #[]
  starts : Array Nat := #[]
  deriving DecidableEq, Repr

namespace DraftRow

/-- The row with one more column behind the others. -/
def addColumn (row : DraftRow) (column : Bytes) : Except Error DraftRow :=
  if column.contains columnTerminator then .error (.invalidParameter .nulInColumn)
  else if rowLimit < row.text.size then .error (.invalidParameter .rowTooLong)
  else
    let start := row.text.size
    .ok { text := (row.text ++ column).push columnTerminator
          starts := row.starts.push start }

/-- The row with the given columns. -/
def ofColumns (columns : List Bytes) : Except Error DraftRow := do
  let row ← columns.foldlM addColumn {}
  if rowLimit < row.text.size then
    throw (.invalidParameter .rowTooLong)
  if rowLimit < row.starts.size then
    throw (.invalidParameter .tooManyColumns)
  return row

end DraftRow

structure DraftTable where
  rows : Array DraftRow := #[]
  capacity : Nat := 0
  deriving DecidableEq, Repr

namespace DraftTable

/-- Slots of a table of `capacity` slots that has to take one row more. -/
def grow (capacity : Nat) : Nat :=
  if capacity = 0 then initialCapacity else min (2 * capacity) tableLimit

/-- The table with one more row behind the others. -/
def push (table : DraftTable) (row : DraftRow) : Except Error DraftTable :=
  if tableLimit <= table.rows.size then .error (.invalidParameter .tooManyRows)
  else
    let capacity :=
      if table.capacity <= table.rows.size then grow table.capacity else table.capacity
    .ok { rows := table.rows.push row, capacity }

end DraftTable

/-- The contents of a container before layout. -/
structure Draft where
  version : String := ""
  head : DraftTable := {}
  data : DraftTable := {}
  deriving DecidableEq, Repr

namespace Draft

/-- The draft with another version tag; the empty tag stands for none. -/
def withVersion (draft : Draft) (version : String) : Except Error Draft :=
  if version.isEmpty ∨ isVersionTag version.toList then .ok { draft with version }
  else .error (.invalidParameter .versionToken)

/-- The draft with one more row at the end of a table. -/
def push (draft : Draft) (kind : TableKind) (columns : List Bytes) : Except Error Draft := do
  let row ← DraftRow.ofColumns columns
  match kind with
  | .head => return { draft with head := ← draft.head.push row }
  | .data => return { draft with data := ← draft.data.push row }

def table (draft : Draft) : TableKind -> DraftTable
  | .head => draft.head
  | .data => draft.data

def length (draft : Draft) (kind : TableKind) : Nat :=
  (draft.table kind).rows.size

end Draft
end MappedTables
