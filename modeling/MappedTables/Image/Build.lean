import MappedTables.Draft
import MappedTables.Image
import MappedTables.Layout.Align

namespace MappedTables

/-!
Laying a draft out in memory.

The container header comes first, then the slots of the head table, the slots
of the data table and the version area; behind them, for each row in order, the
table of its column starts at an even place and its text.  A first pass over the
rows finds out how many octets are needed.  A second pass visits the rows in the
same order, stores their octets in a zeroed arena and writes their slots, every
reference being the address of what it refers to.
-/

namespace DraftRow

/-- The first place behind a row whose storage may start at `cursor`. -/
def footprint (row : DraftRow) (cursor : Nat) : Except Abort Nat := do
  return (← alignUp cursor startsAlignment) + 2 * row.starts.size + row.text.size

end DraftRow

namespace Draft

/-- The place of the first head slot. -/
def headArray : Nat := leastContainerSize

/-- The place of the first data slot. -/
def dataArray (draft : Draft) : Nat :=
  headArray + draft.head.capacity * rowSlotSize

/-- The place of the first slot of a table. -/
def arrayOf (draft : Draft) : TableKind -> Nat
  | .head => headArray
  | .data => draft.dataArray

def versionArea (draft : Draft) : Nat :=
  draft.dataArray + draft.data.capacity * rowSlotSize

/-- The place from which on rows are stored. -/
def rowsArea (draft : Draft) : Nat :=
  draft.versionArea + versionAreaSize

/-- All rows in the order in which they are stored. -/
def allRows (draft : Draft) : List DraftRow :=
  draft.head.rows.toList ++ draft.data.rows.toList

/-- The number of octets that the container needs. -/
def capacity (draft : Draft) : Except Abort Nat := do
  let stop ← draft.allRows.foldlM (fun cursor row => row.footprint cursor) draft.rowsArea
  alignUp stop headerAlignment

end Draft

/-- Memory that is being filled from the front. -/
structure Arena where
  span : Span
  /-- The first place that holds no row yet. -/
  cursor : Nat
  deriving DecidableEq, Repr

namespace Arena

/-- The live reference to a place in the arena. -/
def reference (base : UInt64) (offset : Nat) : Reference :=
  .live (addressAt base (UInt64.ofNat offset))

/-- Store a row at the cursor and its header in the slot at `slot`.  A row
without columns has no table of starts to refer to. -/
def storeRow (arena : Arena) (slot : Nat) (row : DraftRow) : Except Fault Arena := do
  let startsAt ← alignUp arena.cursor startsAlignment
  let textAt := startsAt + 2 * row.starts.size
  let base := arena.span.base
  let starts := row.starts.toList.flatMap (LittleEndian.encode 2)
  let span ← arena.span.put startsAt starts
  let span ← span.put textAt row.text.toList
  let startsReference :=
    if row.starts.isEmpty then .live 0 else reference base startsAt
  let header ← RowHeader.ofReferences (reference base textAt) startsReference
    (UInt16.ofNat row.text.size) (UInt16.ofNat row.starts.size)
  let span ← span.putHeader slot header
  return { span, cursor := textAt + row.text.size }

/-- Store rows one after the other, their slots from `slot` on. -/
def storeRows (arena : Arena) (slot : Nat) : List DraftRow -> Except Fault Arena
  | [] => .ok arena
  | row :: rest => do
      (← arena.storeRow slot row).storeRows (slot + rowSlotSize) rest

end Arena

namespace Draft

/-- The header of a table as the arena at `base` holds it. -/
def tableHeader (draft : Draft) (kind : TableKind) (base : UInt64) : TableHeader :=
  TableHeader.ofReference (Arena.reference base (draft.arrayOf kind))
    (UInt32.ofNat (draft.length kind)) (UInt32.ofNat (draft.table kind).capacity)

/-- Lay the draft out as a live image at the address `base`. -/
def build (draft : Draft) (base : UInt64) : Except Fault Image := do
  let capacity ← draft.capacity
  let arena : Arena :=
    { span := { base, bytes := Bytes.zeros capacity }, cursor := draft.rowsArea }
  let arena ← arena.storeRows headArray draft.head.rows.toList
  let arena ← arena.storeRows draft.dataArray draft.data.rows.toList
  let span ← arena.span.put draft.versionArea (Utf8.ofString draft.version).toList
  let header := ContainerHeader.ofParts .live (draft.tableHeader .head base)
    (draft.tableHeader .data base) (UInt64.ofNat capacity)
    (Arena.reference base draft.versionArea)
  let span ← span.putHeader 0 header
  return { span }

end Draft
end MappedTables
