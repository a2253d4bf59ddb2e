import MappedTables.Proofs.Layout.Places
import MappedTables.Proofs.StoredHeader

namespace MappedTables

/-!
A container as one sequence of parts.

The octets of a container are a header, the slots of both tables, the version
area, the rows and some padding, in this order.  Only the words of the headers
depend on the way in which places are referred to.  So there is one encoding of
a draft, which takes this way as a parameter: with addresses it describes what a
live image holds, with distances what a relocated one holds.
-/

/-- A way in which the words of a container refer to its places. -/
structure Addressing where
  mode : AddressMode
  word : Nat -> UInt64

namespace Addressing

/-- References are distances from the first octet. -/
def distances : Addressing where
  mode := .relocatable
  word := UInt64.ofNat

/-- References are addresses, the first octet standing at `base`. -/
def addressesFrom (base : UInt64) : Addressing where
  mode := .live
  word := fun place => addressAt base (UInt64.ofNat place)

end Addressing

namespace RowHeader

/-- A slot without a row. -/
def unused (mode : AddressMode) : RowHeader where
  textWord := 0
  startsWord := 0
  length := 0
  columns := 0
  modeFlag := mode.flag
  reserved := 0

/-- A live slot without a row is a run of zeros. -/
theorem encode_unused_live :
    StoredHeader.encode (unused .live) = blank rowSlotSize := by
  decide

end RowHeader

theorem length_flatMap_slots (slots : List RowHeader) :
    (slots.flatMap StoredHeader.encode).length = 24 * slots.length :=
  length_flatMap_of_length length_encode slots

namespace DraftRow

/-- The slot of a row, storage for the row being free from `cursor` on. -/
def slot (row : DraftRow) (addressing : Addressing) (cursor : Nat) : RowHeader where
  textWord := addressing.word (row.textPlace cursor)
  startsWord := if row.starts.isEmpty then 0 else addressing.word (startsPlace cursor)
  length := UInt16.ofNat row.text.size
  columns := UInt16.ofNat row.starts.size
  modeFlag := addressing.mode.flag
  reserved := 0

/-- The slots of rows that are stored one behind the other. -/
def slots (addressing : Addressing) : Nat -> List DraftRow -> List RowHeader
  | _, [] => []
  | cursor, row :: rest =>
      row.slot addressing cursor :: slots addressing (row.stopPlace cursor) rest

section Small

variable {row : DraftRow} (small : row.Small) (addressing : Addressing) (cursor : Nat)
include small

/-- The length of the text is stored without loss. -/
theorem Small.toNat_length_slot : (row.slot addressing cursor).length.toNat = row.text.size := by
  have room := small.text_le
  unfold rowLimit at room
  rw [slot, UInt16.toNat_ofNat', Nat.mod_eq_of_lt (by omega)]

/-- So is the number of columns. -/
theorem Small.toNat_columns_slot :
    (row.slot addressing cursor).columns.toNat = row.starts.size := by
  have room := small.starts_le
  unfold rowLimit at room
  rw [slot, UInt16.toNat_ofNat', Nat.mod_eq_of_lt (by omega)]

end Small

/-- The table of starts of a row. -/
def startsTable (row : DraftRow) : List UInt8 :=
  row.starts.toList.flatMap (LittleEndian.encode 2)

/-- The octets from `cursor` to the end of the row that is stored there. -/
def stored (row : DraftRow) (cursor : Nat) : List UInt8 :=
  blank (startsPlace cursor - cursor) ++ row.startsTable ++ row.text.toList

/-- The octets from `cursor` to the end of the last of several rows. -/
def storedFrom : Nat -> List DraftRow -> List UInt8
  | _, [] => []
  | cursor, row :: rest => row.stored cursor ++ storedFrom (row.stopPlace cursor) rest

@[simp] theorem length_slots (addressing : Addressing) (cursor : Nat) (rows : List DraftRow) :
    (slots addressing cursor rows).length = rows.length := by
  induction rows generalizing cursor with
  | nil => rfl
  | cons row rest ih => rw [slots, List.length_cons, ih, List.length_cons]

@[simp] theorem length_startsTable (row : DraftRow) :
    row.startsTable.length = 2 * row.starts.size := by
  rw [startsTable, length_flatMap_of_length (LittleEndian.length_encode 2),
    Array.length_toList]

theorem length_stored (row : DraftRow) (cursor : Nat) :
    cursor + (row.stored cursor).length = row.stopPlace cursor := by
  have rounded := le_startsPlace cursor
  simp only [stored, List.length_append, List.length_replicate, length_startsTable,
    Array.length_toList, stopPlace, textPlace]
  omega

theorem length_storedFrom (cursor : Nat) (rows : List DraftRow) :
    cursor + (storedFrom cursor rows).length = stopOf cursor rows := by
  induction rows generalizing cursor with
  | nil => rfl
  | cons row rest ih =>
      have first := row.length_stored cursor
      have later := ih (row.stopPlace cursor)
      rw [storedFrom, List.length_append, stopOf_cons]
      omega

theorem storedFrom_append (cursor : Nat) (before after : List DraftRow) :
    storedFrom cursor (before ++ after) =
      storedFrom cursor before ++ storedFrom (stopOf cursor before) after := by
  induction before generalizing cursor with
  | nil => rfl
  | cons row rest ih =>
      rw [List.cons_append, storedFrom, ih, storedFrom, List.append_assoc, stopOf_cons]

end DraftRow

namespace Draft

/-- The slots of a table, those without a row included. -/
def tableSlots (draft : Draft) (addressing : Addressing) (kind : TableKind) :
    List RowHeader :=
  DraftRow.slots addressing (draft.firstPlace kind) (draft.table kind).rows.toList ++
    List.replicate ((draft.table kind).capacity - (draft.table kind).rows.size)
      (.unused addressing.mode)

/-- The octets of the slots of a table. -/
def tableOctets (draft : Draft) (addressing : Addressing) (kind : TableKind) : List UInt8 :=
  (draft.tableSlots addressing kind).flatMap StoredHeader.encode

/-- The header of a table. -/
def encodedTableHeader (draft : Draft) (addressing : Addressing) (kind : TableKind) :
    TableHeader where
  arrayWord := addressing.word (draft.arrayOf kind)
  length := UInt32.ofNat (draft.length kind)
  capacity := UInt32.ofNat (draft.table kind).capacity
  modeFlag := addressing.mode.flag
  reserved := 0

/-- The header of the container. -/
def encodedHeader (draft : Draft) (addressing : Addressing) : ContainerHeader where
  magic := containerMagic
  layoutVersion := MappedTables.layoutVersion
  modeFlag := addressing.mode.flag
  reserved := 0
  head := draft.encodedTableHeader addressing .head
  data := draft.encodedTableHeader addressing .data
  capacity := UInt64.ofNat draft.extent
  versionWord := addressing.word draft.versionArea

/-- The version area. -/
def versionField (draft : Draft) : List UInt8 :=
  (Utf8.ofString draft.version).toList ++
    blank (versionAreaSize - (Utf8.ofString draft.version).size)

/-- The octets of the container that holds a draft. -/
def encodedWith (draft : Draft) (addressing : Addressing) : List UInt8 :=
  StoredHeader.encode (draft.encodedHeader addressing) ++
    draft.tableOctets addressing .head ++
    draft.tableOctets addressing .data ++
    draft.versionField ++
    DraftRow.storedFrom draft.rowsArea draft.allRows ++
    blank (draft.extent - draft.stop)

theorem Bounded.length_tableSlots {draft : Draft} (bounded : draft.Bounded)
    (addressing : Addressing) (kind : TableKind) :
    (draft.tableSlots addressing kind).length = (draft.table kind).capacity := by
  have fits := bounded.size_le_capacity kind
  rw [tableSlots, List.length_append, DraftRow.length_slots, List.length_replicate,
    Array.length_toList]
  omega

theorem Bounded.length_tableOctets {draft : Draft} (bounded : draft.Bounded)
    (addressing : Addressing) (kind : TableKind) :
    (draft.tableOctets addressing kind).length = 24 * (draft.table kind).capacity := by
  rw [tableOctets, length_flatMap_slots, bounded.length_tableSlots]

/-- In a live container the slots without a row are a run of zeros. -/
theorem tableOctets_live (draft : Draft) (base : UInt64) (kind : TableKind) :
    draft.tableOctets (.addressesFrom base) kind =
      (DraftRow.slots (.addressesFrom base) (draft.firstPlace kind)
        (draft.table kind).rows.toList).flatMap StoredHeader.encode ++
      blank (24 * ((draft.table kind).capacity - (draft.table kind).rows.size)) := by
  have slotSize : rowSlotSize = 24 := rfl
  rw [tableOctets, tableSlots, List.flatMap_append, List.flatMap_replicate]
  change _ ++ (List.replicate _ (StoredHeader.encode (RowHeader.unused .live))).flatten = _
  rw [RowHeader.encode_unused_live, List.flatten_replicate_replicate, slotSize,
    Nat.mul_comm 24]

theorem Bounded.length_versionField {draft : Draft} (bounded : draft.Bounded) :
    draft.versionField.length = versionAreaSize := by
  have fits := bounded.version_lt
  rw [versionField, List.length_append, List.length_replicate, Array.length_toList]
  omega

theorem Bounded.length_encodedWith {draft : Draft} (bounded : draft.Bounded)
    (addressing : Addressing) : (draft.encodedWith addressing).length = draft.extent := by
  have header : (StoredHeader.encode (draft.encodedHeader addressing)).length = 80 :=
    length_encode _
  have rows := DraftRow.length_storedFrom draft.rowsArea draft.allRows
  have rounded := draft.stop_le_extent
  have area : draft.rowsArea =
    80 + 24 * (draft.table .head).capacity + 24 * (draft.table .data).capacity +
      versionAreaSize := draft.rowsArea_eq
  have stop : DraftRow.stopOf draft.rowsArea draft.allRows = draft.stop := rfl
  simp only [encodedWith, List.length_append, List.length_replicate, header,
    bounded.length_tableOctets, bounded.length_versionField]
  omega

/-- The version area stands at its place. -/
theorem Bounded.version_stands {draft : Draft} (bounded : draft.Bounded)
    (addressing : Addressing) :
    exists front back, front.length = draft.versionArea ∧
      draft.encodedWith addressing = front ++ draft.versionField ++ back := by
  refine ⟨StoredHeader.encode (draft.encodedHeader addressing) ++
    draft.tableOctets addressing .head ++ draft.tableOctets addressing .data,
    DraftRow.storedFrom draft.rowsArea draft.allRows ++ blank (draft.extent - draft.stop),
    ?_, ?_⟩
  · have header : (StoredHeader.encode (draft.encodedHeader addressing)).length = 80 :=
      length_encode _
    simp only [List.length_append, header, bounded.length_tableOctets, table, versionArea_eq]
  · simp only [encodedWith, List.append_assoc]

theorem table_encodedHeader (draft : Draft) (addressing : Addressing) (kind : TableKind) :
    (draft.encodedHeader addressing).table kind = draft.encodedTableHeader addressing kind := by
  cases kind with
  | head => rfl
  | data => rfl

/-- The header at the front of an encoded draft. -/
theorem headerAt_encodedWith (draft : Draft) (addressing : Addressing) {base : UInt64}
    (aligned : base.toNat % headerAlignment = 0) :
    Span.headerAt ⟨base, (draft.encodedWith addressing).toArray⟩ ContainerHeader 0 =
      .ok (draft.encodedHeader addressing) := by
  simp only [encodedWith, List.append_assoc]
  exact Span.headerAt_front base _ _ (by decide) aligned

end Draft
end MappedTables
