import MappedTables.Proofs.Image.Relocating

namespace MappedTables

/-!
The canonical form of a draft.

A relocated image can be written down in one pass over the draft, from its first
octet to its last, with numbers that the draft alone determines.  No address
occurs in this serializer, and nothing is written twice.  Building and
relocating gives exactly its output, so the octets that leave a process do not
show where the image stood in it.
-/

namespace LittleEndian

/-! ## Numbers stored from machine words -/

theorem encode_uint64 (value : Nat) :
    encode 8 (UInt64.ofNat value).toNat = encode 8 value := by
  rw [UInt64.toNat_ofNat']
  exact encode_mod 8 value

theorem encode_uint32 (value : Nat) :
    encode 4 (UInt32.ofNat value).toNat = encode 4 value := by
  rw [UInt32.toNat_ofNat']
  exact encode_mod 4 value

theorem encode_uint16 (value : Nat) :
    encode 2 (UInt16.ofNat value).toNat = encode 2 value := by
  rw [UInt16.toNat_ofNat']
  exact encode_mod 2 value

end LittleEndian

/-! ## The serializer -/

namespace DraftRow

/-- The slot of a row. -/
def serializedSlot (row : DraftRow) (cursor : Nat) : List UInt8 :=
  LittleEndian.encodeFields
    [(8, row.textPlace cursor), (8, if row.starts.isEmpty then 0 else startsPlace cursor),
      (2, row.text.size), (2, row.starts.size), (1, 1), (3, 0)]

/-- The slots of rows that are stored from `cursor` on. -/
def serializedSlots : Nat -> List DraftRow -> List UInt8
  | _, [] => []
  | cursor, row :: rest =>
      row.serializedSlot cursor ++ serializedSlots (row.stopPlace cursor) rest

/-- Rows that are stored from `cursor` on: each of them padded to an even place,
its column starts, its text. -/
def serializedRows : Nat -> List DraftRow -> List UInt8
  | _, [] => []
  | cursor, row :: rest =>
      List.replicate (startsPlace cursor - cursor) 0 ++
        row.starts.toList.flatMap (LittleEndian.encode 2) ++
        row.text.toList ++
        serializedRows (row.stopPlace cursor) rest

end DraftRow

namespace Draft

/-- A slot without a row: zeros but for the mode. -/
def serializedFreeSlot : List UInt8 :=
  LittleEndian.encodeFields [(8, 0), (8, 0), (2, 0), (2, 0), (1, 1), (3, 0)]

/-- The header of a table whose slots begin at `array`. -/
def serializedTableHeader (array : Nat) (table : DraftTable) : List UInt8 :=
  LittleEndian.encodeFields
    [(8, array), (4, table.rows.size), (4, table.capacity), (1, 1), (7, 0)]

/-- The slots of a table whose rows are stored from `cursor` on. -/
def serializedTable (cursor : Nat) (table : DraftTable) : List UInt8 :=
  DraftRow.serializedSlots cursor table.rows.toList ++
    (List.replicate (table.capacity - table.rows.size) serializedFreeSlot).flatten

/-- The canonical form: header, slots, version area, rows, padding. -/
def serialized (draft : Draft) : List UInt8 :=
  LittleEndian.encodeFields [(8, containerMagic.toNat), (4, 1), (1, 1), (3, 0)] ++
    serializedTableHeader 80 draft.head ++
    serializedTableHeader (80 + 24 * draft.head.capacity) draft.data ++
    LittleEndian.encodeFields
      [(8, draft.extent), (8, 80 + 24 * draft.head.capacity + 24 * draft.data.capacity)] ++
    serializedTable draft.rowsArea draft.head ++
    serializedTable (DraftRow.stopOf draft.rowsArea draft.head.rows.toList) draft.data ++
    (Utf8.ofString draft.version).toList ++
    List.replicate (20 - (Utf8.ofString draft.version).size) 0 ++
    DraftRow.serializedRows draft.rowsArea draft.allRows ++
    List.replicate (draft.extent - draft.stop) 0

end Draft

/-! ## What it writes -/

namespace DraftRow

theorem serializedSlot_eq (row : DraftRow) (cursor : Nat) :
    row.serializedSlot cursor = StoredHeader.encode (row.slot .distances cursor) := by
  have starts : LittleEndian.encode 8
      (if row.starts.isEmpty then (0 : UInt64) else UInt64.ofNat (startsPlace cursor)).toNat =
        LittleEndian.encode 8 (if row.starts.isEmpty then 0 else startsPlace cursor) := by
    by_cases columnless : row.starts.isEmpty = true
    · rw [if_pos columnless, if_pos columnless]
      rfl
    · rw [if_neg columnless, if_neg columnless, LittleEndian.encode_uint64]
  rw [RowHeader.encode_eq_encodeFields]
  simp only [serializedSlot, LittleEndian.encodeFields, RowHeader.fields, slot,
    Addressing.distances, List.flatMap_cons, LittleEndian.encode_uint64,
    LittleEndian.encode_uint16, starts]
  rfl

theorem serializedSlots_eq (cursor : Nat) (rows : List DraftRow) :
    serializedSlots cursor rows =
      (slots .distances cursor rows).flatMap StoredHeader.encode := by
  induction rows generalizing cursor with
  | nil => rfl
  | cons row rest ih =>
      rw [serializedSlots, slots, List.flatMap_cons, serializedSlot_eq, ih]

theorem serializedRows_eq (cursor : Nat) (rows : List DraftRow) :
    serializedRows cursor rows = storedFrom cursor rows := by
  induction rows generalizing cursor with
  | nil => rfl
  | cons row rest ih =>
      rw [serializedRows, storedFrom, ih]
      rfl

end DraftRow

namespace Draft

theorem serializedFreeSlot_eq :
    serializedFreeSlot = StoredHeader.encode (RowHeader.unused .relocatable) := by
  decide

theorem serializedTable_eq (draft : Draft) (kind : TableKind) :
    serializedTable (draft.firstPlace kind) (draft.table kind) =
      draft.tableOctets .distances kind := by
  rw [serializedTable, tableOctets, tableSlots, List.flatMap_append, List.flatMap_replicate,
    DraftRow.serializedSlots_eq, serializedFreeSlot_eq]
  rfl

theorem serializedTableHeader_eq (draft : Draft) (kind : TableKind) :
    serializedTableHeader (draft.arrayOf kind) (draft.table kind) =
      StoredHeader.encode (draft.encodedTableHeader .distances kind) := by
  rw [TableHeader.encode_eq_encodeFields]
  simp only [serializedTableHeader, LittleEndian.encodeFields, TableHeader.fields,
    encodedTableHeader, Addressing.distances, List.flatMap_cons, LittleEndian.encode_uint64,
    LittleEndian.encode_uint32]
  rfl

/-- The serializer writes the encoding of the draft with distances. -/
theorem serialized_eq (draft : Draft) : draft.serialized = draft.encodedWith .distances := by
  have headHeader := draft.serializedTableHeader_eq .head
  have dataHeader := draft.serializedTableHeader_eq .data
  have headSlots := draft.serializedTable_eq .head
  have dataSlots := draft.serializedTable_eq .data
  simp only [arrayOf, headArray_eq, dataArray_eq, table] at headHeader dataHeader
  simp only [table, firstPlace] at headSlots dataSlots
  have trailing : LittleEndian.encodeFields
      [(8, draft.extent), (8, 80 + 24 * draft.head.capacity + 24 * draft.data.capacity)] =
        LittleEndian.encodeFields (draft.encodedHeader .distances).trailingFields := by
    simp only [LittleEndian.encodeFields, ContainerHeader.trailingFields, encodedHeader,
      Addressing.distances, List.flatMap_cons, LittleEndian.encode_uint64, versionArea_eq]
  rw [serialized, encodedWith, ContainerHeader.encode_eq_parts, headHeader, dataHeader,
    headSlots, dataSlots, trailing, DraftRow.serializedRows_eq, versionField]
  simp only [List.append_assoc]
  rfl

/-- Draft, base and image do not show in what leaves the process: an image built
anywhere relocates to the canonical form of its draft. -/
theorem relocate_build_eq_serialized (calls : List DraftCall) (base other : UInt64)
    (fits : (DraftHistory.after calls).draft.FitsAt base)
    (otherFits : (DraftHistory.after calls).draft.FitsAt other) :
    let draft := (DraftHistory.after calls).draft
    draft.capacity = .ok draft.serialized.length ∧
      exists image otherImage : Image,
        draft.build base = .ok image ∧ image.mode = .ok .live ∧
          image.relocate = (.ok (), ⟨⟨base, draft.serialized.toArray⟩⟩) ∧
        draft.build other = .ok otherImage ∧ otherImage.mode = .ok .live ∧
          otherImage.relocate = (.ok (), ⟨⟨other, draft.serialized.toArray⟩⟩) := by
  intro draft
  have bounded : draft.Bounded := (DraftHistory.kept_after calls).bounded
  have size := bounded.length_encodedWith .distances
  have mode : forall place : UInt64, place.toNat % headerAlignment = 0 ->
      Image.mode ⟨⟨place, (draft.encodedWith (.addressesFrom place)).toArray⟩⟩ =
        .ok .live := by
    intro place aligned
    rw [Image.mode, draft.headerAt_encodedWith _ aligned]
    exact AddressMode.ofFlag_flag .live
  rw [serialized_eq, size]
  exact ⟨bounded.capacity_eq, _, _,
    bounded.build_eq_ok base fits.aligned, mode base fits.aligned, fits.relocate_eq bounded,
    bounded.build_eq_ok other otherFits.aligned, mode other otherFits.aligned,
    otherFits.relocate_eq bounded⟩

theorem relocate_build_eq_serialized_sample :
    let draft := (DraftHistory.after DraftHistory.sampleCalls).draft
    draft.FitsAt 4096 ∧ draft.FitsAt 8192 ∧
      draft.capacity = .ok draft.serialized.length ∧
      exists image otherImage : Image,
        draft.build 4096 = .ok image ∧ image.mode = .ok .live ∧
          image.relocate = (.ok (), ⟨⟨4096, draft.serialized.toArray⟩⟩) ∧
        draft.build 8192 = .ok otherImage ∧ otherImage.mode = .ok .live ∧
          otherImage.relocate = (.ok (), ⟨⟨8192, draft.serialized.toArray⟩⟩) := by
  have fits : (DraftHistory.after DraftHistory.sampleCalls).draft.FitsAt 4096 :=
    DraftHistory.fitsAt_of_lt _ (by decide) (by decide) (by decide)
  have otherFits : (DraftHistory.after DraftHistory.sampleCalls).draft.FitsAt 8192 :=
    DraftHistory.fitsAt_of_lt _ (by decide) (by decide) (by decide)
  exact ⟨fits, otherFits, relocate_build_eq_serialized _ 4096 8192 fits otherFits⟩

end Draft
end MappedTables
