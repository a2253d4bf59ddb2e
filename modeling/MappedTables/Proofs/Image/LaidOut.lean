import MappedTables.Proofs.Image.Frame
import MappedTables.Proofs.Image.Passes
import MappedTables.Proofs.Image.Presentation

namespace MappedTables

/-!
Building is total, and its layout is sound.

A draft that was filled through its calls is built wherever there is room.  The
parts of the container are then where the draft says, apart from each other and
aligned, with zeros between them and no more octets behind them than alignment
asks for; and the numbers that the headers record about them are the numbers
themselves and not their remainders.
-/

/-- What the slot of a row records of it, and what its table of starts does. -/
structure DraftRow.Recorded (row : DraftRow) (base : UInt64) (place : Nat) (slot : RowHeader) :
    Prop where
  length_eq : slot.length.toNat = row.text.size
  columns_eq : slot.columns.toNat = row.starts.size
  text : slot.textWord.toNat = base.toNat + row.textPlace place
  starts : row.starts.size ≠ 0 -> slot.startsWord.toNat = base.toNat + startsPlace place
  entries : forall start, start ∈ row.starts.toList ->
    LittleEndian.decode (LittleEndian.encode 2 start) = start

/-- What the header of a container records of its tables and its version area. -/
structure Draft.Recorded (draft : Draft) (base : UInt64) (header : ContainerHeader) : Prop where
  capacity_eq : header.capacity.toNat = draft.extent
  length_eq : forall kind, (header.table kind).length.toNat = draft.length kind
  slots_eq : forall kind, (header.table kind).capacity.toNat = (draft.table kind).capacity
  array : forall kind, (header.table kind).arrayWord.toNat = base.toNat + draft.arrayOf kind
  version : header.versionWord.toNat = base.toNat + draft.versionArea

/-- The image is a sound layout of the draft. -/
structure Draft.LaidOut (draft : Draft) (base : UInt64) (image : Image) : Prop where
  /-- The container ends far below the limit of a machine word. -/
  few : image.capacity < 2 ^ 53
  octets : image.span.bytes.toList =
    Part.laid 0 (draft.parts (.addressesFrom base)) ++ blank (image.capacity - draft.stop)
  stands : forall part, part ∈ draft.parts (.addressesFrom base) ->
    part.StandsIn image.span.bytes.toList
  apart : (draft.parts (.addressesFrom base)).Pairwise Part.Apart
  inside : forall part, part ∈ draft.parts (.addressesFrom base) -> part.stop <= image.capacity
  aligned : forall part, part ∈ draft.parts (.addressesFrom base) ->
    part.place % part.role.alignment = 0
  whole : image.capacity % headerAlignment = 0
  least : forall bound, bound % headerAlignment = 0 ->
    (forall part, part ∈ draft.parts (.addressesFrom base) -> part.octets ≠ [] ->
      part.stop <= bound) ->
    image.capacity <= bound
  /-- Behind every row both passes have the same cursor. -/
  passes : forall count, exists arena,
    draft.storedTo base image.capacity count = .ok arena ∧
      draft.sizedTo count = .ok arena.cursor
  header : exists header, image.span.headerAt ContainerHeader 0 = .ok header ∧
    draft.Recorded base header
  /-- Every slot is among the parts, whether a row uses it or not. -/
  slots : forall kind number, number < (draft.table kind).capacity -> exists slot,
    image.span.headerAt RowHeader (draft.slotPlace kind number) = .ok slot ∧
      ⟨.slot, draft.slotPlace kind number, StoredHeader.encode slot⟩ ∈
        draft.parts (.addressesFrom base)
  /-- So are the table of starts and the text of every row, where its slot says. -/
  rows : forall kind number row, (draft.table kind).rows.toList[number]? = some row ->
    exists slot place,
      image.span.headerAt RowHeader (draft.slotPlace kind number) = .ok slot ∧
        row.Recorded base place slot ∧
        ⟨.starts, DraftRow.startsPlace place, row.startsTable⟩ ∈
          draft.parts (.addressesFrom base) ∧
        ⟨.text, row.textPlace place, row.text.toList⟩ ∈ draft.parts (.addressesFrom base)
  /-- The first NUL of the version area is right behind the tag. -/
  terminated : exists front padding back,
    image.span.bytes.toList =
        front ++ ((Utf8.ofString draft.version).toList ++ 0 :: padding) ++ back ∧
      front.length = draft.versionArea ∧
      ((Utf8.ofString draft.version).toList ++ 0 :: padding).length = versionAreaSize ∧
      0 ∉ (Utf8.ofString draft.version).toList

namespace Draft

variable {draft : Draft} {base : UInt64}

theorem FitsAt.recorded (fits : draft.FitsAt base) (bounded : draft.Bounded) :
    draft.Recorded base (draft.encodedHeader (.addressesFrom base)) := by
  have room := fits.room
  refine ⟨bounded.toNat_capacity _, fun kind => ?_, fun kind => ?_, fun kind => ?_, ?_⟩
  · rw [table_encodedHeader]
    exact bounded.toNat_length _ kind
  · rw [table_encodedHeader]
    exact bounded.toNat_slots _ kind
  · have slotsEnd := bounded.slotsEnd_le kind
    unfold versionAreaSize at slotsEnd
    rw [table_encodedHeader]
    exact Reference.toNat_addressAt (by omega)
  · have rows := draft.rowsArea_le_stop
    have rounded := draft.stop_le_extent
    have behind : draft.rowsArea = draft.versionArea + 20 := rfl
    exact Reference.toNat_addressAt (by omega)

theorem FitsAt.recorded_row (fits : draft.FitsAt base) (bounded : draft.Bounded)
    {kind : TableKind} {number : Nat} {row : DraftRow}
    (found : (draft.table kind).rows.toList[number]? = some row)
    (entries : forall start, start ∈ row.starts.toList -> start <= rowLimit) :
    row.Recorded base (draft.rowPlace kind number)
      (row.slot (.addressesFrom base) (draft.rowPlace kind number)) := by
  have small : row.Small := bounded.small row (draft.mem_allRows (List.mem_of_getElem? found))
  have reach := fits.reach _ (draft.textPlace_mem kind found)
  have earlier : DraftRow.startsPlace (draft.rowPlace kind number) <=
      row.textPlace (draft.rowPlace kind number) := Nat.le_add_right _ _
  refine ⟨small.toNat_length_slot _ _, small.toNat_columns_slot _ _,
    Reference.toNat_addressAt reach, fun filled => ?_, fun start member => ?_⟩
  · rw [startsWord_slot, if_neg filled]
    exact Reference.toNat_addressAt (by omega)
  · rw [LittleEndian.decode_encode]
    exact Nat.mod_eq_of_lt (Nat.lt_succ_of_le (entries start member))

theorem exists_slot (bounded : draft.Bounded) (addressing : Addressing) {kind : TableKind}
    {number : Nat} (inside : number < (draft.table kind).capacity) :
    exists slot, (draft.tableSlots addressing kind)[number]? = some slot := by
  rw [<- bounded.length_tableSlots addressing kind] at inside
  exact ⟨_, List.getElem?_eq_getElem inside⟩

/-- The version area ends with at least one zero. -/
theorem Bounded.exists_versionField_eq (bounded : draft.Bounded) :
    exists padding, draft.versionField =
      (Utf8.ofString draft.version).toList ++ 0 :: padding := by
  rcases Nat.exists_eq_add_of_lt bounded.version_lt with ⟨padding, room⟩
  refine ⟨blank padding, ?_⟩
  rw [versionField, room, Nat.add_assoc, Nat.add_sub_cancel_left]
  rfl

end Draft

namespace DraftHistory

variable {history : DraftHistory} {base : UInt64}

/-- The starts of a row are below the limit of its text. -/
theorem Kept.starts_le (kept : history.Kept) {kind : TableKind} {row : DraftRow}
    (member : row ∈ (history.draft.table kind).rows.toList) :
    forall start, start ∈ row.starts.toList -> start <= rowLimit := by
  intro start entry
  rw [(kept.table kind).rows_eq] at member
  rcases List.mem_map.mp member with ⟨columns, admitted, rfl⟩
  have room := ((kept.table kind).admissible columns admitted).room
  have bounds := Row.le_of_mem_startsFrom 0 columns start entry
  omega

theorem Kept.laidOut (kept : history.Kept) (fits : history.draft.FitsAt base) :
    history.draft.LaidOut base
      ⟨⟨base, (history.draft.encodedWith (.addressesFrom base)).toArray⟩⟩ := by
  have bounded := kept.bounded
  have limit := bounded.extent_lt
  have size : Image.capacity
      ⟨⟨base, (history.draft.encodedWith (.addressesFrom base)).toArray⟩⟩ =
        history.draft.extent := bounded.view_size _ base
  have ordered := bounded.ordered_parts (.addressesFrom base)
  refine ⟨?_, ?_, fun part => bounded.standsIn _, ordered.apart, ?_,
    fun part => history.draft.aligned_parts _, ?_, ?_, ?_, ?_, ?_, ?_, ?_⟩
  · rw [size]
    omega
  · rw [size]
    exact bounded.encodedWith_eq_laid _
  · intro part member
    rw [size]
    exact Nat.le_trans (bounded.stop_le _ member) history.draft.stop_le_extent
  · rw [size]
    exact roundUp_mod _ _
  · intro bound whole covered
    rw [size]
    exact bounded.extent_le_of_covered _ whole covered
  · rw [size]
    exact bounded.passes_agree fits.aligned
  · exact ⟨_, history.draft.headerAt_encodedWith _ fits.aligned, fits.recorded bounded⟩
  · intro kind number inside
    rcases Draft.exists_slot bounded (.addressesFrom base) inside with ⟨slot, found⟩
    exact ⟨slot, bounded.headerAt_slot _ fits.aligned found,
      history.draft.slot_mem_parts _ kind found⟩
  · intro kind number row found
    have slot := history.draft.tableSlots_of_row (.addressesFrom base) kind found
    have entries := kept.starts_le (List.mem_of_getElem? found)
    rcases history.draft.row_mem_parts (.addressesFrom base) kind found with ⟨starts, text⟩
    exact ⟨_, _, bounded.headerAt_slot _ fits.aligned slot,
      fits.recorded_row bounded found entries, starts, text⟩
  · rcases bounded.version_stands (.addressesFrom base) with ⟨front, back, place, octets⟩
    rcases bounded.exists_versionField_eq with ⟨padding, field⟩
    have length := bounded.length_versionField
    have clean := Utf8.zero_notMem_ofString_of_visible kept.visible
    rw [field] at octets length
    exact ⟨front, padding, back, octets, place, length,
      fun member => clean (Array.mem_toList_iff.mp member)⟩

end DraftHistory

/-- A draft that was filled by any calls is built where there is room, and its layout is
sound. -/
theorem Draft.build_lays_out (calls : List DraftCall) {base : UInt64}
    (fits : (DraftHistory.after calls).draft.FitsAt base) :
    exists image, (DraftHistory.after calls).draft.build base = .ok image ∧
      (DraftHistory.after calls).draft.LaidOut base image := by
  have kept := DraftHistory.kept_after calls
  exact ⟨_, kept.bounded.build_eq_ok base fits.aligned, kept.laidOut fits⟩

theorem Draft.build_lays_out_sample :
    let draft := (DraftHistory.after DraftHistory.sampleCalls).draft
    draft.FitsAt 4096 ∧ exists image, draft.build 4096 = .ok image ∧
      draft.LaidOut 4096 image := by
  intro draft
  have fits : draft.FitsAt 4096 :=
    DraftHistory.fitsAt_of_lt _ (by decide) (by decide) (by decide)
  exact ⟨fits, build_lays_out _ fits⟩

end MappedTables
