import MappedTables.Proofs.Image.Reading

namespace MappedTables

/-!
What relocation leaves alone.

The walk of a relocation is directed by the references that it rewrites, so that
its frame has to be read off the result: the image before and the image after
are encodings of one draft, and an encoding depends on the way in which places
are referred to in its headers only.  What stands from the version area on is
the same list of octets in both.  In a slot the two references and the mode are
the words that depend on it, and a reference that refers to nothing is zero in
both.
-/

/-- A reference was the address of `size` octets and is now their distance from
the base.  They are inside of the container. -/
structure Redirected (base : UInt64) (capacity : Nat) (before after : UInt64) (size : Nat) :
    Prop where
  distance : before.toNat = base.toNat + after.toNat
  inside : after.toNat + size <= capacity

namespace RowHeader

/-- A slot has become relocatable, and nothing else about it has changed. -/
structure Relocated (before after : RowHeader) : Prop where
  length_eq : after.length = before.length
  columns_eq : after.columns = before.columns
  reserved_eq : after.reserved = before.reserved
  live : before.mode = .ok .live
  relocatable : after.mode = .ok .relocatable

/-- What has become of the slot of a row. -/
structure UsedRelocated (base : UInt64) (capacity : Nat) (before after : RowHeader) : Prop
    extends before.Relocated after where
  text : Redirected base capacity before.textWord after.textWord before.length.toNat
  starts : before.columns ≠ 0 ->
    Redirected base capacity before.startsWord after.startsWord (2 * before.columns.toNat)
  columnless : before.columns = 0 -> before.startsWord = 0 ∧ after.startsWord = 0

/-- What has become of a slot without a row. -/
structure FreeRelocated (before after : RowHeader) : Prop extends before.Relocated after where
  text : before.textWord = 0 ∧ after.textWord = 0
  starts : before.startsWord = 0 ∧ after.startsWord = 0

end RowHeader

/-- What has become of the header of a table. -/
structure TableHeader.Relocated (base : UInt64) (capacity : Nat) (before after : TableHeader) :
    Prop where
  length_eq : after.length = before.length
  capacity_eq : after.capacity = before.capacity
  live : before.mode = .ok .live
  relocatable : after.mode = .ok .relocatable
  array : Redirected base capacity before.arrayWord after.arrayWord
    (rowSlotSize * before.capacity.toNat)

/-- What has become of the header of a container. -/
structure ContainerHeader.Relocated (base : UInt64) (capacity : Nat)
    (before after : ContainerHeader) : Prop where
  capacity_eq : after.capacity = before.capacity
  live : before.mode = .ok .live
  relocatable : after.mode = .ok .relocatable
  table : forall kind, (before.table kind).Relocated base capacity (after.table kind)
  version : Redirected base capacity before.versionWord after.versionWord versionAreaSize

namespace Draft

/-- What has become of the image of a draft. -/
structure Relocated (draft : Draft) (before after : Image) : Prop where
  base_eq : after.span.base = before.span.base
  capacity_eq : after.capacity = before.capacity
  /-- No octet is changed outside of the header and the slots. -/
  outside : forall place, leastContainerSize <= place ->
    (forall kind number, number < (draft.table kind).capacity ->
      place < draft.slotPlace kind number ∨ draft.slotPlace kind number + rowSlotSize <= place) ->
    after.span.bytes[place]? = before.span.bytes[place]?
  /-- The version area and all that is stored behind it is the same. -/
  payload : after.span.bytes.toList.drop draft.versionArea =
    before.span.bytes.toList.drop draft.versionArea
  header : exists old new,
    before.span.headerAt ContainerHeader 0 = .ok old ∧
      after.span.headerAt ContainerHeader 0 = .ok new ∧
      old.Relocated before.span.base before.capacity new
  used : forall kind number, number < draft.length kind -> exists old new,
    before.span.headerAt RowHeader (draft.slotPlace kind number) = .ok old ∧
      after.span.headerAt RowHeader (draft.slotPlace kind number) = .ok new ∧
      old.UsedRelocated before.span.base before.capacity new
  free : forall kind number, draft.length kind <= number ->
    number < (draft.table kind).capacity -> exists old new,
      before.span.headerAt RowHeader (draft.slotPlace kind number) = .ok old ∧
        after.span.headerAt RowHeader (draft.slotPlace kind number) = .ok new ∧
        old.FreeRelocated new

variable {draft : Draft} {base : UInt64}

/-! ## Outside of the headers -/

/-- The octets of the headers. -/
def headerOctets (draft : Draft) (addressing : Addressing) : List UInt8 :=
  StoredHeader.encode (draft.encodedHeader addressing) ++ draft.tableOctets addressing .head ++
    draft.tableOctets addressing .data

/-- The octets behind the headers, which do not depend on the way of referring to places. -/
def payload (draft : Draft) : List UInt8 :=
  draft.versionField ++ DraftRow.storedFrom draft.rowsArea draft.allRows ++
    blank (draft.extent - draft.stop)

theorem encodedWith_eq_append (draft : Draft) (addressing : Addressing) :
    draft.encodedWith addressing = draft.headerOctets addressing ++ draft.payload := by
  simp only [encodedWith, headerOctets, payload, List.append_assoc]

theorem Bounded.length_headerOctets (bounded : draft.Bounded) (addressing : Addressing) :
    (draft.headerOctets addressing).length = draft.versionArea := by
  have header : (StoredHeader.encode (draft.encodedHeader addressing)).length = 80 :=
    length_encode _
  simp only [headerOctets, List.length_append, header, bounded.length_tableOctets, table,
    versionArea_eq]

theorem Bounded.drop_encodedWith (bounded : draft.Bounded) (addressing : Addressing) :
    (draft.encodedWith addressing).drop draft.versionArea = draft.payload := by
  rw [encodedWith_eq_append, List.drop_left' (bounded.length_headerOctets addressing)]

/-- Between the header and the version area there is nothing but slots. -/
theorem exists_slot_of_lt (draft : Draft) {place : Nat} (behind : leastContainerSize <= place)
    (before : place < draft.versionArea) :
    exists kind number, number < (draft.table kind).capacity ∧
      draft.slotPlace kind number <= place ∧
      place < draft.slotPlace kind number + rowSlotSize := by
  have least : leastContainerSize = 80 := rfl
  have slotSize : rowSlotSize = 24 := rfl
  have array := draft.dataArray_eq
  rw [versionArea_eq] at before
  by_cases inHead : place < draft.dataArray
  · refine ⟨.head, (place - 80) / 24, ?_⟩
    simp only [slotPlace, arrayOf, table, headArray_eq, slotSize]
    omega
  · refine ⟨.data, (place - draft.dataArray) / 24, ?_⟩
    simp only [slotPlace, arrayOf, table, slotSize]
    omega

/-! ## References -/

/-- The two words for one place. -/
theorem redirected_of_lt {place size capacity : Nat} (room : base.toNat + place < addressLimit)
    (inside : place + size <= capacity) :
    Redirected base capacity ((Addressing.addressesFrom base).word place)
      (Addressing.distances.word place) size := by
  have word : (Addressing.distances.word place).toNat = place := by
    unfold addressLimit at room
    exact (UInt64.toNat_ofNat').trans (Nat.mod_eq_of_lt (by omega))
  refine ⟨?_, ?_⟩
  · rw [word]
    exact Reference.toNat_addressAt room
  · rwa [word]

/-- A part in front of which an address is left is found through both of its words. -/
theorem Bounded.redirected_part (bounded : draft.Bounded) {part : Part}
    (member : part ∈ draft.parts .distances) (room : base.toNat + part.place < addressLimit) :
    Redirected base draft.extent ((Addressing.addressesFrom base).word part.place)
      (Addressing.distances.word part.place) part.octets.length :=
  redirected_of_lt room (Nat.le_trans (bounded.stop_le .distances member) draft.stop_le_extent)

theorem FitsAt.relocated_table (fits : draft.FitsAt base) (bounded : draft.Bounded)
    (kind : TableKind) :
    (draft.encodedTableHeader (.addressesFrom base) kind).Relocated base draft.extent
      (draft.encodedTableHeader .distances kind) where
  length_eq := rfl
  capacity_eq := rfl
  live := AddressMode.ofFlag_flag .live
  relocatable := AddressMode.ofFlag_flag .relocatable
  array := by
    have slotsEnd := bounded.slotsEnd_le kind
    have room := fits.room
    have slots : (draft.encodedTableHeader (.addressesFrom base) kind).capacity.toNat =
        (draft.table kind).capacity := bounded.toNat_slots _ kind
    have slotSize : rowSlotSize = 24 := rfl
    unfold versionAreaSize at slotsEnd
    refine redirected_of_lt (by omega) ?_
    rw [slots, slotSize]
    omega

theorem FitsAt.relocated_header (fits : draft.FitsAt base) (bounded : draft.Bounded) :
    (draft.encodedHeader (.addressesFrom base)).Relocated base draft.extent
      (draft.encodedHeader .distances) where
  capacity_eq := rfl
  live := AddressMode.ofFlag_flag .live
  relocatable := AddressMode.ofFlag_flag .relocatable
  table kind := by
    rw [table_encodedHeader, table_encodedHeader]
    exact fits.relocated_table bounded kind
  version := by
    have area := draft.rowsArea_le_stop
    have rounded := draft.stop_le_extent
    have room := fits.room
    have behind : draft.rowsArea = draft.versionArea + 20 := rfl
    exact redirected_of_lt (by omega) (by unfold versionAreaSize; omega)

/-! ## Slots -/

theorem relocated_slot (row : DraftRow) (cursor : Nat) (base : UInt64) :
    (row.slot (.addressesFrom base) cursor).Relocated (row.slot .distances cursor) where
  length_eq := rfl
  columns_eq := rfl
  reserved_eq := rfl
  live := AddressMode.ofFlag_flag .live
  relocatable := AddressMode.ofFlag_flag .relocatable

theorem freeRelocated_unused :
    (RowHeader.unused .live).FreeRelocated (RowHeader.unused .relocatable) where
  length_eq := rfl
  columns_eq := rfl
  reserved_eq := rfl
  live := AddressMode.ofFlag_flag .live
  relocatable := AddressMode.ofFlag_flag .relocatable
  text := ⟨rfl, rfl⟩
  starts := ⟨rfl, rfl⟩

theorem startsWord_slot (row : DraftRow) (addressing : Addressing) (cursor : Nat) :
    (row.slot addressing cursor).startsWord =
      if row.starts.size = 0 then 0 else addressing.word (DraftRow.startsPlace cursor) := by
  have none : row.starts.isEmpty = true <-> row.starts.size = 0 := Array.isEmpty_iff_size_eq_zero
  simp only [DraftRow.slot, none]

/-- The recorded number of columns tells whether there is a table of starts. -/
theorem columns_slot_eq_zero_iff {row : DraftRow} (small : row.Small) (addressing : Addressing)
    (cursor : Nat) : (row.slot addressing cursor).columns = 0 <-> row.starts.size = 0 := by
  rw [<- UInt16.toNat_inj, small.toNat_columns_slot]
  exact Iff.rfl

theorem FitsAt.usedRelocated (fits : draft.FitsAt base) (bounded : draft.Bounded)
    {kind : TableKind} {number : Nat} {row : DraftRow}
    (found : (draft.table kind).rows.toList[number]? = some row) :
    let place := draft.rowPlace kind number
    (row.slot (.addressesFrom base) place).UsedRelocated base draft.extent
      (row.slot .distances place) := by
  intro place
  have small : row.Small := bounded.small row (draft.mem_allRows (List.mem_of_getElem? found))
  have reach := fits.reach _ (draft.textPlace_mem kind found)
  have earlier : DraftRow.startsPlace place <= row.textPlace place := Nat.le_add_right _ _
  rcases draft.row_mem_parts .distances kind found with ⟨startsPart, textPart⟩
  have text := bounded.redirected_part textPart reach
  have starts := bounded.redirected_part startsPart
    (Nat.lt_of_le_of_lt (Nat.add_le_add_left earlier _) reach)
  refine ⟨relocated_slot row place base, ?_, fun present => ?_, fun none => ?_⟩
  · rw [small.toNat_length_slot]
    exact text
  · have filled := mt (columns_slot_eq_zero_iff small _ _).mpr present
    rw [startsWord_slot, startsWord_slot, if_neg filled, if_neg filled,
      small.toNat_columns_slot, <- row.length_startsTable]
    exact starts
  · have columnless := (columns_slot_eq_zero_iff small _ _).mp none
    rw [startsWord_slot, startsWord_slot, if_pos columnless, if_pos columnless]
    exact ⟨rfl, rfl⟩

/-! ## The image -/

theorem FitsAt.relocated (fits : draft.FitsAt base) (bounded : draft.Bounded) :
    draft.Relocated ⟨⟨base, (draft.encodedWith (.addressesFrom base)).toArray⟩⟩
      ⟨⟨base, (draft.encodedWith .distances).toArray⟩⟩ := by
  have size : Image.capacity ⟨⟨base, (draft.encodedWith (.addressesFrom base)).toArray⟩⟩ =
      draft.extent := bounded.view_size _ base
  have payload := (bounded.drop_encodedWith .distances).trans
    (bounded.drop_encodedWith (.addressesFrom base)).symm
  refine ⟨rfl, (bounded.view_size _ base).trans size.symm, ?_, payload, ?_, ?_, ?_⟩
  · intro place behind apart
    have far : draft.versionArea <= place := by
      apply Nat.le_of_not_lt
      intro before
      rcases draft.exists_slot_of_lt behind before with ⟨kind, number, inside, low, high⟩
      rcases apart kind number inside with left | right
      · omega
      · omega
    have same := congrArg (·[place - draft.versionArea]?) payload
    simp only [List.getElem?_drop, Nat.add_sub_cancel' far] at same
    simpa only [List.getElem?_toArray] using same
  · rw [size]
    exact ⟨_, _, draft.headerAt_encodedWith _ fits.aligned,
      draft.headerAt_encodedWith _ fits.aligned, fits.relocated_header bounded⟩
  · intro kind number inside
    have found : (draft.table kind).rows.toList[number]? =
        some (draft.table kind).rows.toList[number] := List.getElem?_eq_getElem inside
    rw [size]
    exact ⟨_, _, bounded.headerAt_slot _ fits.aligned (draft.tableSlots_of_row _ kind found),
      bounded.headerAt_slot _ fits.aligned (draft.tableSlots_of_row _ kind found),
      fits.usedRelocated bounded found⟩
  · intro kind number behind inside
    exact ⟨_, _, bounded.headerAt_slot _ fits.aligned (draft.tableSlots_of_le _ kind behind inside),
      bounded.headerAt_slot _ fits.aligned (draft.tableSlots_of_le _ kind behind inside),
      freeRelocated_unused⟩

/-- Relocating the image of a draft turns its references into distances and does nothing
else. -/
theorem relocation_redirects (calls : List DraftCall) {base : UInt64}
    (fits : (DraftHistory.after calls).draft.FitsAt base) :
    exists before after, (DraftHistory.after calls).draft.build base = .ok before ∧
      before.relocate = (.ok (), after) ∧
      (DraftHistory.after calls).draft.Relocated before after := by
  have bounded := (DraftHistory.kept_after calls).bounded
  exact ⟨_, _, bounded.build_eq_ok base fits.aligned, fits.relocate_eq bounded,
    fits.relocated bounded⟩

theorem relocation_redirects_sample :
    let draft := (DraftHistory.after DraftHistory.sampleCalls).draft
    draft.FitsAt 4096 ∧ exists before after, draft.build 4096 = .ok before ∧
      before.relocate = (.ok (), after) ∧ draft.Relocated before after := by
  intro draft
  have fits : draft.FitsAt 4096 :=
    DraftHistory.fitsAt_of_lt _ (by decide) (by decide) (by decide)
  exact ⟨fits, relocation_redirects _ fits⟩

end Draft
end MappedTables
