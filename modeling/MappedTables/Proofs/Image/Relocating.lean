import Mathlib.Data.List.Forall2
import MappedTables.Image.Relocate
import MappedTables.Proofs.Image.Writing

namespace MappedTables

/-!
What relocating an image does to its octets.

The walk replaces one header at a time by the header with the same contents and
distances in place of addresses.  No word outside the headers is touched, and a
distance does not depend on the base any more: so the result of the walk is the
encoding of the draft with distances, wherever the image was built.

An address is the base and a distance, modulo the number of addresses.  It can
be turned back as long as the sum is itself an address, which is what it means
for a draft to fit at a base.
-/

namespace Draft

/-- A place at which a draft can be laid out so that everything in it has an
address.  An allocation never ends at the very last address; where it did, a row
without text at its end would be referred to by the null address. -/
structure FitsAt (draft : Draft) (base : UInt64) : Prop where
  base_ne_zero : base ≠ 0
  aligned : base.toNat % headerAlignment = 0
  room : base.toNat + draft.extent <= addressLimit
  reach : forall place, place ∈ draft.textPlaces -> base.toNat + place < addressLimit

end Draft

namespace DraftRow

theorem le_stopOf_of_mem_textPlaces (cursor : Nat) (rows : List DraftRow) (place : Nat)
    (member : place ∈ textPlaces cursor rows) : place <= stopOf cursor rows := by
  induction rows generalizing cursor with
  | nil => cases member
  | cons row rest ih =>
      rcases List.mem_cons.mp member with here | later
      · have inside : row.textPlace cursor <= row.stopPlace cursor := Nat.le_add_right _ _
        rw [here]
        exact Nat.le_trans inside (le_stopOf _ rest)
      · exact ih _ later

end DraftRow

/-- A draft fits wherever an address is left behind it. -/
theorem Draft.fitsAt_of_lt {draft : Draft} {base : UInt64} (base_ne_zero : base ≠ 0)
    (aligned : base.toNat % headerAlignment = 0)
    (room : base.toNat + draft.extent < addressLimit) : draft.FitsAt base where
  base_ne_zero := base_ne_zero
  aligned := aligned
  room := Nat.le_of_lt room
  reach := by
    intro place member
    have inside : place <= draft.stop := DraftRow.le_stopOf_of_mem_textPlaces _ _ place member
    have rounded := draft.stop_le_extent
    omega

/-- A draft within the bounds fits at every aligned place of the lower half of the addresses. -/
theorem Draft.Bounded.fitsAt {draft : Draft} (bounded : draft.Bounded) {base : UInt64}
    (base_ne_zero : base ≠ 0) (aligned : base.toNat % headerAlignment = 0)
    (low : base.toNat < 2 ^ 63) : draft.FitsAt base := by
  have limit := bounded.extent_lt
  apply Draft.fitsAt_of_lt base_ne_zero aligned
  unfold addressLimit
  omega

/-- Every draft with a history fits there. -/
theorem DraftHistory.fitsAt_of_lt (calls : List DraftCall) {base : UInt64}
    (base_ne_zero : base ≠ 0) (aligned : base.toNat % headerAlignment = 0)
    (low : base.toNat < 2 ^ 63) : (after calls).draft.FitsAt base :=
  (kept_after calls).bounded.fitsAt base_ne_zero aligned low

namespace Reference

theorem toNat_addressAt {base : UInt64} {place : Nat}
    (room : base.toNat + place < addressLimit) :
    (addressAt base (UInt64.ofNat place)).toNat = base.toNat + place := by
  unfold addressLimit at room
  rw [addressAt, UInt64.toNat_add, UInt64.toNat_ofNat', Nat.mod_eq_of_lt (a := place) (by omega)]
  exact Nat.mod_eq_of_lt room

/-- The distance of an address is found again. -/
theorem offsetOf_addressAt {base : UInt64} {place : Nat}
    (room : base.toNat + place < addressLimit) :
    offsetOf base (addressAt base (UInt64.ofNat place)) = .ok (UInt64.ofNat place) := by
  have above : ¬ addressAt base (UInt64.ofNat place) < base := by
    rw [UInt64.lt_iff_toNat_lt, toNat_addressAt room]
    omega
  rw [offsetOf, if_neg above, addressAt, UInt64.add_comm,
    UInt64.add_sub_cancel]

theorem offsetFrom_addressAt {base : UInt64} {place : Nat}
    (room : base.toNat + place < addressLimit) :
    (live (addressAt base (UInt64.ofNat place))).offsetFrom base = .ok (UInt64.ofNat place) :=
  offsetOf_addressAt room

theorem addressAt_ne_zero {base : UInt64} {place : Nat} (base_ne_zero : base ≠ 0)
    (room : base.toNat + place < addressLimit) :
    addressAt base (UInt64.ofNat place) ≠ 0 := by
  intro null
  have same := toNat_addressAt room
  rw [null] at same
  apply base_ne_zero
  apply UInt64.toNat_inj.mp
  simp only [UInt64.toNat_zero] at same ⊢
  omega

/-- Relocation turns an address into a distance. -/
theorem relocate_addressAt {base : UInt64} {place : Nat} (base_ne_zero : base ≠ 0)
    (room : base.toNat + place < addressLimit) :
    (live (addressAt base (UInt64.ofNat place))).relocate base =
      .ok (relocatable (UInt64.ofNat place)) := by
  rw [relocate, if_neg (addressAt_ne_zero base_ne_zero room), offsetOf_addressAt room]
  rfl

end Reference

@[simp] theorem AddressMode.ofFlag_flag (mode : AddressMode) :
    AddressMode.ofFlag mode.flag = .ok mode := by
  cases mode with
  | live => rfl
  | relocatable => rfl

namespace RowHeader

theorem relocate_unused (base : UInt64) :
    (unused .live).relocate base = .ok (unused .relocatable) := rfl

theorem relocate_eq_ok {header : RowHeader} {base : UInt64} {text starts : Reference}
    (mode : header.mode = .ok .live)
    (relocatedText : (Reference.live header.textWord).relocate base = .ok text)
    (relocatedStarts : (Reference.live header.startsWord).relocate base = .ok starts) :
    header.relocate base =
      .ok { header with
        textWord := text.word
        startsWord := starts.word
        modeFlag := AddressMode.relocatable.flag } := by
  simp only [relocate, mode, Outcome.ok_bind, Reference.ofWord, relocatedText,
    relocatedStarts, Outcome.pure_eq_ok]

/-- A slot with addresses becomes the slot with distances. -/
theorem relocate_slot {base : UInt64} (row : DraftRow) (cursor : Nat)
    (base_ne_zero : base ≠ 0) (room : base.toNat + row.textPlace cursor < addressLimit) :
    (row.slot (.addressesFrom base) cursor).relocate base =
      .ok (row.slot .distances cursor) := by
  have mode : (row.slot (.addressesFrom base) cursor).mode = .ok .live :=
    AddressMode.ofFlag_flag .live
  have text := Reference.relocate_addressAt base_ne_zero room
  by_cases columnless : row.starts.isEmpty = true
  · have starts : (Reference.live 0).relocate base = .ok (.relocatable 0) := rfl
    have absent : (row.slot (.addressesFrom base) cursor).startsWord = 0 := by
      simp only [DraftRow.slot, columnless, if_true]
    rw [<- absent] at starts
    rw [relocate_eq_ok mode text starts]
    simp only [DraftRow.slot, columnless, if_true]
    rfl
  · have earlier : DraftRow.startsPlace cursor <= row.textPlace cursor := Nat.le_add_right _ _
    have starts := Reference.relocate_addressAt base_ne_zero
      (show base.toNat + DraftRow.startsPlace cursor < addressLimit by omega)
    have present : (row.slot (.addressesFrom base) cursor).startsWord =
        addressAt base (UInt64.ofNat (DraftRow.startsPlace cursor)) := by
      simp only [DraftRow.slot, columnless]
      rfl
    rw [<- present] at starts
    rw [relocate_eq_ok mode text starts]
    simp only [DraftRow.slot, columnless]
    rfl

end RowHeader

namespace Relocation

theorem bind_of_eq {Value Result : Type} {part : Relocation Value}
    {next : Value -> Relocation Result} {span after : Span} {value : Value}
    (ran : part span = .ok value after) : (part >>= next) span = next value after := by
  change EStateM.bind part next span = _
  rw [EStateM.bind, ran]

theorem bind_ofExcept {Value Result : Type} {outcome : Except Error Value} {value : Value}
    (found : outcome = .ok value) (next : Value -> Relocation Result) (span : Span) :
    (ofExcept outcome >>= next) span = next value span := by
  rw [found]
  rfl

theorem headerAt_eq {Header : Type} [StoredHeader Header] {span : Span} {offset : Nat}
    {header : Header} (read : span.headerAt Header offset = .ok header) :
    headerAt Header offset span = .ok header span := by
  change (get >>= fun span => ofExcept (span.headerAt Header offset)) span = _
  rw [bind_of_eq (show (get : Relocation Span) span = .ok span span from rfl), read]
  rfl

/-- A header is replaced by another one of its kind. -/
theorem putHeader_append {Header : Type} [StoredHeader Header] [LawfulStoredHeader Header]
    {base : UInt64} (front hidden back : List UInt8) (header : Header)
    (fits : hidden.length = StoredHeader.size Header)
    (room : front.length + StoredHeader.size Header < addressLimit)
    (aligned : (base.toNat + front.length) % headerAlignment = 0) :
    putHeader front.length header ⟨base, (front ++ hidden ++ back).toArray⟩ =
      .ok () ⟨base, (front ++ StoredHeader.encode header ++ back).toArray⟩ := by
  have inside : Span.checkHeader ⟨base, (front ++ hidden ++ back).toArray⟩ Header
      front.length = .ok () :=
    Span.checkHeader_append base front hidden back fits room aligned
  have replaced := Bytes.overlay_append front hidden back (StoredHeader.encode header)
    ((length_encode header).trans fits.symm)
  simp only [putHeader, inside, replaced]

theorem get_eq (span : Span) : (get : Relocation Span) span = .ok span span := rfl

/-- A slot is replaced by its relocated form. -/
theorem relocateSlot_append {base : UInt64} (front back : List UInt8)
    {slot relocated : RowHeader} (converted : slot.relocate base = .ok relocated)
    (room : front.length + rowSlotSize < addressLimit)
    (aligned : (base.toNat + front.length) % headerAlignment = 0) :
    relocateSlot front.length
        ⟨base, (front ++ StoredHeader.encode slot ++ back).toArray⟩ =
      .ok () ⟨base, (front ++ StoredHeader.encode relocated ++ back).toArray⟩ := by
  have read := headerAt_eq (Span.headerAt_append base front back slot room aligned)
  have written := putHeader_append front (StoredHeader.encode slot) back relocated
    (length_encode slot) room aligned
  rw [relocateSlot, bind_of_eq read, bind_of_eq (get_eq _),
    bind_ofExcept converted, written]

/-- Neighbouring slots are replaced by their relocated forms, one after the other. -/
theorem relocateSlots_append {base : UInt64} (front back : List UInt8)
    {slots relocated : List RowHeader}
    (converted : List.Forall₂ (fun slot target => slot.relocate base = .ok target)
      slots relocated)
    (room : front.length + rowSlotSize * slots.length < addressLimit)
    (aligned : (base.toNat + front.length) % headerAlignment = 0) :
    relocateSlots slots.length front.length
        ⟨base, (front ++ slots.flatMap StoredHeader.encode ++ back).toArray⟩ =
      .ok () ⟨base, (front ++ relocated.flatMap StoredHeader.encode ++ back).toArray⟩ := by
  induction converted generalizing front with
  | nil => rfl
  | @cons slot target rest targets first others ih =>
      rw [List.length_cons, Nat.mul_add, Nat.mul_one] at room
      have targetSize : (StoredHeader.encode target).length = rowSlotSize := length_encode _
      have slotEnd : front.length + rowSlotSize =
          (front ++ StoredHeader.encode target).length := by
        rw [List.length_append, targetSize]
      have here := relocateSlot_append front (rest.flatMap StoredHeader.encode ++ back) first
        (by omega) aligned
      have later := ih (front ++ StoredHeader.encode target)
        (by rw [<- slotEnd]; omega)
        (by rw [<- slotEnd, <- Nat.add_assoc, Nat.add_mod, aligned]; rfl)
      rw [<- slotEnd] at later
      simp only [List.append_assoc] at here later
      simp only [List.length_cons, relocateSlots, List.flatMap_cons, List.append_assoc]
      rw [bind_of_eq here, later]

/-- A header at the front is replaced by another one of its kind. -/
theorem putHeader_front {Header : Type} [StoredHeader Header] [LawfulStoredHeader Header]
    (base : UInt64) (hidden back : List UInt8) (header : Header)
    (fits : hidden.length = StoredHeader.size Header)
    (room : StoredHeader.size Header < addressLimit)
    (aligned : base.toNat % headerAlignment = 0) :
    putHeader 0 header ⟨base, (hidden ++ back).toArray⟩ =
      .ok () ⟨base, (StoredHeader.encode header ++ back).toArray⟩ :=
  putHeader_append [] hidden back header fits (by rwa [List.length_nil, Nat.zero_add]) aligned

/-- The walk over a container whose two tables can be walked over. -/
theorem relocateContainer_eq {span afterHead afterData : Span} {header : ContainerHeader}
    {head data : TableHeader} {version relocated : Reference}
    (read : span.headerAt ContainerHeader 0 = .ok header)
    (live : header.mode = .ok .live)
    (headWalk : relocateTable header.head span = .ok head afterHead)
    (dataWalk : relocateTable header.data afterHead = .ok data afterData)
    (reference : header.versionReference = .ok version)
    (converted : version.relocate afterData.base = .ok relocated) :
    relocateContainer span =
      putHeader 0 (ContainerHeader.ofParts .relocatable head data header.capacity relocated)
        afterData := by
  rw [relocateContainer, bind_of_eq (headerAt_eq read), bind_ofExcept live]
  simp only [ne_eq, not_true_eq_false, if_false]
  rw [bind_of_eq headWalk, bind_of_eq dataWalk, bind_ofExcept reference,
    bind_of_eq (get_eq _), bind_ofExcept converted]

end Relocation

namespace DraftRow

/-- The slots of rows with addresses become their slots with distances. -/
theorem relocate_slots {base : UInt64} (cursor : Nat) (rows : List DraftRow)
    (base_ne_zero : base ≠ 0)
    (reach : forall place, place ∈ textPlaces cursor rows ->
      base.toNat + place < addressLimit) :
    List.Forall₂ (fun slot target => RowHeader.relocate slot base = .ok target)
      (slots (.addressesFrom base) cursor rows) (slots .distances cursor rows) := by
  induction rows generalizing cursor with
  | nil => exact List.Forall₂.nil
  | cons row rest ih =>
      refine List.Forall₂.cons ?_ (ih _ fun place later => ?_)
      · exact RowHeader.relocate_slot row cursor base_ne_zero
          (reach _ List.mem_cons_self)
      · exact reach place (List.mem_cons_of_mem _ later)

theorem textPlaces_append (cursor : Nat) (before after : List DraftRow) :
    textPlaces cursor (before ++ after) =
      textPlaces cursor before ++ textPlaces (stopOf cursor before) after := by
  induction before generalizing cursor with
  | nil => rfl
  | cons row rest ih =>
      rw [List.cons_append, textPlaces, ih, textPlaces, List.cons_append, stopOf_cons]

end DraftRow

namespace Draft

theorem FitsAt.reach_table {draft : Draft} {base : UInt64} (fits : draft.FitsAt base)
    (kind : TableKind) (place : Nat)
    (member : place ∈ DraftRow.textPlaces (draft.firstPlace kind)
      (draft.table kind).rows.toList) :
    base.toNat + place < addressLimit := by
  have whole : draft.textPlaces =
      DraftRow.textPlaces (draft.firstPlace .head) draft.head.rows.toList ++
        DraftRow.textPlaces (draft.firstPlace .data) draft.data.rows.toList :=
    DraftRow.textPlaces_append _ _ _
  apply fits.reach
  rw [whole, List.mem_append]
  cases kind with
  | head => exact Or.inl member
  | data => exact Or.inr member

/-- The slots of a table with addresses become its slots with distances. -/
theorem FitsAt.relocate_tableSlots {draft : Draft} {base : UInt64} (fits : draft.FitsAt base)
    (kind : TableKind) :
    List.Forall₂ (fun slot target => RowHeader.relocate slot base = .ok target)
      (draft.tableSlots (.addressesFrom base) kind) (draft.tableSlots .distances kind) := by
  have used := DraftRow.relocate_slots (draft.firstPlace kind) (draft.table kind).rows.toList
    fits.base_ne_zero (fits.reach_table kind)
  have free : forall count : Nat,
      List.Forall₂ (fun slot target => RowHeader.relocate slot base = .ok target)
        (List.replicate count (RowHeader.unused .live))
        (List.replicate count (RowHeader.unused .relocatable)) := by
    intro count
    induction count with
    | zero => exact List.Forall₂.nil
    | succ count ih => exact List.Forall₂.cons (RowHeader.relocate_unused base) ih
  exact List.rel_append used (free _)

/-- The slots of a table end in front of the version area. -/
theorem Bounded.slotsEnd_le {draft : Draft} (bounded : draft.Bounded) (kind : TableKind) :
    draft.arrayOf kind + 24 * (draft.table kind).capacity + versionAreaSize <= draft.extent ∧
      draft.extent < 2 ^ 53 := by
  have area := draft.rowsArea_eq
  have array := draft.dataArray_eq
  have rows := draft.rowsArea_le_stop
  have rounded := draft.stop_le_extent
  have limit := bounded.extent_lt
  cases kind with
  | head =>
      simp only [arrayOf, table, headArray_eq, versionAreaSize]
      omega
  | data =>
      simp only [arrayOf, table, array, versionAreaSize]
      omega

/-- The walk over a table replaces its slots and gives its relocated header. -/
theorem FitsAt.relocateTable_eq {draft : Draft} {base : UInt64} (fits : draft.FitsAt base)
    (bounded : draft.Bounded) (kind : TableKind) (front back : List UInt8)
    (behind : front.length = draft.arrayOf kind) :
    Relocation.relocateTable (draft.encodedTableHeader (.addressesFrom base) kind)
        ⟨base, (front ++ draft.tableOctets (.addressesFrom base) kind ++ back).toArray⟩ =
      .ok (draft.encodedTableHeader .distances kind)
        ⟨base, (front ++ draft.tableOctets .distances kind ++ back).toArray⟩ := by
  have slotsEnd := bounded.slotsEnd_le kind
  have room := fits.room
  have capacity_le := bounded.capacity_le kind
  have slotsCount := bounded.length_tableSlots (.addressesFrom base) kind
  have slotSize : rowSlotSize = 24 := rfl
  simp only [versionAreaSize, tableLimit] at slotsEnd capacity_le
  have reach : base.toNat + draft.arrayOf kind < addressLimit := by omega
  have place : (UInt64.ofNat (draft.arrayOf kind)).toNat = front.length := by
    rw [UInt64.toNat_ofNat', behind, Nat.mod_eq_of_lt (by omega)]
  have count : (UInt32.ofNat (draft.table kind).capacity).toNat =
      (draft.tableSlots (.addressesFrom base) kind).length := by
    rw [UInt32.toNat_ofNat', slotsCount, Nat.mod_eq_of_lt (by omega)]
  have slots := Relocation.relocateSlots_append front back (fits.relocate_tableSlots kind)
    (by rw [slotsCount, slotSize, behind]; unfold addressLimit; omega)
    (by rw [behind, Nat.add_mod, fits.aligned, draft.arrayOf_mod]; rfl)
  rw [<- place, <- count] at slots
  have array : (draft.encodedTableHeader (.addressesFrom base) kind).arrayReference =
    .ok (.live (addressAt base (UInt64.ofNat (draft.arrayOf kind)))) := rfl
  have offset := Reference.offsetFrom_addressAt reach
  have relocated := Reference.relocate_addressAt fits.base_ne_zero reach
  rw [Relocation.relocateTable, Relocation.bind_of_eq (Relocation.get_eq _),
    Relocation.bind_ofExcept array, Relocation.bind_ofExcept offset]
  refine (Relocation.bind_of_eq slots).trans ?_
  rw [Relocation.bind_ofExcept relocated]
  rfl

/-- Relocation replaces the addresses of an encoded draft by distances. -/
theorem FitsAt.relocate_eq {draft : Draft} {base : UInt64} (fits : draft.FitsAt base)
    (bounded : draft.Bounded) :
    Image.relocate ⟨⟨base, (draft.encodedWith (.addressesFrom base)).toArray⟩⟩ =
      (.ok (), ⟨⟨base, (draft.encodedWith .distances).toArray⟩⟩) := by
  let header := draft.encodedHeader (.addressesFrom base)
  let rest := draft.versionField ++ DraftRow.storedFrom draft.rowsArea draft.allRows ++
    blank (draft.extent - draft.stop)
  have headerSize : (StoredHeader.encode header).length = headArray := length_encode header
  have headSize := bounded.length_tableOctets .distances .head
  have version : base.toNat + draft.versionArea < addressLimit := by
    have slotsEnd := bounded.slotsEnd_le .data
    have room := fits.room
    have area : draft.versionArea = draft.dataArray + draft.data.capacity * 24 := rfl
    simp only [arrayOf, table, versionAreaSize] at slotsEnd
    omega
  have head := fits.relocateTable_eq bounded .head (StoredHeader.encode header)
    (draft.tableOctets (.addressesFrom base) .data ++ rest) headerSize
  have data := fits.relocateTable_eq bounded .data
    (StoredHeader.encode header ++ draft.tableOctets .distances .head) rest
    (by rw [List.length_append, headerSize, headSize]; exact draft.dataArray_eq.symm)
  have read := Span.headerAt_front base
    (draft.tableOctets (.addressesFrom base) .head ++
      (draft.tableOctets (.addressesFrom base) .data ++ rest)) header (by decide) fits.aligned
  simp only [List.append_assoc] at head data read
  have walked := Relocation.relocateContainer_eq read (AddressMode.ofFlag_flag .live) head data
    rfl (Reference.relocate_addressAt fits.base_ne_zero version)
  have written := Relocation.putHeader_front base (StoredHeader.encode header)
    (draft.tableOctets .distances .head ++ (draft.tableOctets .distances .data ++ rest))
    (draft.encodedHeader .distances) (length_encode header) (by decide) fits.aligned
  have result := walked.trans written
  simp only [encodedWith, List.append_assoc, header, rest] at result ⊢
  rw [Image.relocate, result]

end Draft
end MappedTables
