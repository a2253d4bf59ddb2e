import MappedTables.Proofs.Image.Parts
import MappedTables.Proofs.Image.Relocating
import MappedTables.Proofs.Image.RowReading
import MappedTables.Proofs.Reader.Found

namespace MappedTables

/-!
Reading the encoding of a draft.

Whether the words of an encoding are addresses or distances, each of them leads
to the place that it stands for, and then the encoding is read in the same way.
So the reader is followed once, for every way of referring to places that is
legible at a base: the header is accepted, a slot is found in front of the slots
behind it, and a row is found behind the rows in front of it.
-/

namespace Addressing

/-- The word for a place leads a reader at `base` to that place. -/
structure Reaches (addressing : Addressing) (base : UInt64) (place : Nat) : Prop where
  offset : (Reference.ofWord (addressing.word place) addressing.mode).offsetFrom base =
    .ok (UInt64.ofNat place)
  address : (Reference.ofWord (addressing.word place) addressing.mode).address base =
    addressAt base (UInt64.ofNat place)

theorem reaches_distances (base : UInt64) (place : Nat) : distances.Reaches base place where
  offset := rfl
  address := rfl

theorem reaches_addressesFrom {base : UInt64} {place : Nat}
    (room : base.toNat + place < addressLimit) : (addressesFrom base).Reaches base place where
  offset := Reference.offsetFrom_addressAt room
  address := rfl

end Addressing

/-! ## Slots -/

namespace DraftRow

theorem size_starts_holding (columns : List Bytes) :
    (holding columns).starts.size = columns.length := by
  rw [holding, List.size_toArray, length_startsFrom]

theorem textPlace_holding (columns : List Bytes) (cursor : Nat) :
    (holding columns).textPlace cursor = startsPlace cursor + 2 * columns.length := by
  rw [textPlace, size_starts_holding]

theorem textReference_slot (columns : List Bytes) (addressing : Addressing) (cursor : Nat) :
    ((holding columns).slot addressing cursor).textReference =
      .ok (Reference.ofWord (addressing.word (startsPlace cursor + 2 * columns.length))
        addressing.mode) := by
  have mode : ((holding columns).slot addressing cursor).mode = .ok addressing.mode :=
    AddressMode.ofFlag_flag _
  rw [RowHeader.textReference, mode, <- textPlace_holding]
  rfl

variable {columns : List Bytes}

/-- The length of an admissible row is stored without loss. -/
theorem Admissible.toNat_length_slot (admissible : Admissible columns) (addressing : Addressing)
    (cursor : Nat) :
    ((holding columns).slot addressing cursor).length.toNat = (textOf columns).length :=
  (admissible.small.toNat_length_slot addressing cursor).trans List.size_toArray

/-- The number of its columns too, for every column takes up an octet at least. -/
theorem Admissible.toNat_columns_slot (admissible : Admissible columns)
    (addressing : Addressing) (cursor : Nat) :
    ((holding columns).slot addressing cursor).columns.toNat = columns.length :=
  (admissible.small.toNat_columns_slot addressing cursor).trans (size_starts_holding columns)

theorem Admissible.startsReference_slot (admissible : Admissible columns)
    (addressing : Addressing) (cursor : Nat) (nonempty : columns ≠ []) :
    ((holding columns).slot addressing cursor).startsReference =
      .ok (some (Reference.ofWord (addressing.word (startsPlace cursor)) addressing.mode)) := by
  have mode : ((holding columns).slot addressing cursor).mode = .ok addressing.mode :=
    AddressMode.ofFlag_flag _
  have present : ((holding columns).slot addressing cursor).columns ≠ 0 := by
    intro zero
    have none : columns.length = 0 := by
      rw [<- admissible.toNat_columns_slot addressing cursor]
      exact congrArg UInt16.toNat zero
    exact nonempty (List.length_eq_zero_iff.mp none)
  have word : ((holding columns).slot addressing cursor).startsWord =
      addressing.word (startsPlace cursor) := by
    have filled : (holding columns).starts.isEmpty = false := by
      rw [Array.isEmpty_eq_false_iff, <- Array.size_pos_iff, size_starts_holding]
      exact List.length_pos_iff.mpr nonempty
    simp only [slot, filled]
    rfl
  rw [RowHeader.startsReference, if_neg present, mode, word]
  rfl

end DraftRow

/-- A list is divided at each of its positions. -/
theorem take_append_cons_drop {Value : Type} {values : List Value} {number : Nat} {value : Value}
    (found : values[number]? = some value) :
    values = values.take number ++ value :: values.drop (number + 1) := by
  rcases List.getElem?_eq_some_iff.mp found with ⟨inside, same⟩
  rw [<- same, List.getElem_cons_drop, List.take_append_drop]

namespace Draft

/-- An encoding whose words lead to their places. -/
structure Legible (draft : Draft) (addressing : Addressing) (base : UInt64) : Prop where
  aligned : base.toNat % headerAlignment = 0
  array : forall kind, addressing.Reaches base (draft.arrayOf kind)
  version : addressing.Reaches base draft.versionArea
  row : forall place, place ∈ draft.textPlaces -> forall earlier, earlier <= place ->
    addressing.Reaches base earlier

/-- Distances are legible everywhere. -/
theorem legible_distances (draft : Draft) {base : UInt64}
    (aligned : base.toNat % headerAlignment = 0) : draft.Legible .distances base where
  aligned := aligned
  array _ := Addressing.reaches_distances base _
  version := Addressing.reaches_distances base _
  row _ _ _ _ := Addressing.reaches_distances base _

/-- Addresses are legible where the image was built. -/
theorem FitsAt.legible {draft : Draft} {base : UInt64} (fits : draft.FitsAt base)
    (bounded : draft.Bounded) : draft.Legible (.addressesFrom base) base where
  aligned := fits.aligned
  array kind := by
    have slotsEnd := bounded.slotsEnd_le kind
    have room := fits.room
    simp only [versionAreaSize] at slotsEnd
    exact Addressing.reaches_addressesFrom (by omega)
  version := by
    have slotsEnd := bounded.slotsEnd_le .data
    have room := fits.room
    have area : draft.versionArea = draft.dataArray + draft.data.capacity * 24 := rfl
    simp only [arrayOf, table, versionAreaSize] at slotsEnd
    exact Addressing.reaches_addressesFrom (by omega)
  row place member earlier before := by
    have reach := fits.reach place member
    exact Addressing.reaches_addressesFrom (by omega)

/-! ## The container -/

/-- The container that a reader at `base` sees. -/
def view (draft : Draft) (addressing : Addressing) (base : UInt64) : Container where
  span := ⟨base, (draft.encodedWith addressing).toArray⟩
  header := draft.encodedHeader addressing
  mode := addressing.mode

theorem Bounded.view_size {draft : Draft} (bounded : draft.Bounded) (addressing : Addressing)
    (base : UInt64) : (draft.view addressing base).span.size = draft.extent := by
  rw [view, Span.size, List.size_toArray, bounded.length_encodedWith]

theorem Bounded.toNat_capacity {draft : Draft} (bounded : draft.Bounded)
    (addressing : Addressing) :
    (draft.encodedHeader addressing).capacity.toNat = draft.extent := by
  have limit := bounded.extent_lt
  rw [encodedHeader, UInt64.toNat_ofNat', Nat.mod_eq_of_lt (by omega)]

theorem Bounded.toNat_length {draft : Draft} (bounded : draft.Bounded)
    (addressing : Addressing) (kind : TableKind) :
    (draft.encodedTableHeader addressing kind).length.toNat =
      (draft.table kind).rows.size := by
  have fits := bounded.size_le_capacity kind
  have limit := bounded.capacity_le kind
  simp only [tableLimit] at limit
  rw [encodedTableHeader, UInt32.toNat_ofNat', Nat.mod_eq_of_lt]
  · rfl
  · simp only [length]
    omega

theorem Bounded.toNat_slots {draft : Draft} (bounded : draft.Bounded)
    (addressing : Addressing) (kind : TableKind) :
    (draft.encodedTableHeader addressing kind).capacity.toNat =
      (draft.table kind).capacity := by
  have limit := bounded.capacity_le kind
  simp only [tableLimit] at limit
  rw [encodedTableHeader, UInt32.toNat_ofNat', Nat.mod_eq_of_lt (by omega)]

theorem Bounded.validate_encodedTableHeader {draft : Draft} (bounded : draft.Bounded)
    (addressing : Addressing) (kind : TableKind) (name : String) :
    (draft.encodedTableHeader addressing kind).validate name = .ok () := by
  have fits := bounded.size_le_capacity kind
  have rows := bounded.toNat_length addressing kind
  have slots := bounded.toNat_slots addressing kind
  have accepted : ¬ (draft.encodedTableHeader addressing kind).capacity <
      (draft.encodedTableHeader addressing kind).length := by
    rw [UInt32.lt_iff_toNat_lt, rows, slots]
    omega
  have mode : (draft.encodedTableHeader addressing kind).mode = .ok addressing.mode :=
    AddressMode.ofFlag_flag _
  unfold TableHeader.validate
  simp only [accepted, if_false, mode, Outcome.ok_bind, Outcome.pure_eq_ok]

theorem Bounded.validate_encodedHeader {draft : Draft} (bounded : draft.Bounded)
    (addressing : Addressing) :
    (draft.encodedHeader addressing).validate draft.extent = .ok () := by
  have area := draft.rowsArea_eq
  have rows := draft.rowsArea_le_stop
  have rounded := draft.stop_le_extent
  have size := bounded.toNat_capacity addressing
  have least : leastContainerSize = 80 := rfl
  have accepted : ¬ ((draft.encodedHeader addressing).capacity.toNat < leastContainerSize ∨
      draft.extent < (draft.encodedHeader addressing).capacity.toNat) := by
    rw [size, least]
    omega
  have magic : (draft.encodedHeader addressing).magic = containerMagic := rfl
  have layout : (draft.encodedHeader addressing).layoutVersion = layoutVersion := rfl
  have mode : (draft.encodedHeader addressing).mode = .ok addressing.mode :=
    AddressMode.ofFlag_flag _
  have head : (draft.encodedHeader addressing).head.validate "head" = .ok () :=
    bounded.validate_encodedTableHeader addressing .head "head"
  have data : (draft.encodedHeader addressing).data.validate "data" = .ok () :=
    bounded.validate_encodedTableHeader addressing .data "data"
  unfold ContainerHeader.validate
  simp only [magic, layout, ne_eq, not_true_eq_false, if_false, accepted, mode, head, data,
    Outcome.ok_bind]

/-- The container takes up all of its octets. -/
theorem Bounded.take_extent {draft : Draft} (bounded : draft.Bounded)
    (addressing : Addressing) (base : UInt64) :
    Span.take ⟨base, (draft.encodedWith addressing).toArray⟩ draft.extent =
      ⟨base, (draft.encodedWith addressing).toArray⟩ := by
  rw [<- bounded.view_size addressing base]
  simp [Span.take, view, Span.size]

/-- A reader sees the container. -/
theorem Bounded.ofSpan_eq {draft : Draft} (bounded : draft.Bounded) (addressing : Addressing)
    {base : UInt64} (aligned : base.toNat % headerAlignment = 0) :
    Container.ofSpan ⟨base, (draft.encodedWith addressing).toArray⟩ =
      .ok (draft.view addressing base) := by
  have size := bounded.view_size addressing base
  have area := draft.rowsArea_eq
  have rows := draft.rowsArea_le_stop
  have rounded := draft.stop_le_extent
  have read := draft.headerAt_encodedWith addressing aligned
  have accepted := bounded.validate_encodedHeader addressing
  have mode : (draft.encodedHeader addressing).mode = .ok addressing.mode :=
    AddressMode.ofFlag_flag _
  have least : leastContainerSize = 80 := rfl
  have long : ¬ draft.extent < leastContainerSize := by omega
  have whole := bounded.take_extent addressing base
  simp only [view] at size
  unfold Container.ofSpan
  simp only [size, long, if_false, read, accepted, mode, Outcome.ok_bind,
    bounded.toNat_capacity, whole, Outcome.pure_eq_ok, view]

/-- The octets of a relocated image are handed out. -/
theorem relocatedBytes_eq (draft : Draft) {base : UInt64}
    (aligned : base.toNat % headerAlignment = 0) :
    Image.relocatedBytes ⟨⟨base, (draft.encodedWith .distances).toArray⟩⟩ =
      .ok (draft.encodedWith .distances).toArray := by
  have mode : (draft.encodedHeader .distances).mode = .ok .relocatable :=
    AddressMode.ofFlag_flag .relocatable
  rw [Image.relocatedBytes, Image.mode, draft.headerAt_encodedWith .distances aligned,
    Outcome.ok_bind, mode]
  rfl

/-- Relocated octets are loaded at any aligned address. -/
theorem Bounded.ofBytes_eq {draft : Draft} (bounded : draft.Bounded) {base : UInt64}
    (aligned : base.toNat % headerAlignment = 0) :
    Image.ofBytes base (draft.encodedWith .distances).toArray =
      .ok ⟨⟨base, (draft.encodedWith .distances).toArray⟩⟩ := by
  have size := bounded.view_size .distances base
  have read := draft.headerAt_encodedWith .distances aligned
  have accepted := bounded.validate_encodedHeader .distances
  have mode : (draft.encodedHeader .distances).mode = .ok .relocatable :=
    AddressMode.ofFlag_flag .relocatable
  have whole := bounded.take_extent .distances base
  simp only [view] at size
  unfold Image.ofBytes
  simp only [size, read, accepted, mode, Outcome.ok_bind, ne_eq, not_true_eq_false, if_false,
    bounded.toNat_capacity, whole, Outcome.pure_eq_ok]

/-! ## Rows -/

theorem Bounded.slotPlace_le {draft : Draft} (bounded : draft.Bounded) {kind : TableKind}
    {number : Nat} (inside : number < (draft.table kind).capacity) :
    draft.slotPlace kind number + rowSlotSize <= draft.versionArea ∧
      draft.slotPlace kind number + rowSlotSize < addressLimit := by
  have slotsEnd := (bounded.slotsEnd_le kind).1
  have limit := bounded.extent_lt
  have area := draft.versionArea_eq
  have array := draft.dataArray_eq
  have slotSize : rowSlotSize = 24 := rfl
  unfold slotPlace addressLimit
  cases kind with
  | head =>
      simp only [arrayOf, table, headArray_eq, slotSize, versionAreaSize] at inside slotsEnd ⊢
      omega
  | data =>
      simp only [arrayOf, table, array, slotSize, versionAreaSize] at inside slotsEnd ⊢
      omega

/-- A slot is read at its place. -/
theorem Bounded.headerAt_slot {draft : Draft} (bounded : draft.Bounded)
    (addressing : Addressing) {base : UInt64} (aligned : base.toNat % headerAlignment = 0)
    {kind : TableKind} {number : Nat} {slot : RowHeader}
    (found : (draft.tableSlots addressing kind)[number]? = some slot) :
    Span.headerAt ⟨base, (draft.encodedWith addressing).toArray⟩ RowHeader
        (draft.slotPlace kind number) = .ok slot := by
  have inside := (List.getElem?_eq_some_iff.mp found).1
  rw [bounded.length_tableSlots] at inside
  rcases bounded.standsIn addressing (draft.slot_mem_parts addressing kind found) with
    ⟨front, back, place, octets⟩
  change front.length = draft.slotPlace kind number at place
  rw [octets, <- place]
  apply Span.headerAt_append
  · rw [place]
    exact (bounded.slotPlace_le inside).2
  · have first := draft.arrayOf_mod kind
    have slotSize : rowSlotSize = 24 := rfl
    rw [place, slotPlace, slotSize]
    unfold headerAlignment at *
    omega

/-- The rows in front of a row of a table, in the order in which rows are stored. -/
theorem allRows_split (draft : Draft) (kind : TableKind) (before after : List DraftRow)
    (row : DraftRow) (rows_eq : (draft.table kind).rows.toList = before ++ row :: after) :
    exists earlier later : List DraftRow, draft.allRows = earlier ++ row :: later ∧
      DraftRow.stopOf draft.rowsArea earlier =
        DraftRow.stopOf (draft.firstPlace kind) before := by
  cases kind with
  | head =>
      refine ⟨before, after ++ draft.data.rows.toList, ?_, rfl⟩
      simp only [table] at rows_eq
      rw [allRows, rows_eq, List.append_assoc, List.cons_append]
  | data =>
      refine ⟨draft.head.rows.toList ++ before, after, ?_, DraftRow.stopOf_append _ _ _⟩
      simp only [table] at rows_eq
      rw [allRows, rows_eq, List.append_assoc]

/-- A row stands behind the rows before it. -/
theorem Bounded.row_stands {draft : Draft} (bounded : draft.Bounded) (addressing : Addressing)
    (kind : TableKind) {number : Nat} {row : DraftRow}
    (found : (draft.table kind).rows.toList[number]? = some row) :
    exists front back : List UInt8,
      front.length = DraftRow.startsPlace (draft.rowPlace kind number) ∧
      draft.encodedWith addressing =
        front ++ row.startsTable ++ row.text.toList ++ back := by
  rcases draft.allRows_split kind _ _ row (take_append_cons_drop found) with
    ⟨earlier, later, split, place⟩
  change DraftRow.stopOf draft.rowsArea earlier = draft.rowPlace kind number at place
  let leading := StoredHeader.encode (draft.encodedHeader addressing) ++
    draft.tableOctets addressing .head ++ draft.tableOctets addressing .data ++
    draft.versionField ++ DraftRow.storedFrom draft.rowsArea earlier
  have leadingSize : leading.length = DraftRow.stopOf draft.rowsArea earlier := by
    have header : (StoredHeader.encode (draft.encodedHeader addressing)).length = 80 :=
      length_encode _
    have size := DraftRow.length_storedFrom draft.rowsArea earlier
    have area := draft.rowsArea_eq
    simp only [leading, List.length_append, header, bounded.length_tableOctets,
      bounded.length_versionField, table, versionAreaSize]
    omega
  have rounded := DraftRow.le_startsPlace (DraftRow.stopOf draft.rowsArea earlier)
  rw [<- place]
  refine ⟨leading ++ blank (DraftRow.startsPlace (DraftRow.stopOf draft.rowsArea earlier) -
      DraftRow.stopOf draft.rowsArea earlier),
    DraftRow.storedFrom (row.stopPlace (DraftRow.stopOf draft.rowsArea earlier)) later ++
      blank (draft.extent - draft.stop), ?_, ?_⟩
  · rw [List.length_append, leadingSize, List.length_replicate]
    omega
  · rw [encodedWith, split, DraftRow.storedFrom_append, DraftRow.storedFrom, DraftRow.stored]
    simp only [List.append_assoc, leading]

/-- The text of a row is one of the places that a reader has to reach. -/
theorem textPlace_mem (draft : Draft) (kind : TableKind) {number : Nat} {row : DraftRow}
    (found : (draft.table kind).rows.toList[number]? = some row) :
    row.textPlace (draft.rowPlace kind number) ∈ draft.textPlaces := by
  rcases draft.allRows_split kind _ _ row (take_append_cons_drop found) with
    ⟨earlier, later, split, place⟩
  change DraftRow.stopOf draft.rowsArea earlier = draft.rowPlace kind number at place
  rw [textPlaces, split, DraftRow.textPlaces_append, DraftRow.textPlaces, <- place]
  exact List.mem_append_right _ List.mem_cons_self

/-- One of the tables that a reader sees. -/
def tableView (draft : Draft) (addressing : Addressing) (base : UInt64) (kind : TableKind) :
    Table where
  span := (draft.view addressing base).span
  header := draft.encodedTableHeader addressing kind
  mode := addressing.mode

theorem table_eq (draft : Draft) (addressing : Addressing) (base : UInt64) (kind : TableKind) :
    (draft.view addressing base).table kind = .ok (draft.tableView addressing base kind) := by
  have mode : (draft.encodedTableHeader addressing kind).mode = .ok addressing.mode :=
    AddressMode.ofFlag_flag _
  have header : (draft.view addressing base).header.table kind =
      draft.encodedTableHeader addressing kind := by
    cases kind with
    | head => rfl
    | data => rfl
  unfold Container.table Table.ofHeader
  rw [header, mode]
  simp only [Outcome.ok_bind, view, ne_eq, not_true_eq_false, if_false]
  rfl

theorem arrayReference_tableView (draft : Draft) (addressing : Addressing) (base : UInt64)
    (kind : TableKind) :
    (draft.tableView addressing base kind).header.arrayReference =
      .ok (Reference.ofWord (addressing.word (draft.arrayOf kind)) addressing.mode) := by
  have mode : (draft.encodedTableHeader addressing kind).mode = .ok addressing.mode :=
    AddressMode.ofFlag_flag _
  rw [tableView, TableHeader.arrayReference, mode]
  rfl

/-- A slot is read from the array of its table. -/
theorem Legible.rowAt_eq {draft : Draft} {addressing : Addressing} {base : UInt64}
    (legible : draft.Legible addressing base) (bounded : draft.Bounded) (kind : TableKind)
    {number : Nat} {row : DraftRow} (found : (draft.table kind).rows.toList[number]? = some row) :
    (draft.tableView addressing base kind).rowAt number =
      .ok { span := (draft.view addressing base).span
            header := row.slot addressing (draft.rowPlace kind number) } := by
  have used : number < (draft.table kind).rows.size := by
    have inside := (List.getElem?_eq_some_iff.mp found).1
    rwa [Array.length_toList] at inside
  have inside := Nat.lt_of_lt_of_le used (bounded.size_le_capacity kind)
  have room := (bounded.slotPlace_le inside).2
  have count : (draft.tableView addressing base kind).length =
      (draft.table kind).rows.size := bounded.toNat_length addressing kind
  have slotAt : (UInt64.ofNat (draft.arrayOf kind)).toNat + number * rowSlotSize =
      draft.slotPlace kind number := by
    unfold slotPlace addressLimit at *
    rw [UInt64.toNat_ofNat', Nat.mod_eq_of_lt (by omega), Nat.mul_comm]
  have mode : (row.slot addressing (draft.rowPlace kind number)).mode = .ok addressing.mode :=
    AddressMode.ofFlag_flag _
  have read := bounded.headerAt_slot addressing legible.aligned
    (draft.tableSlots_of_row addressing kind found)
  apply Table.rowAt_eq_ok_iff.mpr
  refine ⟨by rwa [count], _, _, _, draft.arrayReference_tableView addressing base kind,
    (legible.array kind).offset, ?_, ?_, mode, rfl⟩
  · rw [slotAt]
    omega
  · rw [slotAt]
    exact read

/-- A row that is read holds the columns that were put into it. -/
theorem Legible.row_holds {draft : Draft} {addressing : Addressing} {base : UInt64}
    (legible : draft.Legible addressing base) (bounded : draft.Bounded) (kind : TableKind)
    {number : Nat} {columns : List Bytes} (admissible : DraftRow.Admissible columns)
    (found : (draft.table kind).rows.toList[number]? = some (DraftRow.holding columns)) :
    let cursor := draft.rowPlace kind number
    Row.Holds
      { span := (draft.view addressing base).span
        header := (DraftRow.holding columns).slot addressing cursor }
      columns (DraftRow.startsPlace cursor) := by
  intro cursor
  have limit := bounded.extent_lt
  have size := bounded.view_size addressing base
  have textPlace := draft.textPlace_mem kind found
  have startsReach := legible.row _ textPlace (DraftRow.startsPlace cursor)
    (Nat.le_add_right _ _)
  have textReach := legible.row _ textPlace _ (Nat.le_refl _)
  rw [DraftRow.textPlace_holding] at textReach
  refine ⟨admissible, ?_, admissible.toNat_length_slot addressing cursor,
    admissible.toNat_columns_slot addressing cursor, ?_, ?_, ?_⟩
  · rw [size]
    unfold addressLimit
    omega
  · intro nonempty
    exact ⟨_, admissible.startsReference_slot addressing cursor nonempty, startsReach.offset⟩
  · exact ⟨_, DraftRow.textReference_slot columns addressing cursor, textReach.offset,
      textReach.address⟩
  · rcases bounded.row_stands addressing kind found with
      ⟨front, back, frontSize, octets⟩
    refine ⟨front, back, frontSize, ?_⟩
    rw [view, octets]
    rfl

end Draft
end MappedTables
