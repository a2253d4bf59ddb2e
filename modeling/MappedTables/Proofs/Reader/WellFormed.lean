import MappedTables.Proofs.Reader.Moved
import MappedTables.Proofs.Reader.Readings
import MappedTables.Proofs.StoredHeader

namespace MappedTables

/-!
Well-formed containers.

Whether a container is well formed is said here by numbers alone: where a word
refers to, which octets lie inside the span, which numbers stand in them.  The
reader's check accepts exactly the well-formed containers, in either mode.  The
check reads a table of column starts as a whole and a lookup reads a single
entry of it, by another computation; in a well-formed container the two agree,
so that a lookup succeeds for every cell that there is, reports a miss for every
other, and never stops.
-/

/-- The place, counted from the base, that a word of the given mode refers to.  An address
below the base refers to no place. -/
def Designates (mode : AddressMode) (base word : UInt64) (place : Nat) : Prop :=
  match mode with
  | .live => base.toNat + place = word.toNat
  | .relocatable => place = word.toNat

theorem Designates.lt {mode : AddressMode} {base word : UInt64} {place : Nat}
    (designates : Designates mode base word place) : place < addressLimit := by
  have small : word.toNat < addressLimit := word.toNat_lt
  cases mode with
  | live =>
      unfold Designates at designates
      omega
  | relocatable =>
      unfold Designates at designates
      omega

theorem Reference.offsetFrom_eq_ok_iff {mode : AddressMode} {base word offset : UInt64} :
    (Reference.ofWord word mode).offsetFrom base = .ok offset <->
      Designates mode base word offset.toNat := by
  cases mode with
  | relocatable =>
      change Except.ok word = Except.ok offset <-> offset.toNat = word.toNat
      rw [Except.ok.injEq, UInt64.toNat_inj, eq_comm]
  | live =>
      change offsetOf base word = .ok offset <-> base.toNat + offset.toNat = word.toNat
      unfold offsetOf
      by_cases below : word < base
      · rw [if_pos below]
        rw [UInt64.lt_iff_toNat_lt] at below
        constructor
        · intro impossible
          cases impossible
        · intro impossible
          omega
      · rw [if_neg below, Except.ok.injEq]
        rw [UInt64.not_lt] at below
        have distance := UInt64.toNat_sub_of_le word base below
        rw [UInt64.le_iff_toNat_le] at below
        rw [<- UInt64.toNat_inj, distance]
        omega

/-- A place that is designated is the offset of the reference. -/
theorem Designates.exists_offset {mode : AddressMode} {base word : UInt64} {place : Nat}
    (designates : Designates mode base word place) :
    exists offset, (Reference.ofWord word mode).offsetFrom base = .ok offset ∧
      offset.toNat = place := by
  have counted : (UInt64.ofNat place).toNat = place :=
    UInt64.toNat_ofNat_of_lt' designates.lt
  refine ⟨UInt64.ofNat place, Reference.offsetFrom_eq_ok_iff.mpr ?_, counted⟩
  rw [counted]
  exact designates

theorem AddressMode.ofFlag_eq_ok_iff {octet : UInt8} {mode : AddressMode} :
    AddressMode.ofFlag octet = .ok mode <-> octet = mode.flag := by
  rw [<- AddressMode.ofFlag?_eq_some_iff, AddressMode.ofFlag]
  cases AddressMode.ofFlag? octet with
  | none => simp
  | some found => simp

theorem Span.headerAt_eq_ok_iff {span : Span} {Header : Type} [StoredHeader Header]
    {offset : Nat} {header : Header} :
    span.headerAt Header offset = .ok header <->
      offset + StoredHeader.size Header < addressLimit ∧
        offset + StoredHeader.size Header <= span.size ∧
        (span.base.toNat + offset) % headerAlignment = 0 ∧
        header = StoredHeader.decode (span.bytes.slice offset (StoredHeader.size Header)) := by
  rw [headerAt, Outcome.bind_eq_ok_iff]
  constructor
  · rintro ⟨_, checked, same⟩
    rcases (span.checkHeader_eq_ok_iff Header offset).mp checked with ⟨room, inside, aligned⟩
    cases same
    exact ⟨room, inside, aligned, rfl⟩
  · rintro ⟨room, inside, aligned, same⟩
    have checked := (span.checkHeader_eq_ok_iff Header offset).mpr ⟨room, inside, aligned⟩
    exact ⟨(), checked, same ▸ rfl⟩

namespace Container

/-! ## The definition -/

/-- The slot of a row, counted from zero, stands at a place. -/
def SlotAt (container : Container) (kind : TableKind) (index place : Nat) : Prop :=
  exists array,
    Designates container.mode container.base (container.header.table kind).arrayWord array ∧
      place = array + index * rowSlotSize

/-- The slot that the octets at a place form. -/
def slot (container : Container) (place : Nat) : RowHeader :=
  StoredHeader.decode (container.span.bytes.slice place rowSlotSize)

/-- An entry of a table of column starts at a place. -/
def startEntry (container : Container) (place index : Nat) : Nat :=
  container.span.bytes.field (place + 2 * index) 2

/-- A row is in the mode of the container, its text lies inside, and if it has columns so
does the whole table of their starts, which are in order and none behind the text. -/
structure RowWellFormed (container : Container) (header : RowHeader) : Prop where
  mode : header.modeFlag = container.mode.flag
  text : exists place, Designates container.mode container.base header.textWord place ∧
    place + header.length.toNat <= container.capacity
  starts : header.columns ≠ 0 -> exists place,
    Designates container.mode container.base header.startsWord place ∧
      place + 2 * header.columns.toNat <= container.capacity ∧
      (forall first second, first < second -> second < header.columns.toNat ->
        container.startEntry place first <= container.startEntry place second) ∧
      forall index, index < header.columns.toNat ->
        container.startEntry place index <= header.length.toNat

/-- Both tables are in the mode of the container, and the slot of each used row lies inside
at an aligned address and is well formed. -/
structure WellFormed (container : Container) : Prop where
  mode : forall kind, (container.header.table kind).modeFlag = container.mode.flag
  row : forall kind index, index < container.length kind -> exists place,
    container.SlotAt kind index place ∧
      place + rowSlotSize <= container.capacity ∧
      (container.base.toNat + place) % headerAlignment = 0 ∧
      container.RowWellFormed (container.slot place)

/-- There is a cell: a line of the table and a column of the row at that line, both counted
from one. -/
def HasCell (container : Container) (kind : TableKind) (line : UInt32) (column : UInt16) :
    Prop :=
  1 <= line.toNat ∧ line.toNat <= container.length kind ∧ 1 <= column.toNat ∧
    exists place, container.SlotAt kind (line.toNat - 1) place ∧
      column.toNat <= (container.slot place).columns.toNat

/-! ## Rows -/

theorem SlotAt.unique {container : Container} {kind : TableKind} {index place other : Nat}
    (here : container.SlotAt kind index place) (there : container.SlotAt kind index other) :
    place = other := by
  rcases here with ⟨array, designates, rfl⟩
  rcases there with ⟨again, alike, rfl⟩
  have same : array = again := by
    unfold Designates at designates alike
    cases mode : container.mode with
    | live =>
        rw [mode] at designates alike
        exact Nat.add_left_cancel (designates.trans alike.symm)
    | relocatable =>
        rw [mode] at designates alike
        exact designates.trans alike.symm
  rw [same]

variable {container : Container} {header : RowHeader}

/-- Reading octets through a word succeeds exactly if the octets lie inside. -/
theorem resolve_ofWord_eq_ok_iff (small : container.capacity < addressLimit) {word : UInt64}
    {length : Nat} {octets : Bytes} :
    container.span.resolve (.ofWord word container.mode) length = .ok octets <->
      exists place, Designates container.mode container.base word place ∧
        place + length <= container.capacity ∧
        octets = container.span.bytes.slice place length := by
  rw [Span.resolve, Outcome.bind_eq_ok_iff]
  simp only [Span.slice_eq_ok_iff]
  constructor
  · rintro ⟨offset, found, _, inside, same⟩
    exact ⟨offset.toNat, Reference.offsetFrom_eq_ok_iff.mp found, inside, same⟩
  · rintro ⟨place, designates, inside, same⟩
    rcases designates.exists_offset with ⟨offset, found, rfl⟩
    exact ⟨offset, found, Nat.lt_of_le_of_lt inside small, inside, same⟩

/-- The table of starts of a row with columns is found, and its entries are read from it. -/
theorem columnStarts_eq_map (mode : header.mode = .ok container.mode)
    (columns : header.columns ≠ 0) :
    (Row.mk container.span header).columnStarts =
      (container.span.resolve (.ofWord header.startsWord container.mode)
        (2 * header.columns.toNat)).map fun table =>
          (List.range header.columns.toNat).map (Row.startEntry table) := by
  have reference : header.startsReference =
      .ok (some (.ofWord header.startsWord container.mode)) := by
    rw [RowHeader.startsReference, if_neg columns, mode]
    rfl
  rw [Row.columnStarts, reference]
  cases resolved : container.span.resolve (.ofWord header.startsWord container.mode)
      (2 * header.columns.toNat) with
  | error refusal => simp [Row.columnCount, resolved, Except.map]
  | ok table => simp [Row.columnCount, resolved, Except.map]

/-- An entry is the same in the table cut out of the container as in its place there. -/
theorem map_startEntry_slice (container : Container) (place count : Nat) :
    (List.range count).map
        (Row.startEntry (container.span.bytes.slice place (2 * count))) =
      (List.range count).map (container.startEntry place) := by
  apply List.map_congr_left
  intro index member
  have below := List.mem_range.mp member
  exact Bytes.field_slice _ _ _ _ _ (by omega)

/-- The column starts of a row with columns are the entries of its table, which lies inside. -/
theorem columnStarts_eq_ok_iff (small : container.capacity < addressLimit)
    (mode : header.mode = .ok container.mode) (columns : header.columns ≠ 0)
    {starts : List Nat} :
    (Row.mk container.span header).columnStarts = .ok starts <->
      exists place, Designates container.mode container.base header.startsWord place ∧
        place + 2 * header.columns.toNat <= container.capacity ∧
        starts = (List.range header.columns.toNat).map (container.startEntry place) := by
  rw [columnStarts_eq_map mode columns]
  constructor
  · intro given
    cases resolved : container.span.resolve (.ofWord header.startsWord container.mode)
        (2 * header.columns.toNat) with
    | error refusal =>
        rw [resolved] at given
        cases given
    | ok table =>
        rw [resolved] at given
        cases given
        rcases (resolve_ofWord_eq_ok_iff small).mp resolved with
          ⟨place, designates, inside, rfl⟩
        exact ⟨place, designates, inside, map_startEntry_slice container place _⟩
  · rintro ⟨place, designates, inside, rfl⟩
    rw [(resolve_ofWord_eq_ok_iff small).mpr ⟨place, designates, inside, rfl⟩]
    exact congrArg Except.ok (map_startEntry_slice container place _)

theorem text_eq_ok_iff (small : container.capacity < addressLimit)
    (mode : header.mode = .ok container.mode) {octets : Bytes} :
    (Row.mk container.span header).text = .ok octets <->
      exists place, Designates container.mode container.base header.textWord place ∧
        place + header.length.toNat <= container.capacity ∧
        octets = container.span.bytes.slice place header.length.toNat := by
  have reference : header.textReference = .ok (.ofWord header.textWord container.mode) := by
    rw [RowHeader.textReference, mode]
    rfl
  rw [Row.text, reference]
  exact resolve_ofWord_eq_ok_iff small

/-- Numbers taken at the first positions are in order exactly if each two of them are. -/
theorem pairwise_map_range_iff (entry : Nat -> Nat) (count : Nat) :
    ((List.range count).map entry).Pairwise (· <= ·) <->
      forall first second, first < second -> second < count -> entry first <= entry second := by
  rw [List.pairwise_iff_getElem]
  constructor
  · intro ordered first second before below
    have pair := ordered first second (by simp; omega) (by simp; omega) before
    simpa using pair
  · intro ordered first second _ inside before
    have below : second < count := by simpa using inside
    simpa using ordered first second before below

theorem validate_row_eq_ok_iff (small : container.capacity < addressLimit)
    (mode : header.mode = .ok container.mode) :
    (Row.mk container.span header).validate = .ok () <-> container.RowWellFormed header := by
  have flag := AddressMode.ofFlag_eq_ok_iff.mp mode
  rw [Row.validate_eq_ok_iff]
  by_cases columns : header.columns = 0
  · have none : (Row.mk container.span header).columnStarts = .ok [] := by
      rw [Row.columnStarts, RowHeader.startsReference, if_pos columns]
      rfl
    constructor
    · rintro ⟨starts, octets, sound⟩
      rcases (text_eq_ok_iff small mode).mp sound.text_eq with ⟨place, designates, inside, _⟩
      exact ⟨flag, ⟨place, designates, inside⟩, fun some => absurd columns some⟩
    · intro good
      rcases good.text with ⟨place, designates, inside⟩
      exact ⟨[], _, none, (text_eq_ok_iff small mode).mpr ⟨place, designates, inside, rfl⟩,
        List.Pairwise.nil, fun _ member => absurd member List.not_mem_nil⟩
  · constructor
    · rintro ⟨starts, octets, sound⟩
      rcases (text_eq_ok_iff small mode).mp sound.text_eq with ⟨place, designates, inside, _⟩
      refine ⟨flag, ⟨place, designates, inside⟩, fun _ => ?_⟩
      rcases (columnStarts_eq_ok_iff small mode columns).mp sound.starts_eq with
        ⟨table, found, within, rfl⟩
      refine ⟨table, found, within, (pairwise_map_range_iff _ _).mp sound.ordered, ?_⟩
      intro index below
      exact sound.bounded _ (List.mem_map_of_mem (List.mem_range.mpr below))
    · intro good
      rcases good.text with ⟨place, designates, inside⟩
      rcases good.starts columns with ⟨table, found, within, ordered, bounded⟩
      have starts := (columnStarts_eq_ok_iff small mode columns).mpr ⟨table, found, within, rfl⟩
      have text := (text_eq_ok_iff small mode).mpr ⟨place, designates, inside, rfl⟩
      refine ⟨_, _, starts, text, (pairwise_map_range_iff _ _).mpr ordered, ?_⟩
      intro start member
      rcases List.mem_map.mp member with ⟨index, below, rfl⟩
      exact bounded index (List.mem_range.mp below)

/-! ## Tables -/

/-- The table of a container whose header is in the mode of the container. -/
def tableOf (container : Container) (kind : TableKind) : Table where
  span := container.span
  header := container.header.table kind
  mode := container.mode

/-- The row at a position is read exactly if its slot lies inside at an aligned address and
is in the mode of the container. -/
theorem rowAt_eq_ok_iff (small : container.capacity < addressLimit) {kind : TableKind}
    (mode : (container.header.table kind).mode = .ok container.mode) {index : Nat} {row : Row} :
    (container.tableOf kind).rowAt index = .ok row <->
      index < container.length kind ∧ exists place,
        container.SlotAt kind index place ∧
          place + rowSlotSize <= container.capacity ∧
          (container.base.toNat + place) % headerAlignment = 0 ∧
          (container.slot place).mode = .ok container.mode ∧
          row = ⟨container.span, container.slot place⟩ := by
  have reference : (container.header.table kind).arrayReference =
      .ok (.ofWord (container.header.table kind).arrayWord container.mode) := by
    rw [TableHeader.arrayReference, mode]
    rfl
  rw [Table.rowAt_eq_ok_iff]
  change (index < container.length kind ∧ _) <-> _
  apply and_congr_right
  intro _
  constructor
  · rintro ⟨found, array, header, present, offset, _, stored, recorded, same⟩
    have alike : Reference.ofWord (container.header.table kind).arrayWord container.mode =
        found := Except.ok.inj (reference.symm.trans present)
    rcases Span.headerAt_eq_ok_iff.mp stored with ⟨_, inside, aligned, rfl⟩
    rw [<- alike] at offset
    exact ⟨_, ⟨array.toNat, Reference.offsetFrom_eq_ok_iff.mp offset, rfl⟩, inside, aligned,
      recorded, same⟩
  · rintro ⟨place, ⟨array, designates, rfl⟩, inside, aligned, recorded, same⟩
    rcases designates.exists_offset with ⟨offset, found, rfl⟩
    have bound : offset.toNat + index * rowSlotSize + rowSlotSize < addressLimit :=
      Nat.lt_of_le_of_lt inside small
    exact ⟨_, offset, _, reference, found, by omega,
      Span.headerAt_eq_ok_iff.mpr ⟨bound, inside, aligned, rfl⟩, recorded, same⟩

/-! ## Containers -/

theorem validate_iff_wellFormed (small : container.capacity < addressLimit) :
    container.validate = .ok () <-> container.WellFormed := by
  rw [validate_eq_ok_iff]
  constructor
  · intro valid
    refine ⟨fun kind => ?_, fun kind index below => ?_⟩
    · rcases valid kind with ⟨table, found, _⟩
      exact AddressMode.ofFlag_eq_ok_iff.mp (table_eq_ok_iff.mp found).1
    · rcases valid kind with ⟨table, found, rows⟩
      rcases table_eq_ok_iff.mp found with ⟨mode, rfl⟩
      rcases (Table.validate_eq_ok_iff _).mp rows index below with ⟨row, read, sound⟩
      rcases (rowAt_eq_ok_iff small mode).mp read with
        ⟨_, place, stands, inside, aligned, recorded, rfl⟩
      exact ⟨place, stands, inside, aligned, (validate_row_eq_ok_iff small recorded).mp sound⟩
  · intro good kind
    have mode : (container.header.table kind).mode = .ok container.mode :=
      AddressMode.ofFlag_eq_ok_iff.mpr (good.mode kind)
    refine ⟨container.tableOf kind, table_eq_ok_iff.mpr ⟨mode, rfl⟩, ?_⟩
    apply (Table.validate_eq_ok_iff _).mpr
    intro index below
    rcases good.row kind index below with ⟨place, stands, inside, aligned, rowGood⟩
    have recorded : (container.slot place).mode = .ok container.mode :=
      AddressMode.ofFlag_eq_ok_iff.mpr rowGood.mode
    exact ⟨_, (rowAt_eq_ok_iff small mode).mpr ⟨below, place, stands, inside, aligned, recorded,
      rfl⟩, (validate_row_eq_ok_iff small recorded).mpr rowGood⟩

end Container

namespace Row

/-- A column that the row does not have is missed. -/
theorem column_eq_missing {row : Row} {column : UInt16}
    (missing : column = 0 ∨ row.header.columns < column) :
    row.column column =
      .error (.error (.outOfBounds .column column.toNat row.columnCount)) := by
  simp [Row.column, columnStart, missing]

end Row

namespace Container

variable {container : Container} {kind : TableKind} {line : UInt32} {column : UInt16}

theorem lineIndex_eq_error {length : Nat} (outside : line = 0 ∨ length < line.toNat) :
    lineIndex line length = .error (.outOfBounds .line line.toNat length) := by
  rw [lineIndex, if_pos outside]

theorem lineIndex_eq_ok {length : Nat} (positive : 1 <= line.toNat)
    (within : line.toNat <= length) : lineIndex line length = .ok (line.toNat - 1) :=
  lineIndex_eq_ok_iff.mpr ⟨by omega, by omega⟩

/-- A column of a line is the column of the row that stands there. -/
theorem columnAt_eq_of_row {table : Table} {row : Row} {index : Nat}
    (counted : lineIndex line (container.length kind) = .ok index)
    (found : container.table kind = .ok table) (read : table.rowAt index = .ok row) :
    container.columnAt kind line column = row.column column := by
  simp [columnAt, counted, found, Table.columnAt, read]

/-- The row at each line of a well-formed container is read and sound. -/
theorem WellFormed.exists_row (good : container.WellFormed)
    (small : container.capacity < addressLimit) (kind : TableKind) {index : Nat}
    (below : index < container.length kind) :
    exists place table starts octets, container.SlotAt kind index place ∧
      container.table kind = .ok table ∧
      table.rowAt index = .ok ⟨container.span, container.slot place⟩ ∧
      (Row.mk container.span (container.slot place)).Sound starts octets := by
  have mode : (container.header.table kind).mode = .ok container.mode :=
    AddressMode.ofFlag_eq_ok_iff.mpr (good.mode kind)
  rcases good.row kind index below with ⟨place, stands, inside, aligned, rowGood⟩
  have recorded : (container.slot place).mode = .ok container.mode :=
    AddressMode.ofFlag_eq_ok_iff.mpr rowGood.mode
  have read := (rowAt_eq_ok_iff small mode).mpr
    ⟨below, place, stands, inside, aligned, recorded, rfl⟩
  rcases (Row.validate_eq_ok_iff _).mp ((validate_row_eq_ok_iff small recorded).mpr rowGood) with
    ⟨starts, octets, sound⟩
  exact ⟨place, container.tableOf kind, starts, octets, stands,
    table_eq_ok_iff.mpr ⟨mode, rfl⟩, read, sound⟩

theorem WellFormed.columnAt_eq_ok (good : container.WellFormed)
    (small : container.capacity < addressLimit) (cell : container.HasCell kind line column) :
    exists text, container.columnAt kind line column = .ok text := by
  rcases cell with ⟨positive, within, nonzero, place, stands, few⟩
  have below : line.toNat - 1 < container.length kind := by omega
  rcases good.exists_row small kind below with
    ⟨other, table, starts, octets, alike, found, read, sound⟩
  rw [alike.unique stands] at read sound
  have present : column ≠ 0 := by
    rintro rfl
    exact absurd nonzero (by decide)
  rw [columnAt_eq_of_row (lineIndex_eq_ok positive within) found read]
  exact sound.column_eq_ok present (UInt16.le_iff_toNat_le.mpr few)

theorem WellFormed.columnAt_eq_missing (good : container.WellFormed)
    (small : container.capacity < addressLimit)
    (missing : ¬ container.HasCell kind line column) :
    exists error : Error, error.kind = .outOfBounds ∧
      container.columnAt kind line column = .error (.error error) := by
  by_cases outside : line = 0 ∨ container.length kind < line.toNat
  · refine ⟨.outOfBounds .line line.toNat (container.length kind), rfl, ?_⟩
    rw [columnAt, lineIndex_eq_error outside]
    rfl
  · rw [not_or, Nat.not_lt] at outside
    have positive : 1 <= line.toNat := by
      have nonzero : line.toNat ≠ 0 := fun zero => outside.1 (UInt32.toNat_inj.mp zero)
      omega
    have below : line.toNat - 1 < container.length kind := by omega
    rcases good.exists_row small kind below with
      ⟨place, table, _, _, stands, found, read, _⟩
    have absent : column = 0 ∨ (container.slot place).columns < column := by
      by_cases zero : column = 0
      · exact Or.inl zero
      · right
        have nonzero : column.toNat ≠ 0 := fun none => zero (UInt16.toNat_inj.mp none)
        have few : ¬ column.toNat <= (container.slot place).columns.toNat := fun few =>
          missing ⟨positive, outside.2, by omega, place, stands, few⟩
        rw [UInt16.lt_iff_toNat_lt]
        omega
    refine ⟨.outOfBounds .column column.toNat (container.slot place).columns.toNat, rfl, ?_⟩
    rw [columnAt_eq_of_row (lineIndex_eq_ok positive outside.2) found read]
    exact Row.column_eq_missing absent

/-- The octets of an opened container are as many as its header says. -/
theorem capacity_lt_of_ofSpan {span : Span} (opened : ofSpan span = .ok container) :
    container.capacity < addressLimit := by
  rcases ofSpan_eq_ok_iff.mp opened with ⟨_, header, mode, _, accepted, _, rfl⟩
  have inside := (ContainerHeader.validate_eq_ok_iff.mp accepted).2.2.2.1
  change (span.take header.capacity.toNat).size < addressLimit
  rw [span.size_take inside]
  exact header.capacity.toNat_lt

/-- The check of an opened container accepts exactly the well-formed ones.  Of one that it
accepts no reading stops, every cell that there is can be looked up, and asking for any
other reports that it is out of bounds. -/
theorem validate_exact (base : UInt64) (bytes : Bytes) {container : Container}
    (opened : ofSpan { base, bytes } = .ok container) :
    (container.validate = .ok () <-> container.WellFormed) ∧
      (container.validate = .ok () ->
        (forall reading : Reading, reading.stop container = none) ∧
        forall kind line column,
          ((exists text, container.columnAt kind line column = .ok text) <->
            container.HasCell kind line column) ∧
          ((exists address, container.columnAddressAt kind line column = .ok address) <->
            container.HasCell kind line column) ∧
          (¬ container.HasCell kind line column ->
            exists error : Error, error.kind = .outOfBounds ∧
              container.columnAt kind line column = .error (.error error) ∧
              container.columnAddressAt kind line column = .error (.error error))) := by
  have small := capacity_lt_of_ofSpan opened
  refine ⟨validate_iff_wellFormed small, fun valid => ?_⟩
  refine ⟨Reading.stop_eq_none_of_validate valid, fun kind line column => ?_⟩
  have good := (validate_iff_wellFormed small).mp valid
  have address := columnAddressAt_eq_map container kind line column
  by_cases cell : container.HasCell kind line column
  · rcases good.columnAt_eq_ok small cell with ⟨text, found⟩
    rw [found] at address
    exact ⟨⟨fun _ => cell, fun _ => ⟨text, found⟩⟩,
      ⟨fun _ => cell, fun _ => ⟨_, address⟩⟩, fun missing => absurd cell missing⟩
  · rcases good.columnAt_eq_missing small cell with ⟨error, outside, missed⟩
    rw [missed] at address
    refine ⟨⟨?_, fun there => absurd there cell⟩, ⟨?_, fun there => absurd there cell⟩,
      fun _ => ⟨error, outside, missed, address⟩⟩
    · rintro ⟨text, found⟩
      rw [missed] at found
      cases found
    · rintro ⟨found, given⟩
      rw [address] at given
      cases given

/-! ## A live container -/

/-- A row of the columns `S` and `x`, its text at 108 and its table of starts at 104 octets
from the base 4096. -/
def livingRow : RowHeader where
  textWord := 4204
  startsWord := 4200
  length := 4
  columns := 2
  modeFlag := 0
  reserved := 0

/-- A container with that row as its only head row. -/
def livingHeader : ContainerHeader where
  magic := containerMagic
  layoutVersion := MappedTables.layoutVersion
  modeFlag := 0
  reserved := 0
  head := { arrayWord := 4176, length := 1, capacity := 1, modeFlag := 0, reserved := 0 }
  data := { arrayWord := 4200, length := 0, capacity := 0, modeFlag := 0, reserved := 0 }
  capacity := 112
  versionWord := 4096

def livingBytes : Bytes :=
  (StoredHeader.encode livingHeader ++ StoredHeader.encode livingRow ++
    [0, 0, 2, 0, 83, 0, 120, 0]).toArray

def livingContainer : Container where
  span := { base := 4096, bytes := livingBytes }
  header := livingHeader
  mode := .live

theorem validate_exact_living :
    ofSpan { base := 4096, bytes := livingBytes } = .ok livingContainer ∧
      livingContainer.validate = .ok () ∧
      (livingContainer.validate = .ok () <-> livingContainer.WellFormed) ∧
      ((exists text, livingContainer.columnAt .head 1 2 = .ok text) <->
        livingContainer.HasCell .head 1 2) ∧
      (¬ livingContainer.HasCell .head 1 3 -> exists error : Error, error.kind = .outOfBounds ∧
        livingContainer.columnAt .head 1 3 = .error (.error error) ∧
        livingContainer.columnAddressAt .head 1 3 = .error (.error error)) := by
  have opened : ofSpan { base := 4096, bytes := livingBytes } = .ok livingContainer := by
    decide +kernel
  have valid : livingContainer.validate = .ok () := by decide +kernel
  rcases validate_exact 4096 livingBytes opened with ⟨exact, total⟩
  rcases total valid with ⟨_, cells⟩
  exact ⟨opened, valid, exact, (cells .head 1 2).1, (cells .head 1 3).2.2⟩

end Container
end MappedTables
