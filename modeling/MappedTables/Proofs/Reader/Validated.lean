import MappedTables.Proofs.Reader.Found
import MappedTables.Proofs.Reader.Stops

namespace MappedTables

/-!
What validation establishes.

A row that passes its check can be read as a whole: its text, all its column
starts, and therefore the start of each of its columns, which is the entry of
the table of starts with the column's number.  The starts are in order and none
lies behind the text.  A container passes exactly if every row of its tables
can be read and passes.
-/

theorem Bytes.slice_slice (bytes : Bytes) (offset length inner part : Nat)
    (inside : inner + part <= length) :
    (bytes.slice offset length).slice inner part = bytes.slice (offset + inner) part := by
  unfold Bytes.slice
  rw [Array.extract_extract, Nat.min_eq_left (by omega), Nat.add_assoc]

/-- A field of a slice is a field of the whole. -/
theorem Bytes.field_slice (bytes : Bytes) (offset length inner width : Nat)
    (inside : inner + width <= length) :
    (bytes.slice offset length).field inner width = bytes.field (offset + inner) width := by
  unfold Bytes.field
  rw [Bytes.slice_slice bytes offset length inner width inside]

theorem Span.slice_eq_ok_iff (span : Span) (offset length : Nat) (octets : Bytes) :
    span.slice offset length = .ok octets <->
      offset + length < addressLimit ∧ offset + length <= span.size ∧
        octets = span.bytes.slice offset length := by
  rw [Span.slice, Outcome.bind_eq_ok_iff]
  constructor
  · rintro ⟨_, checked, same⟩
    rcases (span.checkRange_eq_ok_iff offset length).mp checked with ⟨room, inside⟩
    cases same
    exact ⟨room, inside, rfl⟩
  · rintro ⟨room, inside, same⟩
    exact ⟨(), (span.checkRange_eq_ok_iff offset length).mpr ⟨room, inside⟩, same ▸ rfl⟩

namespace Row

/-- The starts and the text of a row that passes its check. -/
structure Sound (row : Row) (starts : List Nat) (octets : Bytes) : Prop where
  starts_eq : row.columnStarts = .ok starts
  text_eq : row.text = .ok octets
  ordered : starts.Pairwise (· <= ·)
  bounded : forall start, start ∈ starts -> start <= row.length

theorem checkStarts_eq_ok_iff (length column previous : Nat) (starts : List Nat) :
    checkStarts length column previous starts = .ok () <->
      (previous :: starts).Pairwise (· <= ·) ∧
        forall start, start ∈ starts -> start <= length := by
  induction starts generalizing column previous with
  | nil => simp [checkStarts]
  | cons start rest ih =>
      rw [checkStarts]
      by_cases disordered : start < previous ∨ length < start
      · rw [if_pos disordered]
        constructor
        · intro accepted
          cases accepted
        · rintro ⟨ordered, bounded⟩
          have after := (List.pairwise_cons.mp ordered).1 start List.mem_cons_self
          have within := bounded start List.mem_cons_self
          omega
      · rw [if_neg disordered, ih]
        rw [not_or, Nat.not_lt, Nat.not_lt] at disordered
        constructor
        · rintro ⟨ordered, bounded⟩
          have later := (List.pairwise_cons.mp ordered).1
          refine ⟨List.pairwise_cons.mpr ⟨?_, ordered⟩, ?_⟩
          · intro other member
            rcases List.mem_cons.mp member with same | member
            · exact same ▸ disordered.1
            · exact Nat.le_trans disordered.1 (later other member)
          · intro other member
            rcases List.mem_cons.mp member with same | member
            · exact same ▸ disordered.2
            · exact bounded other member
        · rintro ⟨ordered, bounded⟩
          exact ⟨(List.pairwise_cons.mp ordered).2,
            fun other member => bounded other (List.mem_cons_of_mem _ member)⟩

theorem validate_eq_ok_iff (row : Row) :
    row.validate = .ok () <-> exists starts octets, row.Sound starts octets := by
  rw [validate, Outcome.bind_eq_ok_iff]
  constructor
  · rintro ⟨starts, read, rest⟩
    rcases Outcome.bind_eq_ok_iff.mp rest with ⟨_, checked, rest⟩
    rcases Outcome.bind_eq_ok_iff.mp rest with ⟨octets, text, _⟩
    rcases (checkStarts_eq_ok_iff row.length 1 0 starts).mp checked with ⟨ordered, bounded⟩
    exact ⟨starts, octets, read, text, (List.pairwise_cons.mp ordered).2, bounded⟩
  · rintro ⟨starts, octets, sound⟩
    have ordered := List.pairwise_cons.mpr
      ⟨fun start _ => Nat.zero_le start, sound.ordered⟩
    have checked := (checkStarts_eq_ok_iff row.length 1 0 starts).mpr ⟨ordered, sound.bounded⟩
    refine ⟨starts, sound.starts_eq, ?_⟩
    rw [checked, Outcome.ok_bind, sound.text_eq]
    rfl

variable {row : Row} {starts : List Nat} {octets : Bytes}

/-- The table of starts of a sound row with columns, as it stands in memory. -/
theorem Sound.exists_table (sound : row.Sound starts octets) (columns : row.header.columns ≠ 0) :
    exists reference place, row.header.startsReference = .ok (some reference) ∧
      reference.offsetFrom row.span.base = .ok place ∧
      place.toNat + 2 * row.columnCount < addressLimit ∧
      place.toNat + 2 * row.columnCount <= row.span.size ∧
      starts = (List.range row.columnCount).map fun index =>
        startEntry (row.span.bytes.slice place.toNat (2 * row.columnCount)) index := by
  have read := sound.starts_eq
  rw [columnStarts] at read
  rcases Outcome.bind_eq_ok_iff.mp read with ⟨found, present, rest⟩
  cases found with
  | none =>
      rw [RowHeader.startsReference, if_neg columns] at present
      rcases Outcome.bind_eq_ok_iff.mp present with ⟨mode, _, impossible⟩
      cases impossible
  | some reference =>
      rcases Outcome.bind_eq_ok_iff.mp rest with ⟨table, resolved, same⟩
      rcases Outcome.bind_eq_ok_iff.mp resolved with ⟨place, offset, sliced⟩
      rcases (row.span.slice_eq_ok_iff _ _ table).mp sliced with ⟨room, inside, rfl⟩
      cases same
      exact ⟨reference, place, present, offset, room, inside, rfl⟩

/-- Each column of a sound row starts where its entry says. -/
theorem Sound.columnStart_eq (sound : row.Sound starts octets) {column : UInt16}
    (nonzero : column ≠ 0) (within : column <= row.header.columns) :
    exists start, starts[column.toNat - 1]? = some start ∧
      row.columnStart column = .ok start := by
  have positive : column.toNat ≠ 0 := fun zero => nonzero (UInt16.toNat_inj.mp zero)
  have few : column.toNat <= row.columnCount := UInt16.le_iff_toNat_le.mp within
  have columns : row.header.columns ≠ 0 := by
    intro none
    rw [columnCount, none] at few
    exact positive (Nat.le_zero.mp few)
  rcases sound.exists_table columns with ⟨reference, place, found, offset, room, inside, entries⟩
  have present : ¬ (column = 0 ∨ row.header.columns < column) := by
    rw [not_or, UInt16.not_lt]
    exact ⟨nonzero, within⟩
  have reach : ¬ addressLimit <= place.toNat + 2 * (column.toNat - 1) := by omega
  have entry : starts[column.toNat - 1]? = some
      (startEntry (row.span.bytes.slice place.toNat (2 * row.columnCount))
        (column.toNat - 1)) := by
    rw [entries, List.getElem?_map, List.getElem?_range (by omega)]
    rfl
  have bounded := sound.bounded _ (List.mem_of_getElem? entry)
  refine ⟨_, entry, ?_⟩
  have pair : row.span.slice (place.toNat + 2 * (column.toNat - 1)) 2 =
      .ok (row.span.bytes.slice (place.toNat + 2 * (column.toNat - 1)) 2) :=
    (row.span.slice_eq_ok_iff _ _ _).mpr ⟨by omega, by omega, rfl⟩
  have same : startEntry (row.span.bytes.slice (place.toNat + 2 * (column.toNat - 1)) 2) 0 =
      startEntry (row.span.bytes.slice place.toNat (2 * row.columnCount))
        (column.toNat - 1) := by
    unfold startEntry
    rw [Bytes.field_slice _ _ _ _ _ (by omega), Bytes.field_slice _ _ _ _ _ (by omega)]
    rfl
  rw [columnStart_of_table present found offset, if_neg reach, startAt, pair, Outcome.ok_bind,
    same, if_neg (Nat.not_lt.mpr bounded)]
  rfl

/-- No entry of a sound row is out of reach. -/
theorem Sound.not_overflows (sound : row.Sound starts octets) (column : UInt16) :
    ¬ row.Overflows column := by
  intro overflows
  have stopped := (row.columnStart_stops_iff column .overflow).mpr ⟨rfl, overflows⟩
  rcases sound.columnStart_eq overflows.1 overflows.2.1 with ⟨start, _, read⟩
  rw [read] at stopped
  cases stopped

end Row

/-! ## Tables and containers -/

theorem Table.validateFrom_eq_ok_iff (table : Table) (count start : Nat) :
    table.validateFrom count start = .ok () <->
      forall index, start <= index -> index < start + count ->
        exists row, table.rowAt index = .ok row ∧ row.validate = .ok () := by
  induction count generalizing start with
  | zero =>
      constructor
      · intro _ index low high
        omega
      · intro _
        rfl
  | succ count ih =>
      rw [validateFrom, Outcome.bind_eq_ok_iff]
      constructor
      · rintro ⟨row, read, rest⟩ index low high
        rcases Outcome.bind_eq_ok_iff.mp rest with ⟨_, valid, others⟩
        rcases Nat.eq_or_lt_of_le low with same | later
        · exact ⟨row, same ▸ read, valid⟩
        · exact (ih (start + 1)).mp others index later (by omega)
      · intro each
        rcases each start (Nat.le_refl start) (by omega) with ⟨row, read, valid⟩
        refine ⟨row, read, ?_⟩
        rw [valid, Outcome.ok_bind]
        exact (ih (start + 1)).mpr fun index low high => each index (by omega) (by omega)

theorem Table.validate_eq_ok_iff (table : Table) :
    table.validate = .ok () <->
      forall index, index < table.length ->
        exists row, table.rowAt index = .ok row ∧ row.validate = .ok () := by
  rw [validate, validateFrom_eq_ok_iff]
  constructor
  · intro each index below
    exact each index (Nat.zero_le index) (by omega)
  · intro each index _ below
    exact each index (by omega)

namespace Container

theorem validate_eq_ok_iff (container : Container) :
    container.validate = .ok () <->
      forall kind, exists table, container.table kind = .ok table ∧ table.validate = .ok () := by
  rw [validate, Outcome.bind_eq_ok_iff]
  constructor
  · rintro ⟨head, headRead, rest⟩ kind
    rcases Outcome.bind_eq_ok_iff.mp rest with ⟨_, headValid, rest⟩
    rcases Outcome.bind_eq_ok_iff.mp rest with ⟨data, dataRead, dataValid⟩
    cases kind with
    | head => exact ⟨head, headRead, headValid⟩
    | data => exact ⟨data, dataRead, dataValid⟩
  · intro each
    rcases each .head with ⟨head, headRead, headValid⟩
    rcases each .data with ⟨data, dataRead, dataValid⟩
    refine ⟨head, headRead, ?_⟩
    rw [headValid, Outcome.ok_bind, dataRead]
    exact dataValid

/-- Every row that can be read from a container that passes is sound. -/
theorem sound_of_validate {container : Container} (valid : container.validate = .ok ())
    {kind : TableKind} {table : Table} {index : Nat} {row : Row}
    (found : container.table kind = .ok table) (read : table.rowAt index = .ok row) :
    exists starts octets, row.Sound starts octets := by
  rcases container.validate_eq_ok_iff.mp valid kind with ⟨other, same, passes⟩
  rw [found] at same
  cases same
  rcases table.validate_eq_ok_iff.mp passes index (Table.lt_length_of_rowAt read) with
    ⟨again, alike, sound⟩
  rw [read] at alike
  cases alike
  exact row.validate_eq_ok_iff.mp sound

end Container
end MappedTables
