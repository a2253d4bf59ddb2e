import MappedTables.Proofs.Draft.Admission
import MappedTables.Proofs.Octets
import MappedTables.Proofs.Outcome
import MappedTables.Row

namespace MappedTables

/-!
Reading a row that stands in memory.

A row is found again if its two references lead to its table of starts and to
its text, wherever that is and however the references are stored.  Under this
condition alone every column is read back at its place, a column that the row
does not have is reported as such, and the row is well formed.
-/

namespace DraftRow

/-- The table of starts of a row with the given columns. -/
def startsOctets (columns : List Bytes) : List UInt8 :=
  (startsFrom 0 columns).flatMap (LittleEndian.encode 2)

@[simp] theorem length_startsOctets (columns : List Bytes) :
    (startsOctets columns).length = 2 * columns.length := by
  rw [startsOctets, length_flatMap_of_length (LittleEndian.length_encode 2), length_startsFrom]

end DraftRow

namespace Row

/-- The row's references lead to the starts and the text of the given columns. -/
structure Holds (row : Row) (columns : List Bytes) (startsPlace : Nat) : Prop where
  admissible : DraftRow.Admissible columns
  room : row.span.size < addressLimit
  length_eq : row.length = (DraftRow.textOf columns).length
  columnCount_eq : row.columnCount = columns.length
  starts : columns ≠ [] -> exists reference,
    row.header.startsReference = .ok (some reference) ∧
      reference.offsetFrom row.span.base = .ok (UInt64.ofNat startsPlace)
  text : exists reference,
    row.header.textReference = .ok reference ∧
      reference.offsetFrom row.span.base =
        .ok (UInt64.ofNat (startsPlace + 2 * columns.length)) ∧
      reference.address row.span.base =
        addressAt row.span.base (UInt64.ofNat (startsPlace + 2 * columns.length))
  memory : exists front back : List UInt8, front.length = startsPlace ∧
    row.span.bytes =
      (front ++ DraftRow.startsOctets columns ++ DraftRow.textOf columns ++ back).toArray

variable {row : Row} {columns : List Bytes} {startsPlace : Nat}

theorem Holds.startsPlace_lt (holds : row.Holds columns startsPlace) :
    startsPlace + 2 * columns.length + (DraftRow.textOf columns).length <= row.span.size := by
  rcases holds.memory with ⟨front, back, place, bytes⟩
  simp only [Span.size, bytes, List.size_toArray, List.length_append,
    DraftRow.length_startsOctets]
  omega

/-- The whole text is read. -/
theorem Holds.text_eq (holds : row.Holds columns startsPlace) :
    row.text = .ok (DraftRow.textOf columns).toArray := by
  rcases holds.text with ⟨reference, read, offset, _⟩
  rcases holds.memory with ⟨front, back, place, bytes⟩
  have before : startsPlace + 2 * columns.length =
      (front ++ DraftRow.startsOctets columns).length := by
    rw [List.length_append, DraftRow.length_startsOctets, place]
  rw [before] at offset
  rw [Row.text, read, Outcome.ok_bind, holds.length_eq]
  exact Span.resolve_part bytes holds.room offset

theorem Holds.textAddress_eq (holds : row.Holds columns startsPlace) :
    row.textAddress =
      .ok (addressAt row.span.base (UInt64.ofNat (startsPlace + 2 * columns.length))) := by
  rcases holds.text with ⟨reference, read, _, address⟩
  rw [textAddress, read, Outcome.ok_bind, address]
  rfl

/-- The entry of the table of starts that belongs to a column. -/
theorem Holds.slice_entry (holds : row.Holds columns startsPlace)
    (before after : List Bytes) (column : Bytes)
    (columns_eq : columns = before ++ column :: after) :
    row.span.slice (startsPlace + 2 * before.length) 2 =
      .ok (LittleEndian.encode 2 (DraftRow.textOf before).length).toArray := by
  rcases holds.memory with ⟨front, back, place, bytes⟩
  let entries := (DraftRow.startsFrom 0 before).flatMap (LittleEndian.encode 2)
  let entry := LittleEndian.encode 2 (DraftRow.textOf before).length
  let later := (DraftRow.startsFrom ((DraftRow.textOf before).length + column.size + 1)
    after).flatMap (LittleEndian.encode 2)
  have table : DraftRow.startsOctets columns = entries ++ entry ++ later := by
    rw [DraftRow.startsOctets, columns_eq, DraftRow.startsFrom_append, List.flatMap_append,
      DraftRow.startsFrom, List.flatMap_cons, Nat.zero_add, List.append_assoc]
  have entriesSize : entries.length = 2 * before.length := by
    rw [length_flatMap_of_length (LittleEndian.length_encode 2), DraftRow.length_startsFrom]
  have parts : row.span.bytes =
      ((front ++ entries) ++ entry ++ (later ++ DraftRow.textOf columns ++ back)).toArray := by
    rw [bytes, table]
    simp only [List.append_assoc]
  have read := Span.slice_part parts holds.room
  rw [List.length_append, place, entriesSize] at read
  rwa [show entry.length = 2 from LittleEndian.length_encode 2 _] at read

/-! ## Columns that the row has -/

/-- An entry is read as the number stored in it. -/
theorem startEntry_append (front back : List UInt8) (index value : Nat)
    (place : front.length = 2 * index) (bounded : value <= rowLimit) :
    startEntry (front ++ LittleEndian.encode 2 value ++ back).toArray index = value := by
  have small : value < 256 ^ 2 := Nat.lt_succ_of_le bounded
  rw [startEntry, <- place, Bytes.field_append, Nat.mod_eq_of_lt small]

/-- A column begins behind the columns before it. -/
theorem Holds.columnStart_eq (holds : row.Holds columns startsPlace) (number : UInt16)
    (before after : List Bytes) (column : Bytes)
    (columns_eq : columns = before ++ column :: after)
    (numbered : number.toNat = before.length + 1) :
    row.columnStart number = .ok (DraftRow.textOf before).length := by
  have count := holds.columnCount_eq
  have room := holds.room
  have inside := holds.startsPlace_lt
  have limit := holds.admissible.room
  have entry := holds.slice_entry before after column columns_eq
  have nonempty : columns ≠ [] := by simp [columns_eq]
  have longer : columns.length = before.length + 1 + after.length := by
    simp only [columns_eq, List.length_append, List.length_cons]
    omega
  have within : (DraftRow.textOf before).length <= (DraftRow.textOf columns).length := by
    rw [columns_eq, DraftRow.textOf_append, List.length_append]
    omega
  rcases holds.starts nonempty with ⟨reference, read, offset⟩
  have table : (UInt64.ofNat startsPlace).toNat = startsPlace := by
    rw [UInt64.toNat_ofNat', Nat.mod_eq_of_lt]
    unfold addressLimit at room
    omega
  have present : ¬ (number = 0 ∨ row.header.columns < number) := by
    rintro (zero | beyond)
    · rw [zero] at numbered
      simp at numbered
    · rw [UInt16.lt_iff_toNat_lt] at beyond
      simp only [columnCount] at count
      omega
  have short : ¬ addressLimit <= startsPlace + 2 * before.length := by omega
  have value := startEntry_append [] [] 0 (DraftRow.textOf before).length rfl (by omega)
  have fits : ¬ row.length < (DraftRow.textOf before).length := by
    rw [holds.length_eq]
    omega
  simp only [List.nil_append, List.append_nil] at value
  unfold columnStart
  simp only [present, if_false, read, offset, table, numbered, Nat.add_sub_cancel, short, entry,
    value, fits, Outcome.lift_ok, Outcome.ok_bind, Outcome.pure_eq_ok]

/-- What is left of a text from the start of a column on. -/
theorem tail_textOf (before after : List Bytes) (column : Bytes) :
    tail (DraftRow.textOf (before ++ column :: after)).toArray
        (DraftRow.textOf before).length =
      .ok (column.toList ++ columnTerminator :: DraftRow.textOf after).toArray := by
  have split : DraftRow.textOf (before ++ column :: after) =
      DraftRow.textOf before ++ (column.toList ++ columnTerminator :: DraftRow.textOf after) := by
    rw [DraftRow.textOf_append, DraftRow.textOf_cons]
    simp
  have within : (DraftRow.textOf before).length <=
      (DraftRow.textOf (before ++ column :: after)).toArray.size := by
    rw [split, List.size_toArray, List.length_append]
    omega
  rw [tail, if_pos within, split]
  simp [List.take_of_length_le]

/-- A column ends at its terminator. -/
theorem takeWhile_column {column : Bytes} (clean : columnTerminator ∉ column)
    (rest : List UInt8) :
    (column.toList ++ columnTerminator :: rest).toArray.takeWhile (· ≠ columnTerminator) =
      column := by
  have kept : forall octet, octet ∈ column.toList ->
      decide (octet ≠ columnTerminator) = true := by
    intro octet member
    rw [decide_eq_true_eq]
    intro same
    exact clean (same ▸ Array.mem_toList_iff.mp member)
  rw [List.takeWhile_toArray, List.takeWhile_append_of_pos kept]
  simp

/-- Where a column that the row has stands in memory. -/
theorem Holds.column_stands (holds : row.Holds columns startsPlace)
    (before after : List Bytes) (column : Bytes)
    (columns_eq : columns = before ++ column :: after) :
    exists front back : List UInt8,
      front.length = startsPlace + 2 * columns.length + (DraftRow.textOf before).length ∧
      row.span.bytes = (front ++ column.toList ++ columnTerminator :: back).toArray := by
  rcases holds.memory with ⟨front, back, place, bytes⟩
  refine ⟨front ++ DraftRow.startsOctets columns ++ DraftRow.textOf before,
    DraftRow.textOf after ++ back, ?_, ?_⟩
  · simp only [List.length_append, DraftRow.length_startsOctets, place]
  · rw [bytes, columns_eq, DraftRow.textOf_append, DraftRow.textOf_cons]
    simp

/-- A column that the row has is read back, and so is its address. -/
theorem Holds.column_eq (holds : row.Holds columns startsPlace) (number : UInt16)
    (before after : List Bytes) (column : Bytes)
    (columns_eq : columns = before ++ column :: after)
    (numbered : number.toNat = before.length + 1) :
    let address := addressAt row.span.base
      (UInt64.ofNat (startsPlace + 2 * columns.length + (DraftRow.textOf before).length))
    row.column number = .ok { address, octets := column } ∧
      row.columnAddress number = .ok address := by
  intro address
  have clean := holds.admissible.clean column (by simp [columns_eq])
  have start := holds.columnStart_eq number before after column columns_eq numbered
  have left := tail_textOf before after column
  have sum : addressAt row.span.base (UInt64.ofNat (startsPlace + 2 * columns.length)) +
      UInt64.ofNat (DraftRow.textOf before).length = address := by
    simp only [address, addressAt, UInt64.ofNat_add, UInt64.add_assoc]
  rw [<- columns_eq] at left
  constructor
  · unfold Row.column
    simp only [start, holds.text_eq, left, holds.textAddress_eq, takeWhile_column clean, sum,
      Outcome.lift_ok, Outcome.liftAbort_ok, Outcome.ok_bind, Outcome.pure_eq_ok]
  · unfold columnAddress
    simp only [start, holds.text_eq, left, holds.textAddress_eq, sum, Outcome.lift_ok,
      Outcome.liftAbort_ok, Outcome.ok_bind, Outcome.pure_eq_ok]

/-! ## Columns that the row does not have -/

/-- A column that the row does not have is reported as out of bounds. -/
theorem Holds.column_missing (holds : row.Holds columns startsPlace) (number : UInt16)
    (missing : number = 0 ∨ columns.length < number.toNat) :
    let report := Fault.error (.outOfBounds .column number.toNat columns.length)
    row.column number = .error report ∧ row.columnAddress number = .error report := by
  intro report
  have count := holds.columnCount_eq
  have absent : number = 0 ∨ row.header.columns < number := by
    refine missing.imp_right fun beyond => ?_
    rw [UInt16.lt_iff_toNat_lt]
    exact Nat.lt_of_le_of_lt (Nat.le_of_eq count) beyond
  have start : row.columnStart number = .error report := by
    unfold columnStart
    simp only [absent, if_true, count]
    rfl
  constructor
  · rw [Row.column, start]
    rfl
  · rw [columnAddress, start]
    rfl

/-! ## Validity -/

/-- A table of numbers is read entry by entry. -/
theorem startEntries_eq (values : List Nat) (bounded : forall value, value ∈ values ->
      value <= rowLimit) :
    (List.range values.length).map
        (startEntry (values.flatMap (LittleEndian.encode 2)).toArray) = values := by
  apply List.ext_getElem
  · simp
  · intro index _ inside
    have split : values = values.take index ++ values[index] :: values.drop (index + 1) := by
      rw [List.getElem_cons_drop, List.take_append_drop]
    have table : values.flatMap (LittleEndian.encode 2) =
        (values.take index).flatMap (LittleEndian.encode 2) ++
          LittleEndian.encode 2 values[index] ++
          (values.drop (index + 1)).flatMap (LittleEndian.encode 2) := by
      conv => lhs; rw [split]
      rw [List.flatMap_append, List.flatMap_cons, List.append_assoc]
    have place : ((values.take index).flatMap (LittleEndian.encode 2)).length = 2 * index := by
      rw [length_flatMap_of_length (LittleEndian.length_encode 2),
        List.length_take_of_le (Nat.le_of_lt inside)]
    rw [List.getElem_map, List.getElem_range, table]
    exact startEntry_append _ _ index _ place (bounded _ (List.getElem_mem inside))

/-- Column starts lie within the text. -/
theorem le_of_mem_startsFrom (start : Nat) (columns : List Bytes) (value : Nat)
    (member : value ∈ DraftRow.startsFrom start columns) :
    start <= value ∧ value <= start + (DraftRow.textOf columns).length := by
  have bounds := DraftRow.bounds_of_mem_startsFrom member
  exact ⟨bounds.1, Nat.le_of_lt bounds.2⟩

/-- All column starts are read. -/
theorem Holds.columnStarts_eq (holds : row.Holds columns startsPlace) :
    row.columnStarts = .ok (DraftRow.startsFrom 0 columns) := by
  have count := holds.columnCount_eq
  by_cases columnless : columns = []
  · have none : row.header.columns = 0 := by
      apply UInt16.toNat_inj.mp
      rw [columnless] at count
      exact count
    have absent : row.header.startsReference = .ok Option.none := by
      rw [RowHeader.startsReference, if_pos none]
    rw [columnStarts, absent, columnless]
    rfl
  · rcases holds.starts columnless with ⟨reference, read, offset⟩
    rcases holds.memory with ⟨front, back, place, bytes⟩
    have parts : row.span.bytes =
        (front ++ DraftRow.startsOctets columns ++ (DraftRow.textOf columns ++ back)).toArray := by
      rw [bytes, List.append_assoc _ _ back]
    have table := Span.resolve_part parts holds.room (place.symm ▸ offset)
    have limit := holds.admissible.room
    have entries := startEntries_eq (DraftRow.startsFrom 0 columns) fun value member => by
      have bounds := le_of_mem_startsFrom 0 columns value member
      omega
    rw [DraftRow.length_startsOctets] at table
    rw [DraftRow.length_startsFrom] at entries
    rw [columnStarts, read, Outcome.ok_bind]
    change (row.span.resolve reference (2 * row.columnCount) >>= _) = _
    rw [count, table, Outcome.ok_bind]
    exact congrArg Except.ok entries

theorem checkStarts_startsFrom (length number previous start : Nat) (columns : List Bytes)
    (ordered : previous <= start)
    (inside : start + (DraftRow.textOf columns).length <= length) :
    checkStarts length number previous (DraftRow.startsFrom start columns) = .ok () := by
  induction columns generalizing number previous start with
  | nil => rfl
  | cons column rest ih =>
      simp only [DraftRow.textOf_cons, List.length_append, List.length_cons, List.length_nil,
        Array.length_toList] at inside
      have accepted : ¬ (start < previous ∨ length < start) := by omega
      rw [DraftRow.startsFrom, checkStarts, if_neg accepted]
      exact ih _ _ _ (by omega) (by omega)

/-- The row is well formed. -/
theorem Holds.validate_eq (holds : row.Holds columns startsPlace) : row.validate = .ok () := by
  have ordered := checkStarts_startsFrom row.length 1 0 0 columns (Nat.le_refl 0)
    (by simp [holds.length_eq])
  rw [validate, holds.columnStarts_eq, Outcome.ok_bind, ordered, Outcome.ok_bind, holds.text_eq]
  rfl

end Row
end MappedTables
