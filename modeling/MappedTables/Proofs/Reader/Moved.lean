import MappedTables.Proofs.Reader.Terminated
import MappedTables.Proofs.StoredHeader

namespace MappedTables

/-!
Containers at another address.

The same octets can stand anywhere.  As long as a container is relocatable and
its address keeps its distance from the multiples of eight, what is read from it
does not depend on where it stands: a reference is a distance, and the only
other use of the base is the check of alignment.
-/

/-- The same octets at another address. -/
def Span.movedTo (span : Span) (base : UInt64) : Span :=
  { span with base }

/-- The same row in a container at another address. -/
def Row.movedTo (row : Row) (base : UInt64) : Row :=
  { row with span := row.span.movedTo base }

/-- The same table in a container at another address. -/
def Table.movedTo (table : Table) (base : UInt64) : Table :=
  { table with span := table.span.movedTo base }

/-- The same container at another address. -/
def Container.movedTo (container : Container) (base : UInt64) : Container :=
  { container with span := container.span.movedTo base }

/-- Both addresses are at the same distance from the multiples of the header alignment. -/
def AlignedAlike (left right : UInt64) : Prop :=
  left.toNat % headerAlignment = right.toNat % headerAlignment

instance (left right : UInt64) : Decidable (AlignedAlike left right) :=
  inferInstanceAs (Decidable (_ = _))

/-- A header is refused for its alignment at both addresses or at neither. -/
theorem Span.headerAt_movedTo (span : Span) {base : UInt64}
    (aligned : AlignedAlike span.base base) (Header : Type) [StoredHeader Header]
    (offset : Nat) :
    (span.movedTo base).headerAt Header offset = span.headerAt Header offset := by
  have same : (base.toNat + offset) % headerAlignment =
      (span.base.toNat + offset) % headerAlignment := by
    rw [Nat.add_mod, <- aligned, <- Nat.add_mod]
  unfold headerAt checkHeader movedTo
  simp only [same]
  rfl

/-! ## Rows -/

namespace RowHeader

theorem textReference_of_mode {header : RowHeader} (mode : header.mode = .ok .relocatable) :
    header.textReference = .ok (.relocatable header.textWord) := by
  rw [textReference, mode]
  rfl

theorem startsReference_of_mode {header : RowHeader} (mode : header.mode = .ok .relocatable) :
    header.startsReference =
      .ok (if header.columns = 0 then none else some (.relocatable header.startsWord)) := by
  rw [startsReference, mode]
  by_cases none : header.columns = 0
  · rw [if_pos none, if_pos none]
  · rw [if_neg none, if_neg none]
    rfl

end RowHeader

namespace Row

variable {row : Row} (mode : row.header.mode = .ok .relocatable) (base : UInt64)
include mode

/-- The text of a relocatable row is found by its distance from the base. -/
theorem text_movedTo : (row.movedTo base).text = row.text := by
  unfold text movedTo
  rw [RowHeader.textReference_of_mode mode]
  rfl

theorem columnStarts_movedTo : (row.movedTo base).columnStarts = row.columnStarts := by
  unfold columnStarts movedTo
  rw [RowHeader.startsReference_of_mode mode]
  by_cases none : row.header.columns = 0
  · rw [if_pos none]
    rfl
  · rw [if_neg none]
    rfl

theorem columnStart_movedTo (column : UInt16) :
    (row.movedTo base).columnStart column = row.columnStart column := by
  unfold columnStart movedTo
  rw [RowHeader.startsReference_of_mode mode]
  by_cases none : row.header.columns = 0
  · rw [if_pos none]
    rfl
  · rw [if_neg none]
    rfl

theorem validate_movedTo : (row.movedTo base).validate = row.validate := by
  unfold validate
  rw [columnStarts_movedTo mode, text_movedTo mode]
  rfl

theorem closedAt_movedTo (column : UInt16) :
    (row.movedTo base).ClosedAt column <-> row.ClosedAt column := by
  have offset : forall reference, row.header.textReference = .ok reference ->
      reference.offsetFrom base = reference.offsetFrom row.span.base := by
    intro reference present
    rw [RowHeader.textReference_of_mode mode] at present
    cases present
    rfl
  constructor
  · rintro ⟨start, reference, place, position, found, present, placed, rest⟩
    rw [columnStart_movedTo mode] at found
    refine ⟨start, reference, place, position, found, present, ?_, rest⟩
    rw [<- offset reference present]
    exact placed
  · rintro ⟨start, reference, place, position, found, present, placed, rest⟩
    rw [<- columnStart_movedTo mode base] at found
    rw [<- offset reference present] at placed
    exact ⟨start, reference, place, position, found, present, placed, rest⟩

theorem closed_movedTo : (row.movedTo base).Closed <-> row.Closed := by
  unfold Closed
  rw [<- closedAt_movedTo mode base]
  rfl

end Row

/-! ## Tables -/

namespace Table

/-- A row of a relocatable table is relocatable. -/
theorem mode_of_rowAt {table : Table} {index : Nat} {row : Row}
    (mode : table.mode = .relocatable) (read : table.rowAt index = .ok row) :
    row.header.mode = .ok .relocatable := by
  rcases (rowAt_eq_ok_iff.mp read).2 with ⟨_, _, header, _, _, _, _, recorded, same⟩
  rw [same, <- mode]
  exact recorded

theorem rowAt_movedTo {table : Table} (recorded : table.header.mode = .ok .relocatable)
    {base : UInt64} (aligned : AlignedAlike table.span.base base) (index : Nat) :
    (table.movedTo base).rowAt index = (table.rowAt index).map (·.movedTo base) := by
  have array : table.header.arrayReference = .ok (.relocatable table.header.arrayWord) := by
    rw [TableHeader.arrayReference, recorded]
    rfl
  unfold rowAt
  have place : (table.movedTo base).header.arrayReference =
      .ok (.relocatable table.header.arrayWord) := array
  by_cases beyond : table.length <= index
  · have beyond' : (table.movedTo base).length <= index := beyond
    simp only [beyond, beyond', if_true, Outcome.throw_eq_error, Outcome.error_bind]
    rfl
  · have beyond' : ¬ (table.movedTo base).length <= index := beyond
    have stored := table.span.headerAt_movedTo aligned RowHeader
    simp only [beyond, beyond', if_false, array, place, Outcome.ok_bind,
      Reference.offsetFrom]
    by_cases overflows : addressLimit <= table.header.arrayWord.toNat + index * rowSlotSize
    · simp only [overflows, if_true, Outcome.throw_eq_error, Outcome.error_bind]
      rfl
    · simp only [overflows, if_false, movedTo, stored]
      cases table.span.headerAt RowHeader
          (table.header.arrayWord.toNat + index * rowSlotSize) with
      | error refusal => rfl
      | ok header =>
          simp only [Outcome.ok_bind, Row.ofHeader]
          cases header.mode with
          | error refusal => rfl
          | ok mode =>
              by_cases other : mode ≠ table.mode
              · simp only [Outcome.ok_bind, other, if_true, not_false_eq_true, ne_eq]
                rfl
              · simp only [Outcome.ok_bind, other, if_false, ne_eq]
                rfl

theorem validateFrom_movedTo {table : Table} (mode : table.mode = .relocatable)
    (recorded : table.header.mode = .ok .relocatable) {base : UInt64}
    (aligned : AlignedAlike table.span.base base) (count start : Nat) :
    (table.movedTo base).validateFrom count start = table.validateFrom count start := by
  induction count generalizing start with
  | zero => rfl
  | succ count ih =>
      rw [validateFrom, validateFrom, rowAt_movedTo recorded aligned]
      cases read : table.rowAt start with
      | error refusal => rfl
      | ok row =>
          have row' := mode_of_rowAt mode read
          simp only [Except.map, Outcome.ok_bind, Row.validate_movedTo row', ih]

end Table

/-! ## Containers -/

namespace Container

theorem table_movedTo (container : Container) (base : UInt64) (kind : TableKind) :
    (container.movedTo base).table kind = (container.table kind).map (·.movedTo base) := by
  unfold table Table.ofHeader movedTo
  cases (container.header.table kind).mode with
  | error refusal => rfl
  | ok mode =>
      by_cases other : mode ≠ container.mode
      · simp only [Outcome.ok_bind, other, if_true, not_false_eq_true, ne_eq]
        rfl
      · simp only [Outcome.ok_bind, other, if_false, ne_eq]
        rfl

variable {container : Container} {base : UInt64}

theorem recorded_of_table (mode : container.mode = .relocatable) {kind : TableKind}
    {table : Table} (found : container.table kind = .ok table) :
    table.mode = .relocatable ∧ table.header.mode = .ok .relocatable := by
  rcases table_eq_ok_iff.mp found with ⟨recorded, same⟩
  rw [mode] at recorded
  rw [same]
  exact ⟨mode, recorded⟩

theorem validateTable_movedTo (mode : container.mode = .relocatable)
    (aligned : AlignedAlike container.base base) (kind : TableKind) :
    ((container.movedTo base).table kind >>= Table.validate) =
      (container.table kind >>= Table.validate) := by
  rw [table_movedTo]
  cases found : container.table kind with
  | error refusal => rfl
  | ok table =>
      rcases recorded_of_table mode found with ⟨tableMode, recorded⟩
      rw [Container.base, <- span_of_table found] at aligned
      exact Table.validateFrom_movedTo tableMode recorded aligned table.length 0

theorem validate_movedTo (mode : container.mode = .relocatable)
    (aligned : AlignedAlike container.base base) :
    (container.movedTo base).validate = container.validate := by
  have parts : forall whole : Container, whole.validate =
      ((whole.table .head >>= Table.validate) >>= fun _ =>
        (whole.table .data >>= Table.validate)) := by
    intro whole
    unfold validate
    cases whole.table .head with
    | error refusal => rfl
    | ok head => rfl
  rw [parts, parts, validateTable_movedTo mode aligned, validateTable_movedTo mode aligned]

/-- A row that is read at the other address was read at the first. -/
theorem exists_row_of_movedTo (mode : container.mode = .relocatable)
    (aligned : AlignedAlike container.base base) {kind : TableKind} {table : Table}
    {index : Nat} {row : Row} (found : (container.movedTo base).table kind = .ok table)
    (read : table.rowAt index = .ok row) :
    exists table' row', container.table kind = .ok table' ∧ table'.rowAt index = .ok row' ∧
      row'.header.mode = .ok .relocatable ∧ row = row'.movedTo base := by
  rw [table_movedTo] at found
  cases before : container.table kind with
  | error refusal =>
      rw [before] at found
      cases found
  | ok table' =>
      rw [before] at found
      cases found
      rcases recorded_of_table mode before with ⟨tableMode, recorded⟩
      rw [Container.base, <- span_of_table before] at aligned
      rw [Table.rowAt_movedTo recorded aligned] at read
      cases earlier : table'.rowAt index with
      | error refusal =>
          rw [earlier] at read
          cases read
      | ok row' =>
          rw [earlier] at read
          cases read
          exact ⟨table', row', rfl, earlier, Table.mode_of_rowAt tableMode earlier, rfl⟩

theorem closed_of_closed_movedTo (mode : container.mode = .relocatable)
    (aligned : AlignedAlike container.base base) (closed : container.Closed) :
    (container.movedTo base).Closed := by
  intro kind table index row found read
  rcases exists_row_of_movedTo mode aligned found read with
    ⟨table', row', found', read', rowMode, rfl⟩
  exact (Row.closed_movedTo rowMode base).mpr (closed kind table' index row' found' read')

theorem closed_movedTo (mode : container.mode = .relocatable)
    (aligned : AlignedAlike container.base base) :
    (container.movedTo base).Closed <-> container.Closed := by
  constructor
  · intro closed
    have back : ((container.movedTo base).movedTo container.base).Closed :=
      closed_of_closed_movedTo mode aligned.symm closed
    exact back
  · exact closed_of_closed_movedTo mode aligned

/-- Octets open at both addresses, as the same container, or are refused for the same reason. -/
theorem ofSpan_movedTo {span : Span} (aligned : AlignedAlike span.base base) :
    ofSpan (span.movedTo base) = (ofSpan span).map (·.movedTo base) := by
  unfold ofSpan
  have size : (span.movedTo base).size = span.size := rfl
  rw [size, span.headerAt_movedTo aligned]
  by_cases short : span.size < leastContainerSize
  · simp only [short, if_true, Outcome.throw_eq_error, Outcome.error_bind]
    rfl
  · simp only [short, if_false]
    cases span.headerAt ContainerHeader 0 with
    | error refusal => rfl
    | ok header =>
        simp only [Outcome.ok_bind]
        cases header.validate span.size with
        | error refusal => rfl
        | ok _ =>
            cases header.mode with
            | error refusal => rfl
            | ok mode => rfl

theorem ofRelocated_movedTo {span : Span} (aligned : AlignedAlike span.base base) :
    ofRelocated (span.movedTo base) = (ofRelocated span).map (·.movedTo base) := by
  rw [ofRelocated, ofRelocated, ofSpan_movedTo aligned]
  cases ofSpan span with
  | error refusal => rfl
  | ok container =>
      simp only [Except.map, Outcome.ok_bind]
      by_cases live : container.mode ≠ .relocatable
      · have live' : (container.movedTo base).mode ≠ .relocatable := live
        simp only [live, live', if_true, not_false_eq_true, ne_eq]
        rfl
      · have same : ¬ (container.movedTo base).mode ≠ .relocatable := live
        simp only [live, same, if_false]
        rfl

end Container

/-! ## What follows a container -/

namespace Span

theorem size_take (span : Span) {length : Nat} (inside : length <= span.size) :
    (span.take length).size = length := by
  unfold take size at *
  rw [Array.size_extract, Nat.min_eq_left inside, Nat.sub_zero]

theorem take_take (span : Span) (length : Nat) :
    (span.take length).take length = span.take length := by
  unfold take
  rw [Array.extract_extract, Nat.zero_add, Nat.zero_add, Nat.min_self]

/-- A header that lies in the part that was taken is read as in the whole. -/
theorem headerAt_take (span : Span) {Header : Type} [StoredHeader Header] {length : Nat}
    (inside : length <= span.size) (fits : StoredHeader.size Header <= length) :
    (span.take length).headerAt Header 0 = span.headerAt Header 0 := by
  have octets : (span.take length).bytes.slice 0 (StoredHeader.size Header) =
      span.bytes.slice 0 (StoredHeader.size Header) := by
    have nested := Bytes.slice_slice span.bytes 0 length 0 (StoredHeader.size Header) (by omega)
    unfold Bytes.slice at nested ⊢
    rw [Nat.zero_add] at nested
    exact nested
  have range : (span.take length).checkRange 0 (StoredHeader.size Header) =
      span.checkRange 0 (StoredHeader.size Header) := by
    have front : ¬ length < 0 + StoredHeader.size Header := by omega
    have whole : ¬ span.size < 0 + StoredHeader.size Header := by omega
    unfold checkRange
    rw [size_take span inside, if_neg front, if_neg whole]
  unfold headerAt checkHeader
  rw [octets, range]
  rfl

end Span

namespace Container

/-- What follows the recorded capacity makes no difference to a container. -/
theorem ofSpan_take {span : Span} {header : ContainerHeader} {container : Container}
    (stored : span.headerAt ContainerHeader 0 = .ok header)
    (accepted : header.validate span.size = .ok ()) (opened : ofSpan span = .ok container) :
    ofSpan (span.take header.capacity.toNat) = .ok container := by
  rcases ofSpan_eq_ok_iff.mp opened with ⟨_, same, mode, again, _, recorded, rfl⟩
  rw [stored] at again
  cases again
  rcases ContainerHeader.validate_eq_ok_iff.mp accepted with
    ⟨magic, layout, least, most, flag, head, data⟩
  have size : (span.take header.capacity.toNat).size = header.capacity.toNat :=
    span.size_take most
  apply ofSpan_eq_ok_iff.mpr
  refine ⟨by rw [size]; exact least, header, mode, ?_, ?_, recorded, ?_⟩
  · rw [span.headerAt_take most least]
    exact stored
  · rw [size]
    exact ContainerHeader.validate_eq_ok_iff.mpr
      ⟨magic, layout, least, Nat.le_refl _, flag, head, data⟩
  · rw [span.take_take]

theorem ofRelocated_take {span : Span} {header : ContainerHeader} {container : Container}
    (stored : span.headerAt ContainerHeader 0 = .ok header)
    (accepted : header.validate span.size = .ok ()) (opened : ofRelocated span = .ok container) :
    ofRelocated (span.take header.capacity.toNat) = .ok container := by
  rcases ofRelocated_eq_ok_iff.mp opened with ⟨viewed, relocatable⟩
  exact ofRelocated_eq_ok_iff.mpr ⟨ofSpan_take stored accepted viewed, relocatable⟩

end Container

/-- A span that opens stands at a multiple of the header alignment. -/
theorem aligned_of_ofRelocated {span : Span} {container : Container}
    (opened : Container.ofRelocated span = .ok container) :
    span.base.toNat % headerAlignment = 0 ∧ leastContainerSize <= span.size := by
  rcases Container.ofRelocated_eq_ok_iff.mp opened with ⟨viewed, _⟩
  rcases Container.ofSpan_eq_ok_iff.mp viewed with ⟨least, header, _, stored, _⟩
  rcases Outcome.bind_eq_ok_iff.mp stored with ⟨_, checked, _⟩
  exact ⟨((span.checkHeader_eq_ok_iff ContainerHeader 0).mp checked).2.2, least⟩

end MappedTables
