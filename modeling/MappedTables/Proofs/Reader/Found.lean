import MappedTables.Container
import MappedTables.Proofs.Outcome

namespace MappedTables

/-!
What the reader finds.

Each reading that succeeds comes down to the same few findings: a table whose
header is in the mode of the container, a row whose slot lies where the table's
array puts it and is in the mode of the table, and a column of that row.  The
statements of this module take a successful reading apart into its findings.
-/

theorem Row.ofHeader_eq_ok_iff {span : Span} {header : RowHeader} {expected : AddressMode}
    {row : Row} :
    Row.ofHeader span header expected = .ok row <->
      header.mode = .ok expected ∧ row = ⟨span, header⟩ := by
  rw [Row.ofHeader, Outcome.bind_eq_ok_iff]
  constructor
  · rintro ⟨mode, recorded, rest⟩
    by_cases same : mode = expected
    · rw [if_neg (fun different => different same)] at rest
      cases rest
      exact ⟨same ▸ recorded, rfl⟩
    · rw [if_pos same] at rest
      cases rest
  · rintro ⟨recorded, same⟩
    exact ⟨expected, recorded, by simp [same]⟩

/-- What reading a row from a table finds. -/
theorem Table.rowAt_eq_ok_iff {table : Table} {index : Nat} {row : Row} :
    table.rowAt index = .ok row <->
      index < table.length ∧ exists reference array header,
        table.header.arrayReference = .ok reference ∧
        reference.offsetFrom table.span.base = .ok array ∧
        array.toNat + index * rowSlotSize < addressLimit ∧
        table.span.headerAt RowHeader (array.toNat + index * rowSlotSize) = .ok header ∧
        header.mode = .ok table.mode ∧ row = ⟨table.span, header⟩ := by
  unfold rowAt
  by_cases beyond : table.length <= index
  · constructor
    · intro read
      simp only [beyond, if_true, Outcome.throw_eq_error, Outcome.error_bind] at read
      cases read
    · rintro ⟨below, _⟩
      omega
  · simp only [beyond, if_false, Outcome.bind_eq_ok_iff]
    constructor
    · rintro ⟨reference, present, array, offset, rest⟩
      by_cases overflows : addressLimit <= array.toNat + index * rowSlotSize
      · simp only [overflows, if_true, Outcome.throw_eq_error, Outcome.error_bind] at rest
        cases rest
      · simp only [overflows, if_false, Outcome.bind_eq_ok_iff] at rest
        rcases rest with ⟨header, stored, made⟩
        rcases Row.ofHeader_eq_ok_iff.mp made with ⟨mode, same⟩
        exact ⟨Nat.not_le.mp beyond, reference, array, header, present, offset,
          Nat.not_le.mp overflows, stored, mode, same⟩
    · rintro ⟨_, reference, array, header, present, offset, room, stored, mode, same⟩
      refine ⟨reference, present, array, offset, ?_⟩
      simp only [Nat.not_le.mpr room, if_false, stored, Outcome.ok_bind]
      exact Row.ofHeader_eq_ok_iff.mpr ⟨mode, same⟩

theorem Table.span_of_rowAt {table : Table} {index : Nat} {row : Row}
    (read : table.rowAt index = .ok row) : row.span = table.span := by
  rcases (Table.rowAt_eq_ok_iff.mp read).2 with ⟨_, _, _, _, _, _, _, _, same⟩
  rw [same]

/-- What an accepted header says. -/
theorem ContainerHeader.validate_eq_ok_iff {header : ContainerHeader} {spanSize : Nat} :
    header.validate spanSize = .ok () <->
      header.magic = containerMagic ∧ header.layoutVersion = MappedTables.layoutVersion ∧
        leastContainerSize <= header.capacity.toNat ∧ header.capacity.toNat <= spanSize ∧
        (exists mode, header.mode = .ok mode) ∧ header.head.validate "head" = .ok () ∧
        header.data.validate "data" = .ok () := by
  unfold validate
  by_cases magic : header.magic = containerMagic
  · by_cases layout : header.layoutVersion = MappedTables.layoutVersion
    · by_cases outside : header.capacity.toNat < leastContainerSize ∨
          spanSize < header.capacity.toNat
      · simp only [magic, layout, outside, ne_eq, not_true_eq_false, if_false, if_true,
          Outcome.throw_eq_error, Outcome.error_bind]
        constructor
        · intro accepted
          cases accepted
        · rintro ⟨_, _, low, high, _⟩
          omega
      · simp only [magic, layout, outside, ne_eq, not_true_eq_false, if_false,
          Outcome.bind_eq_ok_iff]
        rw [not_or, Nat.not_lt, Nat.not_lt] at outside
        constructor
        · rintro ⟨mode, recorded, _, head, data⟩
          exact ⟨trivial, trivial, outside.1, outside.2, ⟨mode, recorded⟩, head, data⟩
        · rintro ⟨_, _, _, _, ⟨mode, recorded⟩, head, data⟩
          exact ⟨mode, recorded, (), head, data⟩
    · simp only [magic, layout, ne_eq, not_true_eq_false, not_false_eq_true, if_false, if_true,
        Outcome.throw_eq_error, Outcome.error_bind]
      constructor
      · intro accepted
        cases accepted
      · rintro ⟨_, impossible, _⟩
        cases impossible
  · simp only [magic, ne_eq, not_false_eq_true, if_true, Outcome.throw_eq_error,
      Outcome.error_bind]
    constructor
    · intro accepted
      cases accepted
    · rintro ⟨impossible, _⟩
      cases impossible

/-- A row can be read only within the length of its table. -/
theorem Table.lt_length_of_rowAt {table : Table} {index : Nat} {row : Row}
    (read : table.rowAt index = .ok row) : index < table.length :=
  (Table.rowAt_eq_ok_iff.mp read).1

namespace Container

/-- What opening a span finds. -/
theorem ofSpan_eq_ok_iff {span : Span} {container : Container} :
    ofSpan span = .ok container <->
      leastContainerSize <= span.size ∧ exists header mode,
        span.headerAt ContainerHeader 0 = .ok header ∧
        header.validate span.size = .ok () ∧ header.mode = .ok mode ∧
        container = ⟨span.take header.capacity.toNat, header, mode⟩ := by
  unfold ofSpan
  by_cases short : span.size < leastContainerSize
  · simp only [short, if_true, Outcome.throw_eq_error, Outcome.error_bind]
    constructor
    · intro opened
      cases opened
    · rintro ⟨long, _⟩
      omega
  · simp only [short, if_false, Outcome.bind_eq_ok_iff]
    constructor
    · rintro ⟨header, stored, _, accepted, mode, recorded, same⟩
      exact ⟨Nat.not_lt.mp short, header, mode, stored, accepted, recorded,
        (Except.ok.inj same).symm⟩
    · rintro ⟨_, header, mode, stored, accepted, recorded, same⟩
      exact ⟨header, stored, (), accepted, mode, recorded, by rw [same]; rfl⟩

theorem ofRelocated_eq_ok_iff {span : Span} {container : Container} :
    ofRelocated span = .ok container <->
      ofSpan span = .ok container ∧ container.mode = .relocatable := by
  rw [ofRelocated, Outcome.bind_eq_ok_iff]
  constructor
  · rintro ⟨opened, viewed, rest⟩
    by_cases relocatable : opened.mode = .relocatable
    · rw [if_neg (fun other => other relocatable)] at rest
      cases rest
      exact ⟨viewed, relocatable⟩
    · rw [if_pos relocatable] at rest
      cases rest
  · rintro ⟨viewed, relocatable⟩
    refine ⟨container, viewed, ?_⟩
    rw [if_neg (fun other => other relocatable)]
    rfl

theorem table_eq_ok_iff {container : Container} {kind : TableKind} {table : Table} :
    container.table kind = .ok table <->
      (container.header.table kind).mode = .ok container.mode ∧
        table = ⟨container.span, container.header.table kind, container.mode⟩ := by
  rw [Container.table, Table.ofHeader, Outcome.bind_eq_ok_iff]
  constructor
  · rintro ⟨mode, recorded, rest⟩
    by_cases same : mode = container.mode
    · rw [if_neg (fun different => different same)] at rest
      cases rest
      exact ⟨same ▸ recorded, by rw [same]⟩
    · rw [if_pos same] at rest
      cases rest
  · rintro ⟨recorded, same⟩
    exact ⟨container.mode, recorded, by simp [same]⟩

theorem span_of_table {container : Container} {kind : TableKind} {table : Table}
    (found : container.table kind = .ok table) : table.span = container.span := by
  rw [(table_eq_ok_iff.mp found).2]

theorem header_of_table {container : Container} {kind : TableKind} {table : Table}
    (found : container.table kind = .ok table) :
    table.header = container.header.table kind := by
  rw [(table_eq_ok_iff.mp found).2]

/-- A row that is read from a table of the container stands in the same memory. -/
theorem span_of_rowAt {container : Container} {kind : TableKind} {table : Table}
    {index : Nat} {row : Row} (found : container.table kind = .ok table)
    (read : table.rowAt index = .ok row) : row.span = container.span := by
  rw [<- span_of_table found]
  exact Table.span_of_rowAt read

/-- Lines are counted from one, positions from zero. -/
theorem lineIndex_eq_ok_iff {line : UInt32} {length index : Nat} :
    lineIndex line length = .ok index <-> line.toNat = index + 1 ∧ index < length := by
  unfold lineIndex
  by_cases outside : line = 0 ∨ length < line.toNat
  · rw [if_pos outside]
    constructor
    · intro impossible
      cases impossible
    · rintro ⟨counted, below⟩
      rcases outside with rfl | beyond
      · exact absurd counted (Nat.zero_ne_add_one index)
      · omega
  · rw [if_neg outside, Except.ok.injEq]
    rw [not_or, <- UInt32.toNat_inj, UInt32.toNat_zero] at outside
    omega

/-- The line of a row that can be read. -/
theorem lineIndex_succ {container : Container} {kind : TableKind} {table : Table}
    {index : Nat} {row : Row} (found : container.table kind = .ok table)
    (read : table.rowAt index = .ok row) :
    lineIndex (UInt32.ofNat (index + 1)) (container.length kind) = .ok index := by
  have below := Table.lt_length_of_rowAt read
  have recorded : table.length = container.length kind := by
    rw [Table.length, header_of_table found, Container.length]
  have few := (container.header.table kind).length.toNat_lt
  rw [recorded, Container.length] at below
  have counted : (UInt32.ofNat (index + 1)).toNat = index + 1 := by
    rw [UInt32.toNat_ofNat', Nat.mod_eq_of_lt (by omega)]
  exact lineIndex_eq_ok_iff.mpr ⟨counted, below⟩

/-- A column of a line is the column of a row that is read from the table. -/
theorem columnAt_eq_ok_iff {container : Container} {kind : TableKind} {line : UInt32}
    {column : UInt16} {text : ColumnText} :
    container.columnAt kind line column = .ok text <->
      exists index table row, lineIndex line (container.length kind) = .ok index ∧
        container.table kind = .ok table ∧ table.rowAt index = .ok row ∧
        row.column column = .ok text := by
  rw [columnAt, Outcome.lift_bind_eq_ok_iff]
  simp only [Outcome.lift_bind_eq_ok_iff, Table.columnAt]
  constructor
  · rintro ⟨index, counted, table, found, row, read, given⟩
    exact ⟨index, table, row, counted, found, read, given⟩
  · rintro ⟨index, table, row, counted, found, read, given⟩
    exact ⟨index, counted, table, found, row, read, given⟩

/-- A head row that is found by its mark is read from the head table. -/
theorem findHead_eq_some_iff {container : Container} {mark : UInt8} {column : UInt16}
    {hit : HeadMatch} :
    container.findHead mark column = .ok (some hit) <->
      exists head index row, container.table .head = .ok head ∧ head.find? mark = some index ∧
        head.rowAt index = .ok row ∧ row.column column = .ok hit.text ∧
        hit.line = UInt32.ofNat (index + 1) := by
  unfold findHead
  cases container.table .head with
  | error refusal => simp
  | ok head =>
      cases found : head.find? mark with
      | none => simp [found]
      | some index =>
          simp only [found, Outcome.bind_eq_ok_iff]
          constructor
          · rintro ⟨answer, tried, rest⟩
            cases answer with
            | none => cases rest
            | some text =>
                cases rest
                rw [Outcome.attempt_eq_some_iff, Table.columnAt,
                  Outcome.lift_bind_eq_ok_iff] at tried
                rcases tried with ⟨row, read, given⟩
                exact ⟨head, index, row, rfl, found, read, given, rfl⟩
          · rintro ⟨other, position, row, same, alike, read, given, line⟩
            cases same
            rw [found] at alike
            cases alike
            refine ⟨some hit.text, ?_, ?_⟩
            · rw [Outcome.attempt_eq_some_iff, Table.columnAt, Outcome.lift_bind_eq_ok_iff]
              exact ⟨row, read, given⟩
            · rw [<- line]
              rfl

theorem headFor_eq_some_iff {container : Container} {mark : UInt8} {column : UInt16}
    {text : ColumnText} :
    container.headFor mark column = .ok (some text) <->
      exists hit, container.findHead mark column = .ok (some hit) ∧ hit.text = text := by
  rw [headFor, Outcome.bind_eq_ok_iff]
  constructor
  · rintro ⟨found, searched, given⟩
    cases found with
    | none => cases given
    | some hit =>
        cases given
        exact ⟨hit, searched, rfl⟩
  · rintro ⟨hit, searched, same⟩
    exact ⟨some hit, searched, by rw [<- same]; rfl⟩

/-- The head row at a line is there and has the mark. -/
theorem headRow?_eq_some_iff (container : Container) {line : UInt32} {mark : UInt8} {row : Row} :
    container.headRow? line mark = some row <->
      exists head index, lineIndex line (container.length .head) = .ok index ∧
        container.table .head = .ok head ∧ head.rowAt index = .ok row ∧
        row.mark? = some mark := by
  unfold headRow?
  cases lineIndex line (container.length .head) with
  | error refusal => simp
  | ok index =>
      cases container.table .head with
      | error refusal => simp
      | ok head =>
          cases read : head.rowAt index with
          | error refusal => simp [read]
          | ok other =>
              simp only [Outcome.ok_bind, read, Except.ok.injEq]
              constructor
              · intro given
                by_cases marked : other.mark? = some mark
                · rw [if_pos marked] at given
                  cases given
                  exact ⟨head, index, rfl, rfl, read, marked⟩
                · rw [if_neg marked] at given
                  cases given
              · rintro ⟨again, position, same, alike, given, marked⟩
                cases same
                cases alike
                rw [read] at given
                cases given
                rw [if_pos marked]

end Container
end MappedTables
