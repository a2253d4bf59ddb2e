import MappedTables.Proofs.Reader.Agreement

namespace MappedTables

/-!
Where the reader stops.

Of all the steps that the guarded reader checks, one can fail: the place of a
column's entry in its table of starts is a plain sum, and a stored reference can
be so large that the sum is no machine word.  Every reading stops exactly if it
comes to such an entry.  The table as a whole is read through a range check, and
so are the slots of a table, so the readings that do not ask for a single column
never stop.
-/

namespace Row

/-- The entry of the table of starts that belongs to a column of the row would
stand behind the last address. -/
def Overflows (row : Row) (column : UInt16) : Prop :=
  column ≠ 0 ∧ column <= row.header.columns ∧
    exists reference table, row.header.startsReference = .ok (some reference) ∧
      reference.offsetFrom row.span.base = .ok table ∧
      addressLimit <= table.toNat + 2 * (column.toNat - 1)

theorem not_overflows_of_missing {row : Row} {column : UInt16}
    (missing : column = 0 ∨ row.header.columns < column) : ¬ row.Overflows column := by
  rintro ⟨nonzero, within, _⟩
  rcases missing with zero | beyond
  · exact nonzero zero
  · rw [UInt16.lt_iff_toNat_lt] at beyond
    rw [UInt16.le_iff_toNat_le] at within
    omega

/-- The start of a column, read from its entry. -/
def startAt (row : Row) (column : UInt16) (place : Nat) : Except Error Nat := do
  let start := startEntry (← row.span.slice place 2) 0
  if row.length < start then
    throw (.malformed (.columnPastRow column.toNat start row.length))
  return start

theorem le_length_of_startAt {row : Row} {column : UInt16} {place start : Nat}
    (read : row.startAt column place = .ok start) : start <= row.length := by
  rcases Outcome.bind_eq_ok_iff.mp read with ⟨octets, _, rest⟩
  by_cases past : row.length < startEntry octets 0
  · simp only [past, if_true, Outcome.throw_eq_error, Outcome.error_bind] at rest
    cases rest
  · simp only [past, if_false] at rest
    cases rest
    exact Nat.not_lt.mp past

/-- The start of a column once the place of the table of starts is known. -/
theorem columnStart_of_table {row : Row} {column : UInt16} {reference : Reference}
    {table : UInt64} (present : ¬ (column = 0 ∨ row.header.columns < column))
    (found : row.header.startsReference = .ok (some reference))
    (offset : reference.offsetFrom row.span.base = .ok table) :
    row.columnStart column =
      if addressLimit <= table.toNat + 2 * (column.toNat - 1) then .error (.abort .overflow)
      else liftM (row.startAt column (table.toNat + 2 * (column.toNat - 1))) := by
  unfold columnStart startAt
  simp only [present, if_false, found, offset, Outcome.lift_ok, Outcome.ok_bind]
  by_cases overflows : addressLimit <= table.toNat + 2 * (column.toNat - 1)
  · simp only [overflows, if_true, Outcome.throw_eq_error, Outcome.error_bind]
  · simp only [overflows, if_false]
    cases row.span.slice (table.toNat + 2 * (column.toNat - 1)) 2 with
    | error refusal => rfl
    | ok octets =>
        by_cases past : row.length < startEntry octets 0
        · simp only [Outcome.lift_ok, Outcome.ok_bind, past, if_true, Outcome.throw_eq_error,
            Outcome.error_bind]
          rfl
        · simp only [Outcome.lift_ok, Outcome.ok_bind, past, if_false]
          rfl

/-- All that finding the start of a column can do: stop at an entry out of reach, or
report, or find a start within the text. -/
theorem columnStart_cases (row : Row) (column : UInt16) :
    (row.Overflows column ∧ row.columnStart column = .error (.abort .overflow)) ∨
      (¬ row.Overflows column ∧ exists outcome : Except Error Nat,
        row.columnStart column = liftM outcome ∧
          forall start, outcome = .ok start -> start <= row.length) := by
  by_cases missing : column = 0 ∨ row.header.columns < column
  · right
    refine ⟨not_overflows_of_missing missing,
      .error (.outOfBounds .column column.toNat row.columnCount), ?_, by rintro _ ⟨⟩⟩
    simp [columnStart, missing]
  · cases found : row.header.startsReference with
    | error refusal =>
        right
        refine ⟨?_, .error refusal, ?_, by rintro _ ⟨⟩⟩
        · rintro ⟨_, _, _, _, other, _⟩
          rw [found] at other
          cases other
        · simp [columnStart, missing, found]
    | ok entry =>
        cases entry with
        | none =>
            right
            refine ⟨?_, .error (.outOfBounds .column column.toNat 0), ?_, by rintro _ ⟨⟩⟩
            · rintro ⟨_, _, _, _, other, _⟩
              rw [found] at other
              cases other
            · simp [columnStart, missing, found]
        | some reference =>
            cases offset : reference.offsetFrom row.span.base with
            | error refusal =>
                right
                refine ⟨?_, .error refusal, ?_, by rintro _ ⟨⟩⟩
                · rintro ⟨_, _, _, _, other, place, _⟩
                  rw [found] at other
                  cases other
                  rw [offset] at place
                  cases place
                · simp [columnStart, missing, found, offset]
            | ok table =>
                have start := columnStart_of_table missing found offset
                by_cases overflows : addressLimit <= table.toNat + 2 * (column.toNat - 1)
                · left
                  rw [if_pos overflows] at start
                  rw [not_or, UInt16.not_lt] at missing
                  exact ⟨⟨missing.1, missing.2, reference, table, found, offset, overflows⟩,
                    start⟩
                · right
                  rw [if_neg overflows] at start
                  refine ⟨?_, _, start, fun _ read => le_length_of_startAt read⟩
                  rintro ⟨_, _, _, _, other, place, beyond⟩
                  rw [found] at other
                  cases other
                  rw [offset] at place
                  cases place
                  exact overflows beyond

/-- A column begins within the text of its row. -/
theorem le_length_of_columnStart {row : Row} {column : UInt16} {start : Nat}
    (found : row.columnStart column = .ok start) : start <= row.length := by
  rcases row.columnStart_cases column with ⟨_, stopped⟩ | ⟨_, outcome, lifted, bounded⟩
  · rw [found] at stopped
    cases stopped
  · apply bounded
    rw [found] at lifted
    cases outcome with
    | error refusal => cases lifted
    | ok value =>
        cases lifted
        rfl

/-- What is computed from a column start, and only reports, stops exactly if the entry
of the column is out of reach. -/
theorem columnStart_bind_stops_iff {Result : Type} (row : Row) (column : UInt16)
    (next : Nat -> Except Fault Result)
    (reports : forall start, start <= row.length ->
      exists outcome : Except Error Result, next start = liftM outcome)
    (reason : Abort) :
    (row.columnStart column >>= next) = .error (.abort reason) <->
      reason = .overflow ∧ row.Overflows column := by
  rcases row.columnStart_cases column with ⟨overflows, stopped⟩ | ⟨within, outcome, start, bound⟩
  · rw [stopped, Outcome.error_bind]
    constructor
    · intro same
      cases same
      exact ⟨rfl, overflows⟩
    · rintro ⟨same, _⟩
      rw [same]
  · constructor
    · intro stopped
      rw [start, Outcome.lift_bind_eq_abort_iff] at stopped
      rcases stopped with ⟨value, found, later⟩
      rcases reports value (bound value found) with ⟨settled, reported⟩
      rw [reported] at later
      cases settled with
      | error refusal => cases later
      | ok result => cases later
    · rintro ⟨_, overflows⟩
      exact absurd overflows within

theorem columnStart_stops_iff (row : Row) (column : UInt16) (reason : Abort) :
    row.columnStart column = .error (.abort reason) <->
      reason = .overflow ∧ row.Overflows column := by
  have whole := row.columnStart_bind_stops_iff column (fun start => .ok start)
    (fun start _ => ⟨.ok start, rfl⟩) reason
  rwa [show (row.columnStart column >>= fun start => .ok start) = row.columnStart column from
    bind_pure _] at whole

/-- A text that is read has the recorded length. -/
theorem size_of_text {row : Row} {octets : Bytes} (read : row.text = .ok octets) :
    octets.size = row.length := by
  rcases Outcome.bind_eq_ok_iff.mp read with ⟨_, _, resolved⟩
  exact Span.size_of_resolve resolved

/-- A start within the text can be cut off. -/
theorem tail_eq_ok {row : Row} {octets : Bytes} {start : Nat}
    (read : row.text = .ok octets) (within : start <= row.length) :
    tail octets start = .ok (octets.extract start octets.size) :=
  if_pos (size_of_text read ▸ within)

theorem column_stops_iff (row : Row) (column : UInt16) (reason : Abort) :
    row.column column = .error (.abort reason) <->
      reason = .overflow ∧ row.Overflows column := by
  rw [Row.column]
  apply columnStart_bind_stops_iff
  intro start within
  cases read : row.text with
  | error refusal => exact ⟨.error refusal, rfl⟩
  | ok octets =>
      simp only [Outcome.lift_ok, Outcome.ok_bind, tail_eq_ok read within, Outcome.liftAbort_ok]
      cases row.textAddress with
      | error refusal => exact ⟨.error refusal, rfl⟩
      | ok address => exact ⟨.ok _, rfl⟩

theorem columnAddress_stops_iff (row : Row) (column : UInt16) (reason : Abort) :
    row.columnAddress column = .error (.abort reason) <->
      reason = .overflow ∧ row.Overflows column := by
  rw [columnAddress]
  apply columnStart_bind_stops_iff
  intro start within
  cases read : row.text with
  | error refusal => exact ⟨.error refusal, rfl⟩
  | ok octets =>
      simp only [Outcome.lift_ok, Outcome.ok_bind, tail_eq_ok read within, Outcome.liftAbort_ok]
      cases row.textAddress with
      | error refusal => exact ⟨.error refusal, rfl⟩
      | ok address => exact ⟨.ok _, rfl⟩

theorem columnString_stops_iff (row : Row) (column : UInt16) (reason : Abort) :
    row.columnString column = .error (.abort reason) <->
      reason = .overflow ∧ row.Overflows column := by
  rw [<- column_stops_iff, columnString]
  cases row.column column with
  | error fault => simp
  | ok text => simp

end Row

/-! ## Tables and containers -/

namespace Table

/-- The column that is asked for belongs to a row whose entry is out of reach. -/
def Overflows (table : Table) (index : Nat) (column : UInt16) : Prop :=
  exists row, table.rowAt index = .ok row ∧ row.Overflows column

theorem columnAt_stops_iff (table : Table) (index : Nat) (column : UInt16)
    (reason : Abort) :
    table.columnAt index column = .error (.abort reason) <->
      reason = .overflow ∧ table.Overflows index column := by
  rw [columnAt, Outcome.lift_bind_eq_abort_iff]
  simp only [Row.column_stops_iff, Overflows]
  constructor
  · rintro ⟨row, read, same, overflows⟩
    exact ⟨same, row, read, overflows⟩
  · rintro ⟨same, row, read, overflows⟩
    exact ⟨row, read, same, overflows⟩

theorem columnAddressAt_stops_iff (table : Table) (index : Nat) (column : UInt16)
    (reason : Abort) :
    table.columnAddressAt index column = .error (.abort reason) <->
      reason = .overflow ∧ table.Overflows index column := by
  rw [columnAddressAt, Outcome.lift_bind_eq_abort_iff]
  simp only [Row.columnAddress_stops_iff, Overflows]
  constructor
  · rintro ⟨row, read, same, overflows⟩
    exact ⟨same, row, read, overflows⟩
  · rintro ⟨same, row, read, overflows⟩
    exact ⟨row, read, same, overflows⟩

end Table

namespace Container

/-- The column that is asked for belongs to a line whose entry is out of reach. -/
def OverflowsAt (container : Container) (kind : TableKind) (line : UInt32)
    (column : UInt16) : Prop :=
  exists index table, lineIndex line (container.length kind) = .ok index ∧
    container.table kind = .ok table ∧ table.Overflows index column

/-- The first head row with the mark is one whose entry is out of reach. -/
def OverflowsFor (container : Container) (mark : UInt8) (column : UInt16) : Prop :=
  exists head index, container.table .head = .ok head ∧ head.find? mark = some index ∧
    head.Overflows index column

theorem columnAt_stops_iff (container : Container) (kind : TableKind) (line : UInt32)
    (column : UInt16) (reason : Abort) :
    container.columnAt kind line column = .error (.abort reason) <->
      reason = .overflow ∧ container.OverflowsAt kind line column := by
  rw [columnAt, Outcome.lift_bind_eq_abort_iff]
  simp only [Outcome.lift_bind_eq_abort_iff, Table.columnAt_stops_iff, OverflowsAt]
  constructor
  · rintro ⟨index, found, table, read, same, overflows⟩
    exact ⟨same, index, table, found, read, overflows⟩
  · rintro ⟨same, index, table, found, read, overflows⟩
    exact ⟨index, found, table, read, same, overflows⟩

theorem columnAddressAt_stops_iff (container : Container) (kind : TableKind) (line : UInt32)
    (column : UInt16) (reason : Abort) :
    container.columnAddressAt kind line column = .error (.abort reason) <->
      reason = .overflow ∧ container.OverflowsAt kind line column := by
  rw [columnAddressAt, Outcome.lift_bind_eq_abort_iff]
  simp only [Outcome.lift_bind_eq_abort_iff, Table.columnAddressAt_stops_iff, OverflowsAt]
  constructor
  · rintro ⟨index, found, table, read, same, overflows⟩
    exact ⟨same, index, table, found, read, overflows⟩
  · rintro ⟨same, index, table, found, read, overflows⟩
    exact ⟨index, found, table, read, same, overflows⟩

theorem findHead_stops_iff (container : Container) (mark : UInt8) (column : UInt16)
    (reason : Abort) :
    container.findHead mark column = .error reason <->
      reason = .overflow ∧ container.OverflowsFor mark column := by
  unfold findHead OverflowsFor
  cases read : container.table .head with
  | error refusal =>
      constructor
      · intro stopped
        cases stopped
      · rintro ⟨_, head, index, other, _⟩
        cases other
  | ok head =>
      cases found : head.find? mark with
      | none =>
          constructor
          · intro stopped
            simp only [found] at stopped
            cases stopped
          · rintro ⟨_, other, index, same, hit, _⟩
            cases same
            rw [found] at hit
            cases hit
      | some index =>
          simp only [found, Outcome.attempt_bind_eq_error_iff]
          constructor
          · rintro (stopped | ⟨text, _, later⟩)
            · rcases (head.columnAt_stops_iff index column reason).mp stopped with
                ⟨same, overflows⟩
              exact ⟨same, head, index, rfl, found, overflows⟩
            · cases text with
              | none => cases later
              | some text => cases later
          · rintro ⟨same, other, position, alike, hit, overflows⟩
            cases alike
            rw [found] at hit
            cases hit
            exact Or.inl ((head.columnAt_stops_iff index column reason).mpr ⟨same, overflows⟩)

theorem headFor_stops_iff (container : Container) (mark : UInt8) (column : UInt16)
    (reason : Abort) :
    container.headFor mark column = .error reason <->
      reason = .overflow ∧ container.OverflowsFor mark column := by
  rw [<- findHead_stops_iff, headFor]
  cases container.findHead mark column with
  | error other => simp
  | ok found => simp

end Container

/-! ## Cursors -/

namespace HeadCursor

/-- The remembered row answers for the mark, and its entry is out of reach. -/
def Overflows (cursor : HeadCursor) (container : Container) (mark : UInt8)
    (column : UInt16) : Prop :=
  exists line row, cursor.lastLine = some line ∧ container.headRow? line mark = some row ∧
    row.Overflows column

theorem tryHint_stops_iff (cursor : HeadCursor) (container : Container) (mark : UInt8)
    (column : UInt16) (reason : Abort) :
    cursor.tryHint container mark column = .error reason <->
      reason = .overflow ∧ cursor.Overflows container mark column := by
  unfold tryHint Overflows
  cases remembered : cursor.lastLine with
  | none =>
      constructor
      · intro stopped
        cases stopped
      · rintro ⟨_, line, row, other, _⟩
        cases other
  | some line =>
      cases hinted : container.headRow? line mark with
      | none =>
          constructor
          · intro stopped
            simp only [hinted] at stopped
            cases stopped
          · rintro ⟨_, other, row, same, hit, _⟩
            cases same
            rw [hinted] at hit
            cases hit
      | some row =>
          simp only [hinted, Outcome.attempt_eq_error_iff, row.column_stops_iff]
          constructor
          · rintro ⟨same, overflows⟩
            exact ⟨same, line, row, rfl, hinted, overflows⟩
          · rintro ⟨same, other, found, alike, hit, overflows⟩
            cases alike
            rw [hinted] at hit
            cases hit
            exact ⟨same, overflows⟩

/-- A lookup stops at the remembered row, or in the search that follows when that row
gives nothing. -/
theorem lookup_stops_iff (cursor : HeadCursor) (container : Container) (mark : UInt8)
    (column : UInt16) (reason : Abort) :
    cursor.lookup container mark column = .error reason <->
      reason = .overflow ∧ (cursor.Overflows container mark column ∨
        (cursor.tryHint container mark column = .ok none ∧
          container.OverflowsFor mark column)) := by
  rw [lookup, Outcome.bind_eq_error_iff, tryHint_stops_iff]
  constructor
  · rintro (⟨same, overflows⟩ | ⟨answer, tried, later⟩)
    · exact ⟨same, Or.inl overflows⟩
    · cases answer with
      | some text => cases later
      | none =>
          rcases Outcome.bind_eq_error_iff.mp later with stopped | ⟨found, _, settled⟩
          · rcases (container.findHead_stops_iff mark column reason).mp stopped with
              ⟨same, overflows⟩
            exact ⟨same, Or.inr ⟨tried, overflows⟩⟩
          · cases found with
            | none => cases settled
            | some found => cases settled
  · rintro ⟨same, overflows | ⟨tried, overflows⟩⟩
    · exact Or.inl ⟨same, overflows⟩
    · refine Or.inr ⟨none, tried, ?_⟩
      have stopped := (container.findHead_stops_iff mark column reason).mpr ⟨same, overflows⟩
      simp only [stopped, Outcome.error_bind]

end HeadCursor
end MappedTables
