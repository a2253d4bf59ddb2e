import MappedTables.Proofs.Octets
import MappedTables.Proofs.Outcome
import MappedTables.Proofs.Reader.Found
import MappedTables.Proofs.Reader.Guarded

namespace MappedTables

/-!
The reader and its guarded form agree.

Step by step, what the reader takes for granted holds: a range that was checked
can be cut out, a number of columns can be doubled, a position in a table can be
multiplied by the size of a slot.  The guarded functions therefore give what the
reader gives, and where the reader can only report failures they never stop.
-/

/-- A part that can only report failures settles without a stop. -/
@[simp] theorem settle_lift (outcome : Except Error α) :
    settle (liftM outcome) = .ok outcome := by
  cases outcome with
  | error error => rfl
  | ok value => rfl

/-- Forgetting a reported failure can be put off until it is settled that nothing stops. -/
theorem attempt_eq_settle (result : Except Fault α) :
    attempt result = (settle result >>= fun outcome => .ok outcome.toOption) := by
  cases result with
  | ok value => rfl
  | error fault =>
      cases fault with
      | error error => rfl
      | abort reason => rfl

namespace Guarded

/-! ## Steps -/

theorem add_eq_ok {left right : Nat} (room : left + right < addressLimit) :
    add left right = .ok (left + right) :=
  if_neg (Nat.not_le.mpr room)

theorem sub_eq_ok {left right : Nat} (ordered : right <= left) :
    sub left right = .ok (left - right) :=
  if_neg (Nat.not_lt.mpr ordered)

theorem mul_eq_ok {left right : Nat} (room : left * right < addressLimit) :
    mul left right = .ok (left * right) :=
  if_neg (Nat.not_le.mpr room)

theorem cut_eq_ok {octets : Bytes} {start stop : Nat} (ordered : start <= stop)
    (inside : stop <= octets.size) : cut octets start stop = .ok (octets.extract start stop) :=
  if_pos ⟨ordered, inside⟩

/-- Cutting up to the end gives the tail, and stops where the tail does. -/
theorem cut_eq_tail (octets : Bytes) (start : Nat) :
    cut octets start octets.size = Row.tail octets start := by
  by_cases within : start <= octets.size
  · rw [cut_eq_ok within (Nat.le_refl _), Row.tail, if_pos within]
  · have outside : ¬ (start <= octets.size ∧ octets.size <= octets.size) :=
      fun both => within both.1
    rw [cut, if_neg outside, Row.tail, if_neg within]

/-! ## Spans -/

/-- A range that passed the check can be cut out, so slicing only reports failures. -/
theorem slice_eq (span : Span) (offset length : Nat) :
    slice span offset length = liftM (span.slice offset length) := by
  rw [slice, Span.slice]
  cases checked : span.checkRange offset length with
  | error refusal => rfl
  | ok _ =>
      have inside := ((Span.checkRange_eq_ok_iff span offset length).mp checked).2
      have taken := cut_eq_ok (Nat.le_add_right offset length) inside
      rw [Outcome.lift_ok, Outcome.ok_bind, taken]
      rfl

theorem resolve_eq (span : Span) (reference : Reference) (length : Nat) :
    resolve span reference length = liftM (span.resolve reference length) := by
  rw [resolve, Span.resolve, Outcome.lift_bind]
  simp only [slice_eq]

/-- The guarded reader cuts the octets out before it looks at the alignment; the header is the same,
and so is the failure. -/
theorem headerAt_eq (span : Span) (Header : Type) [StoredHeader Header] (offset : Nat) :
    headerAt span Header offset = liftM (span.headerAt Header offset) := by
  rw [headerAt, slice_eq, Span.slice, Span.headerAt, Span.checkHeader]
  cases checked : span.checkRange offset (StoredHeader.size Header) with
  | error refusal => rfl
  | ok _ =>
      by_cases aligned : (span.base.toNat + offset) % headerAlignment = 0
      · simp only [Outcome.ok_bind, Outcome.pure_eq_ok, Outcome.lift_ok, aligned, ne_eq,
          not_true_eq_false, if_false]
      · simp only [Outcome.ok_bind, Outcome.pure_eq_ok, Outcome.lift_ok, aligned, ne_eq,
          not_false_eq_true, if_true]
        rfl

end Guarded

/-- A slice that is read has the length that was asked for. -/
theorem Span.size_of_slice {span : Span} {offset length : Nat} {octets : Bytes}
    (read : span.slice offset length = .ok octets) : octets.size = length := by
  rw [Span.slice] at read
  rcases Outcome.bind_eq_ok_iff.mp read with ⟨_, checked, same⟩
  have inside := ((Span.checkRange_eq_ok_iff span offset length).mp checked).2
  cases same
  rw [Bytes.size_slice]
  unfold size at inside
  omega

theorem Span.size_of_resolve {span : Span} {reference : Reference} {length : Nat}
    {octets : Bytes} (read : span.resolve reference length = .ok octets) :
    octets.size = length := by
  rcases Outcome.bind_eq_ok_iff.mp read with ⟨_, _, sliced⟩
  exact size_of_slice sliced

namespace Guarded

/-! ## Rows -/

theorem text_eq (row : Row) : text row = liftM row.text := by
  rw [text, Row.text, Outcome.lift_bind]
  simp only [resolve_eq]

theorem mark?_eq (row : Row) : mark? row = .ok row.mark? := by
  rw [mark?, text_eq, settle_lift, Outcome.ok_bind, Row.mark?]
  cases row.text with
  | error refusal => rfl
  | ok octets => rfl

/-- A pair of octets is read as the number that it stores. -/
theorem entry_eq {pair : Bytes} (two : pair.size = 2) :
    entry pair = .ok (LittleEndian.decode pair.toList) := by
  rcases pair with ⟨octets⟩
  match octets, two with
  | [low, high], _ => simp [entry, octetAt, LittleEndian.decode]

theorem entry_slice (octets : Bytes) (index : Nat) (inside : 2 * index + 2 <= octets.size) :
    entry (octets.slice (2 * index) 2) = .ok (Row.startEntry octets index) := by
  apply entry_eq
  rw [Bytes.size_slice]
  omega

/-- Read pair by pair, a table of starts gives its entries in order. -/
theorem mapM_entry_pairs (octets : Bytes) :
    (pairs octets).mapM entry =
      .ok ((List.range (octets.size / 2)).map (Row.startEntry octets)) := by
  rw [pairs, List.mapM_map]
  apply Outcome.mapM_eq_ok
  intro index member
  have below := List.mem_range.mp member
  exact entry_slice octets index (by omega)

/-- The number of columns can be doubled, and a table of that many octets holds an entry for each of
them. -/
theorem columnStarts_eq (row : Row) : columnStarts row = liftM row.columnStarts := by
  rw [columnStarts, Row.columnStarts]
  cases row.header.startsReference with
  | error refusal => rfl
  | ok found =>
      cases found with
      | none => rfl
      | some reference =>
          have few := row.header.columns.toNat_lt
          have doubled : mul row.columnCount 2 = .ok (2 * row.columnCount) := by
            rw [mul_eq_ok, Nat.mul_comm]
            unfold Row.columnCount addressLimit
            omega
          simp only [Outcome.lift_ok, Outcome.ok_bind, doubled, Outcome.liftAbort_ok, resolve_eq]
          cases read : row.span.resolve reference (2 * row.columnCount) with
          | error refusal => rfl
          | ok table =>
              have half : table.size / 2 = row.columnCount := by
                rw [Span.size_of_resolve read]
                omega
              simp only [Outcome.lift_ok, Outcome.ok_bind, mapM_entry_pairs, half,
                Outcome.liftAbort_ok]
              rfl

/-- A single entry of a table of starts is read in the same way. -/
theorem entry_eq_startEntry {octets : Bytes} (two : octets.size = 2) :
    entry octets = .ok (Row.startEntry octets 0) := by
  have whole : octets.slice (2 * 0) 2 = octets := by
    rw [Bytes.slice, <- two]
    simp
  rw [<- entry_slice octets 0 (by omega), whole]

/-- The sum of the place of the table and the distance of the entry is the one thing that may stop,
and it stops on both sides. -/
theorem columnStart_eq (row : Row) (number : UInt16) :
    columnStart row number = row.columnStart number := by
  rw [columnStart, Row.columnStart]
  by_cases missing : number = 0 ∨ row.header.columns < number
  · simp only [missing, if_true, Outcome.throw_eq_error, Outcome.error_bind]
  · simp only [missing, if_false]
    cases row.header.startsReference with
    | error refusal => rfl
    | ok found =>
        cases found with
        | none => rfl
        | some reference =>
            cases offset : reference.offsetFrom row.span.base with
            | error refusal =>
                simp only [Outcome.lift_ok, Outcome.ok_bind, offset, Outcome.lift_error,
                  Outcome.error_bind]
            | ok table =>
                have few := number.toNat_lt
                have positive : 1 <= number.toNat := by
                  have nonzero : number.toNat ≠ 0 := fun zero =>
                    missing (Or.inl (UInt16.toNat_inj.mp zero))
                  omega
                have index := sub_eq_ok positive
                have distance : mul (number.toNat - 1) 2 = .ok (2 * (number.toNat - 1)) := by
                  rw [mul_eq_ok, Nat.mul_comm]
                  unfold addressLimit
                  omega
                simp only [Outcome.lift_ok, Outcome.ok_bind, offset, index, distance,
                  Outcome.liftAbort_ok]
                by_cases overflows : addressLimit <= table.toNat + 2 * (number.toNat - 1)
                · simp only [add, overflows, if_true, Outcome.liftAbort_error,
                    Outcome.error_bind, Outcome.throw_eq_error]
                · simp only [add, overflows, if_false, Outcome.liftAbort_ok, Outcome.ok_bind,
                    slice_eq]
                  cases read : row.span.slice (table.toNat + 2 * (number.toNat - 1)) 2 with
                  | error refusal => rfl
                  | ok octets =>
                      have value := entry_eq_startEntry (Span.size_of_slice read)
                      simp only [Outcome.lift_ok, Outcome.ok_bind, value,
                        Outcome.liftAbort_ok]

/-- A start behind the end of the text stops on both sides. -/
theorem columnAddress_eq (row : Row) (number : UInt16) :
    columnAddress row number = row.columnAddress number := by
  rw [columnAddress, Row.columnAddress]
  simp only [columnStart_eq, text_eq, cut_eq_tail]

/-- Cutting at the first terminator keeps the octets in front of it. -/
theorem cut_findIdx (octets : Bytes) :
    cut octets 0 ((octets.findIdx? (· = columnTerminator)).getD octets.size) =
      .ok (octets.takeWhile (· ≠ columnTerminator)) := by
  rcases octets with ⟨octets⟩
  have stop : ((octets.findIdx? (· = columnTerminator)).getD octets.length) <= octets.length := by
    rw [<- List.findIdx_eq_getD_findIdx?]
    exact List.findIdx_le_length
  have kept : octets.takeWhile (· ≠ columnTerminator) =
      octets.take ((octets.findIdx? (· = columnTerminator)).getD octets.length) := by
    rw [List.takeWhile_eq_take_findIdx_not, List.findIdx_eq_getD_findIdx?]
    simp
  rw [List.findIdx?_toArray, List.size_toArray, cut_eq_ok (Nat.zero_le _) (by simpa using stop),
    List.takeWhile_toArray, kept]
  simp

theorem column_eq (row : Row) (number : UInt16) :
    column row number = row.column number := by
  rw [column, Row.column]
  simp only [columnStart_eq, text_eq, cut_eq_tail, cut_findIdx, Outcome.liftAbort_ok,
    Outcome.ok_bind]

theorem columnString_eq (row : Row) (number : UInt16) :
    columnString row number = row.columnString number := by
  rw [columnString, Row.columnString, column_eq]

/-- The guarded check counts columns from zero, and the number that it reports fits into a word. -/
theorem checkStarts_eq (length index previous : Nat) (starts : List Nat)
    (room : index + starts.length < addressLimit) :
    checkStarts length index previous starts =
      liftM (Row.checkStarts length (index + 1) previous starts) := by
  induction starts generalizing index previous with
  | nil => rfl
  | cons start rest ih =>
      rw [List.length_cons] at room
      rw [checkStarts, Row.checkStarts]
      by_cases disordered : start < previous ∨ length < start
      · have counted : add index 1 = .ok (index + 1) := add_eq_ok (by omega)
        simp only [disordered, if_true, counted, Outcome.liftAbort_ok, Outcome.ok_bind]
        rfl
      · simp only [disordered, if_false]
        exact ih (index + 1) start (by omega)

/-- There are as many column starts as columns. -/
theorem length_le_of_columnStarts {row : Row} {starts : List Nat}
    (read : row.columnStarts = .ok starts) : starts.length <= row.columnCount := by
  rw [Row.columnStarts] at read
  rcases Outcome.bind_eq_ok_iff.mp read with ⟨found, _, rest⟩
  cases found with
  | none =>
      cases rest
      exact Nat.zero_le _
  | some reference =>
      rcases Outcome.bind_eq_ok_iff.mp rest with ⟨table, _, same⟩
      cases same
      simp

theorem validateRow_eq (row : Row) : validateRow row = liftM row.validate := by
  rw [validateRow, Row.validate, columnStarts_eq]
  cases read : row.columnStarts with
  | error refusal => rfl
  | ok starts =>
      have few := length_le_of_columnStarts read
      have small := row.header.columns.toNat_lt
      have checked := checkStarts_eq row.length 0 0 starts (by
        unfold Row.columnCount at few
        unfold addressLimit
        omega)
      simp only [Outcome.lift_ok, Outcome.ok_bind, checked, text_eq, Outcome.lift_bind]
      rfl

/-! ## Tables -/

/-- The distance of a slot from the first one fits into a word, because a table has fewer than 2^32
rows of 24 octets each. -/
theorem rowAt_eq (table : Table) (index : Nat) :
    rowAt table index = liftM (table.rowAt index) := by
  rw [rowAt, Table.rowAt]
  by_cases beyond : table.length <= index
  · simp only [beyond, if_true, Outcome.throw_eq_error, Outcome.error_bind]
    rfl
  · simp only [beyond, if_false]
    cases table.header.arrayReference with
    | error refusal => rfl
    | ok array =>
        cases place : array.offsetFrom table.span.base with
        | error refusal =>
            simp only [Outcome.lift_ok, Outcome.ok_bind, place]
            rfl
        | ok offset =>
            have few := table.header.length.toNat_lt
            have distance : mul index rowSlotSize = .ok (index * rowSlotSize) := by
              have slotSize : rowSlotSize = 24 := rfl
              rw [mul_eq_ok]
              rw [slotSize]
              unfold Table.length at beyond
              unfold addressLimit
              omega
            simp only [Outcome.lift_ok, Outcome.ok_bind, place, distance, Outcome.liftAbort_ok]
            by_cases overflows : addressLimit <= offset.toNat + index * rowSlotSize
            · simp only [overflows, if_true, Outcome.throw_eq_error, Outcome.error_bind]
              rfl
            · simp only [overflows, if_false, headerAt_eq, Outcome.lift_bind]

theorem columnAddressOf_eq (table : Table) (index : Nat) (number : UInt16) :
    columnAddressOf table index number = table.columnAddressAt index number := by
  rw [columnAddressOf, Table.columnAddressAt, rowAt_eq]
  simp only [columnAddress_eq]

theorem columnOf_eq (table : Table) (index : Nat) (number : UInt16) :
    columnOf table index number = table.columnAt index number := by
  rw [columnOf, Table.columnAt, rowAt_eq]
  simp only [column_eq]

theorem rows_eq (table : Table) : rows table = .ok table.rows := by
  apply Outcome.mapM_eq_ok
  intro index _
  rw [rowAt_eq, settle_lift]

/-- A row that cannot be read has no mark on either side, and nothing stops. -/
theorem markAt?_eq (table : Table) (index : Nat) :
    markAt? table index = .ok (table.markAt? index) := by
  rw [markAt?, rowAt_eq, settle_lift, Outcome.ok_bind, Table.markAt?]
  cases table.rowAt index with
  | error refusal => rfl
  | ok row => exact mark?_eq row

/-- The search row by row is the search for the least position with the mark. -/
theorem findFrom_eq (table : Table) (mark : UInt8) (count start : Nat) :
    findFrom table mark count start =
      .ok (leastFrom (fun index => table.markAt? index == some mark) count start) := by
  induction count generalizing start with
  | zero => rfl
  | succ count ih =>
      rw [findFrom, markAt?_eq, Outcome.ok_bind, leastFrom]
      by_cases hit : table.markAt? start = some mark
      · simp only [hit, if_true, beq_self_eq_true]
        rfl
      · have missed : (table.markAt? start == some mark) = false := by
          rw [beq_eq_false_iff_ne]
          exact hit
        simp only [hit, missed, if_false, ih]
        rfl

theorem find?_eq (table : Table) (mark : UInt8) :
    findFrom table mark table.length 0 = .ok (table.find? mark) :=
  findFrom_eq table mark table.length 0

theorem validateFrom_eq (table : Table) (count start : Nat) :
    validateFrom table count start = liftM (table.validateFrom count start) := by
  induction count generalizing start with
  | zero => rfl
  | succ count ih =>
      rw [validateFrom, Table.validateFrom, rowAt_eq, Outcome.lift_bind]
      simp only [validateRow_eq, ih, Outcome.lift_bind]

/-! ## Containers -/

/-- A header that was accepted records no more octets than there are, so that the container can be
cut out of the span. -/
theorem ofSpan_eq (span : Span) : ofSpan span = liftM (Container.ofSpan span) := by
  rw [ofSpan, Container.ofSpan]
  by_cases short : span.size < leastContainerSize
  · simp only [short, if_true, Outcome.throw_eq_error, Outcome.error_bind]
    rfl
  · simp only [short, if_false, headerAt_eq]
    cases span.headerAt ContainerHeader 0 with
    | error refusal => rfl
    | ok header =>
        simp only [Outcome.lift_ok, Outcome.ok_bind]
        cases accepted : header.validate span.size with
        | error refusal => rfl
        | ok _ =>
            have inside : header.capacity.toNat <= span.bytes.size :=
              (ContainerHeader.validate_eq_ok_iff.mp accepted).2.2.2.1
            have taken := cut_eq_ok (Nat.zero_le header.capacity.toNat) inside
            simp only [Outcome.lift_ok, Outcome.ok_bind, taken, Outcome.liftAbort_ok]
            cases header.mode with
            | error refusal => rfl
            | ok mode => rfl

/-- A line that is not refused is not zero, and can be counted from zero. -/
theorem lineIndex_eq (line : UInt32) (length : Nat) :
    lineIndex line length = liftM (Container.lineIndex line length) := by
  rw [lineIndex, Container.lineIndex]
  by_cases refused : line = 0 ∨ length < line.toNat
  · simp only [refused, if_true, Outcome.throw_eq_error, Outcome.error_bind]
    rfl
  · have positive : 1 <= line.toNat := by
      have nonzero : line.toNat ≠ 0 := fun zero => refused (Or.inl (UInt32.toNat_inj.mp zero))
      omega
    simp only [refused, if_false, sub_eq_ok positive]
    rfl

/-- By line the same column is found, or the same failure, or the same stop. -/
theorem columnAt_eq (container : Container) (kind : TableKind) (line : UInt32)
    (number : UInt16) :
    columnAt container kind line number = container.columnAt kind line number := by
  rw [columnAt, Container.columnAt, lineIndex_eq]
  simp only [columnOf_eq]

theorem columnAddressAt_eq (container : Container) (kind : TableKind) (line : UInt32)
    (number : UInt16) :
    columnAddressAt container kind line number =
      container.columnAddressAt kind line number := by
  rw [columnAddressAt, Container.columnAddressAt, lineIndex_eq]
  simp only [columnAddressOf_eq]

/-- The line of a row that was found is a number of 32 bits. -/
theorem next_eq_ok {table : Table} {mark : UInt8} {index : Nat}
    (found : table.find? mark = some index) :
    next (UInt32.ofNat index) = .ok (UInt32.ofNat (index + 1)) := by
  have below := ((leastFrom_eq_some_iff _ _ _ _).mp found).2.1
  have few := table.header.length.toNat_lt
  unfold Table.length at below
  have small : (UInt32.ofNat index).toNat = index := by
    rw [UInt32.toNat_ofNat', Nat.mod_eq_of_lt (by omega)]
  have room : ¬ 1 <<< 32 <= (UInt32.ofNat index).toNat + 1 := by omega
  rw [next, if_neg room, UInt32.ofNat_add]
  rfl

/-- By mark the same row is found, and what comes of its column is the same. -/
theorem findHead_eq (container : Container) (mark : UInt8) (number : UInt16) :
    findHead container mark number = container.findHead mark number := by
  rw [findHead, Container.findHead]
  cases container.table .head with
  | error refusal => rfl
  | ok head =>
      simp only [find?_eq, Outcome.ok_bind]
      cases found : head.find? mark with
      | none => rfl
      | some index =>
          simp only [columnOf_eq, next_eq_ok found, attempt_eq_settle]
          cases settle (head.columnAt index number) with
          | error reason => rfl
          | ok outcome =>
              cases outcome with
              | error refusal => rfl
              | ok text => rfl

theorem headFor_eq (container : Container) (mark : UInt8) (number : UInt16) :
    headFor container mark number = container.headFor mark number := by
  rw [headFor, Container.headFor, findHead_eq]

theorem headRow?_eq (container : Container) (line : UInt32) (mark : UInt8) :
    headRow? container line mark = .ok (container.headRow? line mark) := by
  rw [headRow?, Container.headRow?, lineIndex_eq, settle_lift, Outcome.ok_bind]
  cases Container.lineIndex line (container.length .head) with
  | error refusal => rfl
  | ok index =>
      cases container.table .head with
      | error refusal => rfl
      | ok head =>
          simp only [rowAt_eq, settle_lift, Outcome.ok_bind]
          cases head.rowAt index with
          | error refusal => rfl
          | ok row =>
              simp only [mark?_eq, Outcome.ok_bind]
              by_cases marked : row.mark? = some mark
              · simp only [marked, if_true, Outcome.pure_eq_ok]
              · simp only [marked, if_false, Outcome.pure_eq_ok]

/-- A NUL that was found stands inside the version area, which can be cut there. -/
theorem version_eq (container : Container) : version container = .ok container.version := by
  rw [version, Container.version]
  cases container.header.versionReference with
  | error refusal => rfl
  | ok reference =>
      simp only [resolve_eq, settle_lift, Outcome.ok_bind]
      cases container.span.resolve reference _ with
      | error refusal => rfl
      | ok area =>
          cases found : area.findIdx? (· = columnTerminator) with
          | none => simp only [found, Outcome.pure_eq_ok]
          | some stop =>
              have inside : stop <= area.size := by
                have hit := (Array.findIdx?_eq_some_iff_getElem.mp found).1
                exact Nat.le_of_lt hit
              simp only [found, cut_eq_ok (Nat.zero_le stop) inside, Outcome.ok_bind,
                Outcome.pure_eq_ok]

theorem validate_eq (container : Container) : validate container = liftM container.validate := by
  rw [validate, Container.validate]
  simp only [validateFrom_eq, Outcome.lift_bind, Table.validate]

theorem stats_eq (container : Container) : stats container = .ok container.stats := by
  rw [stats, version_eq]
  rfl

/-! ## Cursors -/

theorem tryHint_eq (container : Container) (cursor : HeadCursor) (mark : UInt8)
    (number : UInt16) :
    tryHint container cursor mark number = cursor.tryHint container mark number := by
  rw [tryHint, HeadCursor.tryHint]
  cases cursor.lastLine with
  | none => rfl
  | some line =>
      simp only [headRow?_eq, Outcome.ok_bind, column_eq]
      cases container.headRow? line mark with
      | none => rfl
      | some row => rfl

/-- A lookup with a cursor comes to the same, whichever line the cursor remembers. -/
theorem lookup_eq (container : Container) (cursor : HeadCursor) (mark : UInt8)
    (number : UInt16) :
    lookup container cursor mark number = cursor.lookup container mark number := by
  rw [lookup, HeadCursor.lookup, tryHint_eq]
  have searched := findHead_eq container mark number
  generalize findHead container mark number = outcome at searched ⊢
  cases searched
  rfl

end Guarded
end MappedTables
