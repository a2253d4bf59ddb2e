import MappedTables.Proofs.Reader.Searches

namespace MappedTables

/-!
The first row with a mark.

A search by mark passes over rows that cannot be read, counts positions from zero
and answers with a line counted from one, and it reads the row that it has found
once more for the column.  What comes of it is nevertheless said by the two
readings of a single line alone: the line of a hit is the first one at which
there is a row with the mark, and the search comes to what a lookup of the column
at that line comes to, be it a text, a miss or a stop.  No later row counts.
-/

namespace Container

variable {container : Container} {mark : UInt8} {column : UInt16} {line : UInt32}

/-- At a line there is a head row with the mark, and at no line before it. -/
structure FirstMarked (container : Container) (mark : UInt8) (line : UInt32) : Prop where
  present : exists row, container.headRow? line mark = some row
  absent : forall earlier, earlier < line -> container.headRow? earlier mark = none

/-! ## Lines and positions -/

/-- The rows that have the mark are those that a search of the table can come to. -/
theorem exists_headRow?_iff :
    (exists row, container.headRow? line mark = some row) <->
      exists head index, container.table .head = .ok head ∧ line.toNat = index + 1 ∧
        head.markAt? index = some mark := by
  constructor
  · rintro ⟨row, found⟩
    rcases (headRow?_eq_some_iff container).mp found with
      ⟨head, index, counted, table, read, marked⟩
    refine ⟨head, index, table, (lineIndex_eq_ok_iff.mp counted).1, ?_⟩
    rw [Table.markAt?_of_rowAt read]
    exact marked
  · rintro ⟨head, index, table, counted, marked⟩
    rcases Table.exists_rowAt_of_markAt? marked with ⟨row, read, marked⟩
    have below := Table.lt_length_of_rowAt read
    rw [Table.length, header_of_table table] at below
    exact ⟨row, (headRow?_eq_some_iff container).mpr
      ⟨head, index, lineIndex_eq_ok_iff.mpr ⟨counted, below⟩, table, read, marked⟩⟩

/-- The first line with the mark is that of the first position with it. -/
theorem firstMarked_of_find? {head : Table} {index : Nat} (table : container.table .head = .ok head)
    (found : head.find? mark = some index) (counted : line.toNat = index + 1) :
    container.FirstMarked mark line where
  present := exists_headRow?_iff.mpr ⟨head, index, table, counted, Table.markAt?_of_find? found⟩
  absent earlier before := by
    rw [UInt32.lt_iff_toNat_lt] at before
    rw [Option.eq_none_iff_forall_ne_some]
    intro row marked
    rcases exists_headRow?_iff.mp ⟨row, marked⟩ with ⟨again, position, same, placed, marked⟩
    rw [table] at same
    cases same
    have missed := ((leastFrom_eq_some_iff _ _ _ _).mp found).2.2.2 position (Nat.zero_le _)
      (by omega)
    rw [marked, beq_self_eq_true] at missed
    cases missed

theorem FirstMarked.unique {other : UInt32} (first : container.FirstMarked mark line)
    (also : container.FirstMarked mark other) : line = other := by
  have none_before {early late : UInt32} (early_first : container.FirstMarked mark early)
      (late_first : container.FirstMarked mark late) : ¬ early < late := by
    intro before
    rcases early_first.present with ⟨row, present⟩
    rw [late_first.absent early before] at present
    cases present
  apply UInt32.le_antisymm
  · exact UInt32.not_lt.mp (none_before also first)
  · exact UInt32.not_lt.mp (none_before first also)

/-- A row that a search of the table comes to stands at a line. -/
theorem exists_line_of_find? {head : Table} {index : Nat} (table : container.table .head = .ok head)
    (found : head.find? mark = some index) :
    exists line : UInt32, line.toNat = index + 1 ∧ container.FirstMarked mark line := by
  rcases Table.exists_rowAt_of_markAt? (Table.markAt?_of_find? found) with ⟨row, read, _⟩
  have placed := (lineIndex_eq_ok_iff.mp (lineIndex_succ table read)).1
  exact ⟨UInt32.ofNat (index + 1), placed, firstMarked_of_find? table found placed⟩

theorem FirstMarked.exists_find? (first : container.FirstMarked mark line) :
    exists head index, container.table .head = .ok head ∧ head.find? mark = some index ∧
      line.toNat = index + 1 := by
  rcases exists_headRow?_iff.mp first.present with ⟨head, _, table, _, marked⟩
  rcases Table.exists_find?_of_markAt? marked with ⟨index, found⟩
  rcases exists_line_of_find? table found with ⟨other, placed, also⟩
  cases first.unique also
  exact ⟨head, index, table, found, placed⟩

/-- Either no line has the mark, or one is the first. -/
theorem absent_or_firstMarked (container : Container) (mark : UInt8) :
    (forall line, container.headRow? line mark = none) ∨
      exists line, container.FirstMarked mark line := by
  by_cases absent : forall line, container.headRow? line mark = none
  · exact Or.inl absent
  · right
    rw [not_forall] at absent
    rcases absent with ⟨line, present⟩
    rcases exists_headRow?_iff.mp (Option.ne_none_iff_exists'.mp present) with
      ⟨head, _, table, _, marked⟩
    rcases Table.exists_find?_of_markAt? marked with ⟨index, found⟩
    rcases exists_line_of_find? table found with ⟨first, _, firstMarked⟩
    exact ⟨first, firstMarked⟩

/-! ## What a search comes to -/

/-- What a search answers if it comes to a line at which the lookup has the given outcome. -/
def answerAt (line : UInt32) (outcome : Except Fault ColumnText) :
    Except Abort (Option HeadMatch) :=
  (attempt outcome).map (Option.map (HeadMatch.mk line))

section AnswerAt

variable {outcome : Except Fault ColumnText}

theorem answerAt_eq_some_iff {hit : HeadMatch} :
    answerAt line outcome = .ok (some hit) <-> line = hit.line ∧ outcome = .ok hit.text := by
  cases outcome with
  | ok text =>
      cases hit
      simp [answerAt, Except.map]
  | error fault =>
      cases fault with
      | error error => simp [answerAt, Except.map]
      | abort reason => simp [answerAt, Except.map]

theorem answerAt_eq_none_iff :
    answerAt line outcome = .ok none <-> exists error, outcome = .error (.error error) := by
  cases outcome with
  | ok text => simp [answerAt, Except.map]
  | error fault =>
      cases fault with
      | error error => simp [answerAt, Except.map]
      | abort reason => simp [answerAt, Except.map]

theorem answerAt_eq_error_iff {reason : Abort} :
    answerAt line outcome = .error reason <-> outcome = .error (.abort reason) := by
  cases outcome with
  | ok text => simp [answerAt, Except.map]
  | error fault =>
      cases fault with
      | error error => simp [answerAt, Except.map]
      | abort other => simp [answerAt, Except.map]

end AnswerAt

theorem findHead_of_absent (absent : forall line, container.headRow? line mark = none)
    (column : UInt16) : container.findHead mark column = .ok none := by
  unfold findHead
  cases table : container.table .head with
  | error refusal => rfl
  | ok head =>
      cases found : head.find? mark with
      | none => simp [found]
      | some index =>
          rcases exists_line_of_find? table found with ⟨line, _, first⟩
          rcases first.present with ⟨row, present⟩
          rw [absent] at present
          cases present

/-- A search comes to what a lookup at the first line with the mark comes to. -/
theorem FirstMarked.findHead_eq (first : container.FirstMarked mark line) (column : UInt16) :
    container.findHead mark column = answerAt line (container.columnAt .head line column) := by
  rcases first.exists_find? with ⟨head, index, table, found, placed⟩
  have counted : lineIndex line (container.length .head) = .ok index := by
    have below := Nat.lt_of_lt_of_eq
      ((leastFrom_eq_some_iff _ _ _ _).mp found).2.1 (Nat.zero_add head.length)
    rw [Table.length, header_of_table table] at below
    exact lineIndex_eq_ok_iff.mpr ⟨placed, below⟩
  have same : container.columnAt .head line column = head.columnAt index column := by
    simp [columnAt, counted, table]
  have named : UInt32.ofNat (index + 1) = line := by
    rw [<- placed, UInt32.ofNat_toNat]
  unfold findHead answerAt
  simp only [table, found, same, named]
  cases attempt (head.columnAt index column) with
  | error reason => rfl
  | ok answer =>
      cases answer with
      | none => rfl
      | some text => rfl

/-- The two ways in which a search ends. -/
theorem findHead_eq_iff {found : Except Abort (Option HeadMatch)} :
    container.findHead mark column = found <->
      (forall line, container.headRow? line mark = none) ∧ found = .ok none ∨
        exists line, container.FirstMarked mark line ∧
          answerAt line (container.columnAt .head line column) = found := by
  constructor
  · rintro rfl
    rcases container.absent_or_firstMarked mark with absent | ⟨line, first⟩
    · exact Or.inl ⟨absent, findHead_of_absent absent column⟩
    · exact Or.inr ⟨line, first, (first.findHead_eq column).symm⟩
  · rintro (⟨absent, rfl⟩ | ⟨line, first, rfl⟩)
    · exact findHead_of_absent absent column
    · exact first.findHead_eq column

/-- Whatever the octets of a container are, a search comes to the first line at which there is a
row with the mark: to the text of the column if that row has it, to nothing if reading it
fails or no line has the mark, and to a stop if reading it stops.  Without the line, the text
is found just the same. -/
theorem search_comes_to_first (container : Container) (mark : UInt8) (column : UInt16) :
    (forall hit, container.findHead mark column = .ok (some hit) <->
        container.FirstMarked mark hit.line ∧
          container.columnAt .head hit.line column = .ok hit.text) ∧
      (container.findHead mark column = .ok none <->
        (forall line, container.headRow? line mark = none) ∨
          exists line error, container.FirstMarked mark line ∧
            container.columnAt .head line column = .error (.error error)) ∧
      (forall reason, container.findHead mark column = .error reason <->
        exists line, container.FirstMarked mark line ∧
          container.columnAt .head line column = .error (.abort reason)) ∧
      container.headFor mark column =
        (container.findHead mark column).map (Option.map HeadMatch.text) := by
  refine ⟨fun hit => ?_, ?_, fun reason => ?_, ?_⟩
  · rw [findHead_eq_iff]
    constructor
    · rintro (⟨_, impossible⟩ | ⟨line, first, given⟩)
      · cases impossible
      · rcases answerAt_eq_some_iff.mp given with ⟨rfl, read⟩
        exact ⟨first, read⟩
    · rintro ⟨first, read⟩
      exact Or.inr ⟨hit.line, first, answerAt_eq_some_iff.mpr ⟨rfl, read⟩⟩
  · rw [findHead_eq_iff]
    constructor
    · rintro (⟨absent, _⟩ | ⟨line, first, missed⟩)
      · exact Or.inl absent
      · rcases answerAt_eq_none_iff.mp missed with ⟨error, refused⟩
        exact Or.inr ⟨line, error, first, refused⟩
    · rintro (absent | ⟨line, error, first, refused⟩)
      · exact Or.inl ⟨absent, rfl⟩
      · exact Or.inr ⟨line, first, answerAt_eq_none_iff.mpr ⟨error, refused⟩⟩
  · rw [findHead_eq_iff]
    constructor
    · rintro (⟨_, impossible⟩ | ⟨line, first, stopped⟩)
      · cases impossible
      · exact ⟨line, first, answerAt_eq_error_iff.mp stopped⟩
    · rintro ⟨line, first, stopped⟩
      exact Or.inr ⟨line, first, answerAt_eq_error_iff.mpr stopped⟩
  · unfold headFor
    cases container.findHead mark column with
    | error reason => rfl
    | ok found => rfl

end Container
end MappedTables
