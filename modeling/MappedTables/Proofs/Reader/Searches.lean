import Mathlib.Control.Monad.Basic
import MappedTables.Container.HeadCursor
import MappedTables.Proofs.Reader.Found

namespace MappedTables

/-!
Searches with a remembered line.

A cursor goes from lookup to lookup, and from container to container, with the
line of its last hit.  Nothing is known of that line when it is tried: the
container may have fewer lines, the row there may have another mark, may lack the
column or may not be readable at all.  A lookup is sound nevertheless, because it
looks at the row before it answers; it is complete, because it searches the whole
table before it gives up; and where a mark is not shared the remembered row can
only be the one that the search would have found, so that the answer is that of a
search without a cursor, be it a text, a miss or a stop.
-/

namespace Table

variable {table : Table} {index : Nat} {mark : UInt8}

theorem markAt?_of_rowAt {row : Row} (read : table.rowAt index = .ok row) :
    table.markAt? index = row.mark? := by
  rw [markAt?, read]

theorem markAt?_of_find? (found : table.find? mark = some index) :
    table.markAt? index = some mark := by
  have holds := ((leastFrom_eq_some_iff _ _ _ _).mp found).2.2.1
  exact beq_iff_eq.mp holds

/-- Only a row that can be read has a mark. -/
theorem exists_rowAt_of_markAt? (marked : table.markAt? index = some mark) :
    exists row, table.rowAt index = .ok row ∧ row.mark? = some mark := by
  unfold markAt? at marked
  cases read : table.rowAt index with
  | error refusal =>
      rw [read] at marked
      cases marked
  | ok row =>
      rw [read] at marked
      exact ⟨row, rfl, marked⟩

/-- A table with a marked row has a first one. -/
theorem exists_find?_of_markAt? (marked : table.markAt? index = some mark) :
    exists first, table.find? mark = some first := by
  rcases exists_rowAt_of_markAt? marked with ⟨row, read, _⟩
  have below := lt_length_of_rowAt read
  cases searched : table.find? mark with
  | some first => exact ⟨first, rfl⟩
  | none =>
      have missed := (leastFrom_eq_none_iff _ _ _).mp searched index (Nat.zero_le _) (by omega)
      rw [marked, beq_self_eq_true] at missed
      cases missed

end Table

namespace Container

/-- At most one head row that can be read has the mark. -/
def MarkedOnce (container : Container) (mark : UInt8) : Prop :=
  forall head, container.table .head = .ok head -> forall one other,
    head.markAt? one = some mark -> head.markAt? other = some mark -> one = other

variable {container : Container} {mark : UInt8} {column : UInt16}

/-- A text was found at a line: the row there has the mark, and the text is its column. -/
def Shows (container : Container) (mark : UInt8) (column : UInt16) (line : UInt32)
    (text : ColumnText) : Prop :=
  (exists row, container.headRow? line mark = some row) ∧
    container.columnAt .head line column = .ok text

theorem shows_of_findHead {hit : HeadMatch}
    (found : container.findHead mark column = .ok (some hit)) :
    container.Shows mark column hit.line hit.text := by
  rcases findHead_eq_some_iff.mp found with ⟨head, index, row, table, first, read, given, line⟩
  have counted := lineIndex_succ table read
  rw [<- line] at counted
  have marked : row.mark? = some mark := by
    rw [<- Table.markAt?_of_rowAt read]
    exact Table.markAt?_of_find? first
  exact ⟨⟨row, (headRow?_eq_some_iff container).mpr ⟨head, index, counted, table, read, marked⟩⟩,
    columnAt_eq_ok_iff.mpr ⟨index, head, row, counted, table, read, given⟩⟩

/-- The column of a row that was found at its line. -/
theorem columnAt_of_headRow? {line : UInt32} {row : Row} {text : ColumnText}
    (marked : container.headRow? line mark = some row) (given : row.column column = .ok text) :
    container.columnAt .head line column = .ok text := by
  rcases (headRow?_eq_some_iff container).mp marked with ⟨head, index, counted, table, read, _⟩
  exact columnAt_eq_ok_iff.mpr ⟨index, head, row, counted, table, read, given⟩

/-- A search for a mark that only one row has comes down to that row. -/
theorem MarkedOnce.headFor_eq (once : container.MarkedOnce mark) {line : UInt32} {row : Row}
    (marked : container.headRow? line mark = some row) :
    container.headFor mark column = attempt (row.column column) := by
  rcases (headRow?_eq_some_iff container).mp marked with ⟨head, index, _, table, read, same⟩
  have here : head.markAt? index = some mark := by
    rw [Table.markAt?_of_rowAt read]
    exact same
  rcases Table.exists_find?_of_markAt? here with ⟨first, found⟩
  cases once head table first index (Table.markAt?_of_find? found) here
  have given : head.columnAt index column = row.column column := by
    rw [Table.columnAt, read]
    rfl
  unfold headFor findHead
  simp only [table, found, given]
  cases attempt (row.column column) with
  | error reason => rfl
  | ok answer =>
      cases answer with
      | none => rfl
      | some text => rfl

end Container

namespace HeadCursor

variable {cursor after : HeadCursor} {container : Container} {mark : UInt8} {column : UInt16}

/-! ## One lookup -/

/-- The remembered row answers only if it is there, has the mark and has the column. -/
theorem tryHint_eq_some_iff {text : ColumnText} :
    cursor.tryHint container mark column = .ok (some text) <->
      exists line row, cursor.lastLine = some line ∧
        container.headRow? line mark = some row ∧ row.column column = .ok text := by
  unfold tryHint
  cases cursor.lastLine with
  | none => simp
  | some line =>
      cases marked : container.headRow? line mark with
      | none => simp [marked]
      | some row => simp [marked, Outcome.attempt_eq_some_iff]

/-- Either the remembered row answers, or the whole table is searched. -/
theorem lookup_eq_ok_iff {answer : Option ColumnText} :
    cursor.lookup container mark column = .ok (answer, after) <->
      (exists text, cursor.tryHint container mark column = .ok (some text) ∧
          answer = some text ∧ after = cursor) ∨
        cursor.tryHint container mark column = .ok none ∧
          exists found, container.findHead mark column = .ok found ∧
            answer = found.map (·.text) ∧
            after = (found.map fun hit => ⟨some hit.line⟩).getD cursor := by
  unfold lookup
  rw [Outcome.bind_eq_ok_iff]
  constructor
  · rintro ⟨tried, hinted, rest⟩
    cases tried with
    | some text =>
        cases rest
        exact Or.inl ⟨text, hinted, rfl, rfl⟩
    | none =>
        rcases Outcome.bind_eq_ok_iff.mp rest with ⟨found, searched, rest⟩
        cases found with
        | none =>
            cases rest
            exact Or.inr ⟨hinted, none, searched, rfl, rfl⟩
        | some hit =>
            cases rest
            exact Or.inr ⟨hinted, some hit, searched, rfl, rfl⟩
  · rintro (⟨text, hinted, rfl, rfl⟩ | ⟨hinted, found, searched, rfl, rfl⟩)
    · exact ⟨some text, hinted, rfl⟩
    · refine ⟨none, hinted, Outcome.bind_eq_ok_iff.mpr ⟨found, searched, ?_⟩⟩
      cases found with
      | none => rfl
      | some hit => rfl

/-- A text that a lookup gives is at the line that the cursor remembers from then on. -/
theorem shows_of_lookup {text : ColumnText}
    (looked : cursor.lookup container mark column = .ok (some text, after)) :
    exists line, after.lastLine = some line ∧ container.Shows mark column line text := by
  rcases lookup_eq_ok_iff.mp looked with ⟨other, hinted, same, rfl⟩ | ⟨_, found, searched, same, rfl⟩
  · cases same
    rcases tryHint_eq_some_iff.mp hinted with ⟨line, row, remembered, marked, given⟩
    exact ⟨line, remembered, ⟨row, marked⟩, Container.columnAt_of_headRow? marked given⟩
  · cases found with
    | none => cases same
    | some hit =>
        cases same
        exact ⟨hit.line, rfl, Container.shows_of_findHead searched⟩

/-- A lookup that gives nothing has searched the whole table and remembers what it did. -/
theorem missed_of_lookup (looked : cursor.lookup container mark column = .ok (none, after)) :
    after = cursor ∧ container.headFor mark column = .ok none := by
  rcases lookup_eq_ok_iff.mp looked with ⟨_, _, same, _⟩ | ⟨_, found, searched, same, rfl⟩
  · cases same
  · cases found with
    | some hit => cases same
    | none =>
        refine ⟨rfl, ?_⟩
        rw [Container.headFor, searched]
        rfl

/-- Where a mark is not shared, what is remembered makes no difference to the answer. -/
theorem lookup_of_markedOnce (once : container.MarkedOnce mark) (cursor : HeadCursor)
    (column : UInt16) :
    (cursor.lookup container mark column).map Prod.fst = container.headFor mark column := by
  -- A row that is tried is the one that the search finds, and whatever keeps its column from
  -- being read keeps the search from it.
  have tried : cursor.tryHint container mark column = .ok none ∨
      cursor.tryHint container mark column = container.headFor mark column := by
    unfold tryHint
    cases cursor.lastLine with
    | none => exact Or.inl rfl
    | some line =>
        cases marked : container.headRow? line mark with
        | none => simp [marked]
        | some row =>
            simp only [marked]
            exact Or.inr (once.headFor_eq marked).symm
  have searched : cursor.tryHint container mark column = .ok none ->
      (cursor.lookup container mark column).map Prod.fst = container.headFor mark column := by
    intro hinted
    unfold lookup Container.headFor
    rw [hinted]
    cases container.findHead mark column with
    | error reason => rfl
    | ok found =>
        cases found with
        | none => rfl
        | some hit => rfl
  rcases tried with nothing | same
  · exact searched nothing
  · cases hinted : cursor.tryHint container mark column with
    | error reason =>
        rw [<- same, hinted, lookup, hinted]
        rfl
    | ok answer =>
        cases answer with
        | none => exact searched hinted
        | some text =>
            rw [<- same, hinted, lookup, hinted]
            rfl

/-! ## Runs of lookups -/

/-- A lookup as it is asked for. -/
structure Call where
  container : Container
  mark : UInt8
  column : UInt16

/-- A lookup as it was carried out. -/
structure Record where
  call : Call
  before : HeadCursor
  outcome : Except Abort (Option ColumnText)
  after : HeadCursor

/-- Carry out a lookup; one that stops leaves the cursor as it was. -/
def carryOut (cursor : HeadCursor) (call : Call) : Record :=
  match cursor.lookup call.container call.mark call.column with
  | .ok (answer, after) => { call, before := cursor, outcome := .ok answer, after }
  | .error reason => { call, before := cursor, outcome := .error reason, after := cursor }

/-- Carry out lookups one after the other, each with what the one before it left. -/
def run (cursor : HeadCursor) : List Call -> List Record
  | [] => []
  | call :: rest => cursor.carryOut call :: (cursor.carryOut call).after.run rest

/-- What can be relied on in every lookup. -/
structure Record.Reliable (record : Record) : Prop where
  sound : forall text, record.outcome = .ok (some text) ->
    exists line, record.after.lastLine = some line ∧
      record.call.container.Shows record.call.mark record.call.column line text
  complete : record.outcome = .ok none ->
    record.after.lastLine = record.before.lastLine ∧
      record.call.container.headFor record.call.mark record.call.column = .ok none
  transparent : record.call.container.MarkedOnce record.call.mark ->
    record.outcome = record.call.container.headFor record.call.mark record.call.column

/-- What carrying out a lookup records. -/
theorem carryOut_eq (cursor : HeadCursor) (call : Call) :
    (exists answer after, cursor.lookup call.container call.mark call.column = .ok (answer, after) ∧
        cursor.carryOut call = ⟨call, cursor, .ok answer, after⟩) ∨
      exists reason, cursor.lookup call.container call.mark call.column = .error reason ∧
        cursor.carryOut call = ⟨call, cursor, .error reason, cursor⟩ := by
  unfold carryOut
  cases cursor.lookup call.container call.mark call.column with
  | ok found => exact Or.inl ⟨found.1, found.2, rfl, rfl⟩
  | error reason => exact Or.inr ⟨reason, rfl, rfl⟩

/-- No cursor, whatever it remembers, makes a lookup unreliable. -/
theorem reliable_carryOut (cursor : HeadCursor) (call : Call) :
    (cursor.carryOut call).Reliable := by
  have transparent := fun once : call.container.MarkedOnce call.mark =>
    lookup_of_markedOnce once cursor call.column
  rcases carryOut_eq cursor call with ⟨answer, after, looked, carried⟩ | ⟨reason, looked, carried⟩
  · rw [looked] at transparent
    rw [carried]
    refine ⟨?_, ?_, transparent⟩
    · intro text given
      cases given
      exact shows_of_lookup looked
    · intro missed
      cases missed
      rcases missed_of_lookup looked with ⟨rfl, none⟩
      exact ⟨rfl, none⟩
  · rw [looked] at transparent
    rw [carried]
    exact ⟨nofun, nofun, transparent⟩

/-- Every lookup of every run is reliable, with any line to start from and any containers. -/
theorem reliable_of_mem_run (start : HeadCursor) (calls : List Call) {record : Record}
    (member : record ∈ start.run calls) : record.Reliable := by
  induction calls generalizing start with
  | nil => cases member
  | cons call rest ih =>
      rcases List.mem_cons.mp member with rfl | later
      · exact reliable_carryOut start call
      · exact ih (start.carryOut call).after later

/-! ## Two rows with one mark -/

/-- The columns `B` and `w`. -/
def wideRow : RowHeader where
  textWord := 132
  startsWord := 128
  length := 4
  columns := 2
  modeFlag := 1
  reserved := 0

/-- The column `B`. -/
def narrowRow : RowHeader where
  textWord := 138
  startsWord := 136
  length := 2
  columns := 1
  modeFlag := 1
  reserved := 0

/-- A container whose two head rows have the same mark, the second of them with one column. -/
def twinHeader : ContainerHeader where
  magic := containerMagic
  layoutVersion := MappedTables.layoutVersion
  modeFlag := 1
  reserved := 0
  head := { arrayWord := 80, length := 2, capacity := 2, modeFlag := 1, reserved := 0 }
  data := { arrayWord := 128, length := 0, capacity := 0, modeFlag := 1, reserved := 0 }
  capacity := 140
  versionWord := 0

def twinContainer : Container where
  span :=
    { base := 4096
      bytes := (StoredHeader.encode twinHeader ++ StoredHeader.encode wideRow ++
        StoredHeader.encode narrowRow ++ [0, 0, 2, 0, 66, 0, 119, 0, 0, 0, 66, 0]).toArray }
  header := twinHeader
  mode := .relocatable

/-- The second line is remembered, answers for the first column, and lacks the other one. -/
def twinRun : List Record :=
  (ofHint 2).run [⟨twinContainer, 66, 1⟩, ⟨twinContainer, 66, 2⟩]

theorem reliable_of_mem_run_twin :
    Container.ofSpan twinContainer.span = .ok twinContainer ∧
      exists first second, twinRun = [first, second] ∧
        (first.outcome = .ok (some ⟨4234, #[66]⟩) ∧ first.after.lastLine = some 2) ∧
        (second.outcome = .ok (some ⟨4230, #[119]⟩) ∧ second.after.lastLine = some 1) ∧
        first ∈ twinRun ∧ first.Reliable ∧ second ∈ twinRun ∧ second.Reliable := by
  have opened : Container.ofSpan twinContainer.span = .ok twinContainer := by decide +kernel
  have outcomes : twinRun.map (fun record => (record.outcome, record.after.lastLine)) =
      [(.ok (some ⟨4234, #[66]⟩), some 2), (.ok (some ⟨4230, #[119]⟩), some 1)] := by
    decide +kernel
  have shape : exists first second, twinRun = [first, second] := ⟨_, _, rfl⟩
  rcases shape with ⟨first, second, whole⟩
  rw [whole] at outcomes
  have here : first ∈ twinRun := by simp [whole]
  have there : second ∈ twinRun := by simp [whole]
  simp only [List.map_cons, List.map_nil, List.cons.injEq, Prod.mk.injEq, and_true] at outcomes
  exact ⟨opened, first, second, whole, outcomes.1, outcomes.2, here,
    reliable_of_mem_run _ _ here, there, reliable_of_mem_run _ _ there⟩

end HeadCursor
end MappedTables
