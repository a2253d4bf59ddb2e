import Mathlib.Algebra.Order.Ring.Nat
import MappedTables.Proofs.Draft.Source

namespace MappedTables

/-!
Filling a draft in place.

A draft is filled by a writer who keeps it: a row that is refused must leave the
draft as it was.  It does, for the row is built before the draft is touched, and
the table is asked whether it takes another row before its slots are counted
anew.  The limits of a row are asked at three moments, for each start while the
row is built and for its text and its columns at the end.  They come to one, that
of the text with its terminators, because a column has a terminator of its own.
-/

/-- A change of a draft in place, which may fail.  What it leaves then is part of the outcome. -/
abbrev Filling := ExceptT Error (StateM Draft)

namespace Draft

/-- The draft with another table. -/
def withTable (draft : Draft) (kind : TableKind) (table : DraftTable) : Draft :=
  match kind with
  | .head => { draft with head := table }
  | .data => { draft with data := table }

/-- Build a row, make sure of a slot for it and put it behind the others. -/
def append (kind : TableKind) (columns : List Bytes) : Filling Unit := do
  let row ← ExceptT.mk (pure (DraftRow.ofColumns columns))
  if tableLimit <= (← get).length kind then
    throw (.invalidParameter .tooManyRows)
  modify fun draft =>
    let table := draft.table kind
    if table.capacity <= table.rows.size then
      draft.withTable kind { table with capacity := DraftTable.grow table.capacity }
    else draft
  modify fun draft =>
    let table := draft.table kind
    draft.withTable kind { table with rows := table.rows.push row }

@[simp] theorem table_withTable (draft : Draft) (kind : TableKind) (table : DraftTable) :
    (draft.withTable kind table).table kind = table := by
  cases kind with
  | head => rfl
  | data => rfl

theorem table_withTable_of_ne {kind other : TableKind} (apart : other ≠ kind) (draft : Draft)
    (table : DraftTable) : (draft.withTable kind table).table other = draft.table other := by
  cases kind with
  | head =>
      cases other with
      | head => exact absurd rfl apart
      | data => rfl
  | data =>
      cases other with
      | head => rfl
      | data => exact absurd rfl apart

@[simp] theorem version_withTable (draft : Draft) (kind : TableKind) (table : DraftTable) :
    (draft.withTable kind table).version = draft.version := by
  cases kind with
  | head => rfl
  | data => rfl

@[simp] theorem withTable_withTable (draft : Draft) (kind : TableKind)
    (first second : DraftTable) :
    (draft.withTable kind first).withTable kind second = draft.withTable kind second := by
  cases kind with
  | head => rfl
  | data => rfl

/-- A row is pushed by pushing it to its table. -/
theorem push_eq_map (draft : Draft) (kind : TableKind) (columns : List Bytes) :
    draft.push kind columns =
      DraftRow.ofColumns columns >>= fun row =>
        ((draft.table kind).push row).map (draft.withTable kind) := by
  unfold push
  cases DraftRow.ofColumns columns with
  | error error => rfl
  | ok row =>
      cases kind with
      | head =>
          change (draft.head.push row >>= _) = (draft.head.push row).map _
          cases draft.head.push row with
          | error error => rfl
          | ok table => rfl
      | data =>
          change (draft.data.push row >>= _) = (draft.data.push row).map _
          cases draft.data.push row with
          | error error => rfl
          | ok table => rfl

/-- Filling in place comes to what a push comes to, and a failure leaves the draft alone. -/
theorem append_apply (kind : TableKind) (columns : List Bytes) (draft : Draft) :
    append kind columns draft =
      match draft.push kind columns with
      | .ok grown => (.ok (), grown)
      | .error error => (.error error, draft) := by
  have read : (get : Filling Draft) draft = (.ok draft, draft) := rfl
  have changed (change : Draft -> Draft) (state : Draft) :
      (modify change : Filling Unit) state = (.ok (), change state) := rfl
  rw [append, push_eq_map, Outcome.bind_apply]
  cases built : DraftRow.ofColumns columns with
  | error error => rfl
  | ok row =>
      have taken : (ExceptT.mk (pure (.ok row)) : Filling DraftRow) draft = (.ok row, draft) := rfl
      simp only [Outcome.ok_bind, Outcome.bind_apply, taken, read]
      by_cases full : tableLimit <= draft.length kind
      · have refused : (draft.table kind).push row = .error (.invalidParameter .tooManyRows) :=
          if_pos full
        simp only [full, if_true, refused]
        rfl
      · have room : ¬ tableLimit <= (draft.table kind).rows.size := full
        simp only [full, if_false, Outcome.bind_apply, changed, DraftTable.push, room]
        by_cases atEnd : (draft.table kind).capacity <= (draft.table kind).rows.size
        · simp only [atEnd, if_true, table_withTable, withTable_withTable]
          rfl
        · simp only [atEnd, if_false]
          rfl

end Draft

/-! ## What a row is made of -/

namespace DraftRow

/-- A number that is stored in sixteen bits as it is. -/
def FitsWord (number : Nat) : Prop :=
  (UInt16.ofNat number).toNat = number

theorem fitsWord_of_le {number : Nat} (small : number <= rowLimit) : FitsWord number :=
  UInt16.toNat_ofNat_of_lt' (Nat.lt_succ_of_le small)

/-- The row consists of the columns, each with a terminator behind it, one after the other. -/
structure Spells (row : DraftRow) (columns : List Bytes) : Prop where
  text_eq : row.text.toList =
    columns.flatMap fun column => column.toList ++ [columnTerminator]
  size_starts : row.starts.size = columns.length
  start_eq : forall index (inside : index < row.starts.size),
    row.starts[index] = ((columns.take index).map fun column => column.size + 1).sum
  increasing : row.starts.toList.Pairwise (· < ·)
  start_lt : forall start, start ∈ row.starts -> start < row.text.size
  start_fits : forall start, start ∈ row.starts -> FitsWord start
  length_fits : FitsWord row.text.size
  columns_fit : FitsWord row.starts.size

/-- The text is as long as the columns with a terminator each. -/
theorem length_textOf (columns : List Bytes) :
    (textOf columns).length = (columns.map fun column => column.size + 1).sum := by
  induction columns with
  | nil => rfl
  | cons column rest ih =>
      rw [textOf_cons, List.length_append, ih, List.map_cons, List.sum_cons, List.length_append,
        Array.length_toList, List.length_singleton]

theorem admissible_iff {columns : List Bytes} :
    Admissible columns <->
      (forall column, column ∈ columns -> columnTerminator ∉ column) ∧
        (columns.map fun column => column.size + 1).sum <= rowLimit := by
  rw [<- length_textOf]
  constructor
  · intro admissible
    exact ⟨admissible.clean, admissible.room⟩
  · rintro ⟨clean, room⟩
    exact ⟨clean, room⟩

theorem Admissible.spells {columns : List Bytes} (admissible : Admissible columns) :
    (holding columns).Spells columns := by
  have room : (holding columns).text.size <= rowLimit := admissible.room
  have starts_lt : forall start, start ∈ (holding columns).starts ->
      start < (holding columns).text.size := by
    intro start member
    have bounds := (bounds_of_mem_startsFrom (List.mem_toArray.mp member)).2
    rw [Nat.zero_add] at bounds
    exact bounds
  have counted : (holding columns).starts.size = columns.length := length_startsFrom 0 columns
  constructor
  case text_eq => rfl
  case size_starts => exact counted
  case start_eq =>
    intro index inside
    have start : (holding columns).starts[index] = 0 + (textOf (columns.take index)).length :=
      @getElem_startsFrom 0 index columns inside
    rw [start, Nat.zero_add, length_textOf]
  case increasing => exact startsFrom_increasing 0 columns
  case start_lt => exact starts_lt
  case start_fits =>
    intro start member
    exact fitsWord_of_le (Nat.le_trans (Nat.le_of_lt (starts_lt start member)) room)
  case length_fits => exact fitsWord_of_le room
  case columns_fit =>
    rw [counted]
    exact fitsWord_of_le (Nat.le_trans (length_le_length_textOf columns) admissible.room)

end DraftRow

namespace Draft

/-- The row was put at the end of the table, and nothing else was changed. -/
structure Gains (draft : Draft) (kind : TableKind) (row : DraftRow) (grown : Draft) : Prop where
  version_eq : grown.version = draft.version
  rows_eq : (grown.table kind).rows = (draft.table kind).rows.push row
  other_eq : forall other, other ≠ kind -> grown.table other = draft.table other

theorem gains_of_push {draft grown : Draft} {kind : TableKind} {columns : List Bytes}
    (pushed : draft.push kind columns = .ok grown) :
    DraftRow.Admissible columns ∧ draft.Gains kind (DraftRow.holding columns) grown := by
  rw [push_eq_map] at pushed
  rcases Outcome.bind_eq_ok_iff.mp pushed with ⟨row, built, added⟩
  rcases (DraftRow.ofColumns_eq_ok_iff columns row).mp built with ⟨admissible, rfl⟩
  refine ⟨admissible, ?_⟩
  by_cases full : tableLimit <= (draft.table kind).rows.size
  · rw [DraftTable.push, if_pos full] at added
    cases added
  · rw [DraftTable.push, if_neg full] at added
    cases added
    constructor
    case version_eq => exact draft.version_withTable kind _
    case rows_eq => rw [table_withTable]
    case other_eq =>
      intro other apart
      exact table_withTable_of_ne apart draft _

/-- A table that is not full takes a row exactly if no column has a terminator in it and the
columns with a terminator each do not exceed the limit.  A refusal is one of an argument and
leaves the draft alone.  An admitted row is put at the end of its table, and all its numbers
fit into sixteen bits. -/
theorem push_admits_exactly {draft : Draft} {kind : TableKind}
    (room : draft.length kind < tableLimit) (columns : List Bytes) :
    ((exists grown, draft.push kind columns = .ok grown) <->
        (forall column, column ∈ columns -> columnTerminator ∉ column) ∧
          (columns.map fun column => column.size + 1).sum <= rowLimit) ∧
      (forall error, draft.push kind columns = .error error ->
        error.kind = .invalidParameter ∧
          append kind columns draft = (.error error, draft)) ∧
      forall grown, draft.push kind columns = .ok grown ->
        append kind columns draft = (.ok (), grown) ∧
          exists row, draft.Gains kind row grown ∧ row.Spells columns := by
  rw [<- DraftRow.admissible_iff]
  refine ⟨?_, ?_, ?_⟩
  · constructor
    · rintro ⟨grown, pushed⟩
      exact (gains_of_push pushed).1
    · intro admissible
      exact exists_pushed admissible room
  · intro error refused
    refine ⟨kind_of_push refused, ?_⟩
    rw [append_apply, refused]
  · intro grown pushed
    rcases gains_of_push pushed with ⟨admissible, gains⟩
    refine ⟨?_, DraftRow.holding columns, gains, admissible.spells⟩
    rw [append_apply, pushed]

/-- The longest column that a row can consist of, and one that is longer by an octet. -/
theorem push_admits_exactly_longest :
    ({} : Draft).length .data < tableLimit ∧
      (exists grown, ({} : Draft).push .data [Array.replicate 65534 97] = .ok grown) ∧
      ¬ exists grown, ({} : Draft).push .data [Array.replicate 65535 97] = .ok grown := by
  have room : ({} : Draft).length .data < tableLimit := by decide
  refine ⟨room, (push_admits_exactly room _).1.mpr ⟨?_, ?_⟩, ?_⟩
  · intro column member
    rw [List.mem_singleton.mp member, Array.mem_replicate]
    decide
  · simp [rowLimit]
  · intro admitted
    have bounded := ((push_admits_exactly room _).1.mp admitted).2
    simp [rowLimit] at bounded

end Draft
end MappedTables
