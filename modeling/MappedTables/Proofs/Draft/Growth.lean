import Mathlib.Data.Nat.Log
import Mathlib.Order.Bounds.Basic
import MappedTables.Proofs.Draft.Filling
import MappedTables.Proofs.Image.Reading

namespace MappedTables

/-!
How many slots a table has.

A table is given more slots only when a row arrives and all of them are in use,
and then about as many again as it has.  The sizes that a table can have on the
way are the powers of two from sixteen on and, as the last doubling does not fit
into thirty-two bits, the greatest number that does.  They form a ladder with
growing as the step to the next rung.  A full table has as many rows as slots,
so the next rung is the least that takes one row more: the table always stands
on the least rung that holds its rows, whatever was refused in between.
-/

namespace DraftTable

/-- The numbers of slots that a table with rows can have. -/
def rungs : Set Nat :=
  {size | (exists exponent, 4 <= exponent ∧ exponent <= 31 ∧ size = 2 ^ exponent) ∨
    size = tableLimit}

/-- A table of so many rows has no slots or the least number of slots that suffices. -/
structure Sized (rows capacity : Nat) : Prop where
  none : rows = 0 -> capacity = 0
  least : 0 < rows -> IsLeast {size | size ∈ rungs ∧ rows <= size} capacity

/-- The number of slots of a table with so many rows. -/
def slotsFor (rows : Nat) : Nat :=
  if rows = 0 then 0 else min (2 ^ max 4 (Nat.clog 2 rows)) tableLimit

/-! ## The ladder -/

theorem initialCapacity_mem_rungs : initialCapacity ∈ rungs :=
  Or.inl ⟨4, by decide⟩

theorem initialCapacity_le_of_mem_rungs {size : Nat} (rung : size ∈ rungs) :
    initialCapacity <= size := by
  rcases rung with ⟨exponent, low, -, rfl⟩ | rfl
  · exact Nat.pow_le_pow_right (by decide : 0 < 2) low
  · decide

theorem grow_of_mem_rungs {size : Nat} (rung : size ∈ rungs) :
    grow size = min (2 * size) tableLimit := by
  have least := initialCapacity_le_of_mem_rungs rung
  rw [grow, if_neg]
  intro empty
  rw [empty] at least
  exact absurd least (by decide)

/-- Growing leads from a rung to a rung. -/
theorem grow_mem_rungs {size : Nat} (rung : size ∈ rungs) : grow size ∈ rungs := by
  rw [grow_of_mem_rungs rung]
  rcases rung with ⟨exponent, low, high, rfl⟩ | rfl
  · rw [<- Nat.pow_succ']
    by_cases last : exponent = 31
    · -- Twice the last power is one more than the limit, and is cut to it.
      right
      rw [last]
      decide
    · have next : 2 ^ (exponent + 1) <= 2 ^ 31 :=
        Nat.pow_le_pow_right (by decide) (by omega)
      left
      refine ⟨exponent + 1, by omega, by omega, Nat.min_eq_left ?_⟩
      exact Nat.le_trans next (by decide)
  · right
    decide

/-- No rung is passed over. -/
theorem grow_le_of_lt {size other : Nat} (rung : size ∈ rungs) (otherRung : other ∈ rungs)
    (above : size < other) : grow size <= other := by
  rw [grow_of_mem_rungs rung]
  rcases otherRung with ⟨otherExponent, -, -, rfl⟩ | rfl
  · rcases rung with ⟨exponent, -, -, rfl⟩ | rfl
    · have below : exponent < otherExponent := (Nat.pow_lt_pow_iff_right (by decide)).mp above
      rw [<- Nat.pow_succ']
      exact Nat.le_trans (Nat.min_le_left _ _) (Nat.pow_le_pow_right (by decide) below)
    · exact Nat.le_trans (Nat.min_le_right _ _) (Nat.le_of_lt above)
  · exact Nat.min_le_right _ _

/-! ## The least rung -/

namespace Sized

variable {rows capacity : Nat}

theorem le (sized : Sized rows capacity) : rows <= capacity := by
  by_cases empty : rows = 0
  · exact empty ▸ Nat.zero_le _
  · exact (sized.least (Nat.pos_of_ne_zero empty)).1.2

theorem unique {other : Nat} (sized : Sized rows capacity) (otherSized : Sized rows other) :
    capacity = other := by
  by_cases empty : rows = 0
  · rw [sized.none empty, otherSized.none empty]
  · have some := Nat.pos_of_ne_zero empty
    exact (sized.least some).unique (otherSized.least some)

/-- A table that is not full keeps its slots. -/
theorem of_lt (sized : Sized rows capacity) (free : rows < capacity) :
    Sized (rows + 1) capacity := by
  have some : 0 < rows := by
    apply Nat.pos_of_ne_zero
    intro empty
    rw [sized.none empty] at free
    exact absurd free (Nat.not_lt_zero rows)
  have least := sized.least some
  refine ⟨fun none => absurd none (Nat.succ_ne_zero rows), fun _ => ⟨⟨least.1.1, free⟩, ?_⟩⟩
  rintro size ⟨rung, enough⟩
  exact least.2 ⟨rung, Nat.le_of_succ_le enough⟩

/-- A full table goes on to the next rung. -/
theorem of_full (sized : Sized rows capacity) (full : capacity <= rows)
    (room : rows < tableLimit) : Sized (rows + 1) (grow capacity) := by
  have exactFit : capacity = rows := Nat.le_antisymm full sized.le
  have larger : rows + 1 <= grow capacity := by
    rw [exactFit]
    exact (lt_grow room).1
  refine ⟨fun none => absurd none (Nat.succ_ne_zero rows), fun _ => ?_⟩
  by_cases empty : rows = 0
  · have first : grow capacity = initialCapacity := by
      rw [sized.none empty]
      rfl
    refine ⟨⟨first ▸ initialCapacity_mem_rungs, larger⟩, ?_⟩
    rintro size ⟨rung, -⟩
    rw [first]
    exact initialCapacity_le_of_mem_rungs rung
  · -- The table stands on a rung, and whatever takes one row more is above it.
    have rung := (sized.least (Nat.pos_of_ne_zero empty)).1.1
    refine ⟨⟨grow_mem_rungs rung, larger⟩, ?_⟩
    rintro size ⟨otherRung, enough⟩
    refine grow_le_of_lt rung otherRung ?_
    rw [exactFit]
    exact enough

end Sized

/-- The least rung is known without climbing. -/
theorem sized_slotsFor {rows : Nat} (few : rows <= tableLimit) : Sized rows (slotsFor rows) := by
  refine ⟨fun empty => if_pos empty, fun some => ?_⟩
  have enough : rows <= 2 ^ max 4 (Nat.clog 2 rows) :=
    Nat.le_trans (Nat.le_pow_clog (by decide) rows)
      (Nat.pow_le_pow_right (by decide) (Nat.le_max_right _ _))
  rw [slotsFor, if_neg (Nat.ne_of_gt some)]
  refine ⟨⟨?_, Nat.le_min.mpr ⟨enough, few⟩⟩, ?_⟩
  · by_cases high : max 4 (Nat.clog 2 rows) <= 31
    · have small : 2 ^ max 4 (Nat.clog 2 rows) <= 2 ^ 31 :=
        Nat.pow_le_pow_right (by decide) high
      left
      exact ⟨_, Nat.le_max_left _ _, high, Nat.min_eq_left (Nat.le_trans small (by decide))⟩
    · have large : 2 ^ 32 <= 2 ^ max 4 (Nat.clog 2 rows) :=
        Nat.pow_le_pow_right (by decide) (Nat.lt_of_not_le high)
      right
      exact Nat.min_eq_right (Nat.le_trans (by decide) large)
  · rintro size ⟨rung, enoughSlots⟩
    rcases rung with ⟨exponent, low, -, rfl⟩ | rfl
    · have reached : max 4 (Nat.clog 2 rows) <= exponent :=
        Nat.max_le.mpr ⟨low, Nat.clog_le_of_le_pow enoughSlots⟩
      exact Nat.le_trans (Nat.min_le_left _ _) (Nat.pow_le_pow_right (by decide) reached)
    · exact Nat.min_le_right _ _

example : (List.range 18).map slotsFor = 0 :: List.replicate 16 16 ++ [32] := by decide

/-! ## Pushing -/

/-- A push that is admitted leads from the least rung to the least rung. -/
theorem sized_push {table grown : DraftTable} {row : DraftRow}
    (sized : Sized table.rows.size table.capacity) (pushed : table.push row = .ok grown) :
    Sized grown.rows.size grown.capacity := by
  unfold push at pushed
  by_cases most : tableLimit <= table.rows.size
  · rw [if_pos most] at pushed
    cases pushed
  · rw [if_neg most] at pushed
    injection pushed with same
    subst same
    rw [Array.size_push]
    by_cases full : table.capacity <= table.rows.size
    · rw [if_pos full]
      exact sized.of_full full (Nat.lt_of_not_le most)
    · rw [if_neg full]
      exact sized.of_lt (Nat.lt_of_not_le full)

end DraftTable

/-! ## What all tables have in common -/

section

variable {property : DraftTable -> Prop} (start : property {})
  (keep : forall {table grown : DraftTable} {row : DraftRow},
    property table -> table.push row = .ok grown -> property grown)

include keep

namespace Draft

theorem forall_table_of_push {draft grown : Draft} {kind : TableKind} {columns : List Bytes}
    (before : forall other, property (draft.table other))
    (pushed : draft.push kind columns = .ok grown) (other : TableKind) :
    property (grown.table other) := by
  rw [push_eq_map] at pushed
  rcases Outcome.bind_eq_ok_iff.mp pushed with ⟨row, -, added⟩
  cases taken : (draft.table kind).push row with
  | error refusal =>
      rw [taken] at added
      cases added
  | ok table =>
      rw [taken] at added
      injection added with same
      subst same
      by_cases here : other = kind
      · rw [here, table_withTable]
        exact keep (before kind) taken
      · rw [table_withTable_of_ne here]
        exact before other

theorem forall_table_of_pushLines {draft grown : Draft} {kind : TableKind}
    {sourceLines : List (List Char)} (before : forall other, property (draft.table other))
    (pushed : draft.pushLines kind sourceLines = .ok grown) :
    forall other, property (grown.table other) := by
  induction sourceLines generalizing draft with
  | nil =>
      injection pushed with same
      subst same
      exact before
  | cons line rest ih =>
      rw [pushLines, List.foldlM_cons] at pushed
      rcases Outcome.bind_eq_ok_iff.mp pushed with ⟨next, first, later⟩
      exact ih (forall_table_of_push keep before first) later

include start

theorem forall_table_of_ofText {text : List Char} {draft : Draft}
    (parsed : ofText text = .ok draft) : forall kind, property (draft.table kind) := by
  let parts := SourceParts.ofLines (lines text)
  have empty : forall kind, property (Draft.table { version := parts.version } kind) := by
    intro kind
    cases kind with
    | head => exact start
    | data => exact start
  rcases Outcome.bind_eq_ok_iff.mp parsed with ⟨withHead, first, second⟩
  exact forall_table_of_pushLines keep (forall_table_of_pushLines keep empty first) second

end Draft

namespace DraftHistory

include start

theorem forall_table_step {history : DraftHistory}
    (before : forall kind, property (history.draft.table kind)) (call : DraftCall) :
    forall kind, property ((history.step call).draft.table kind) := by
  cases call with
  | new =>
      intro kind
      cases kind with
      | head => exact start
      | data => exact start
  | withVersion version =>
      simp only [step]
      cases changed : history.draft.withVersion version with
      | error refusal => exact before
      | ok draft =>
          unfold Draft.withVersion at changed
          split at changed
          · injection changed with same
            subst same
            exact before
          · cases changed
  | ofText text =>
      simp only [step]
      cases parsed : Draft.ofText text with
      | error refusal => exact before
      | ok draft => exact Draft.forall_table_of_ofText start keep parsed
  | push kind columns =>
      simp only [step]
      cases pushed : history.draft.push kind columns with
      | error refusal => exact before
      | ok draft =>
          have grown := Draft.forall_table_of_push keep before pushed
          cases kind with
          | head => exact grown
          | data => exact grown

/-- What holds of the empty table and is kept by pushes holds of all tables of all histories. -/
theorem forall_table_after (calls : List DraftCall) :
    forall kind, property ((after calls).draft.table kind) := by
  have run : forall history : DraftHistory, (forall kind, property (history.draft.table kind)) ->
      forall kind, property ((calls.foldl step history).draft.table kind) := by
    induction calls with
    | nil => exact fun history before => before
    | cons call rest ih =>
        exact fun history before => ih _ (forall_table_step start keep before call)
  refine run {} fun kind => ?_
  cases kind with
  | head => exact start
  | data => exact start

end DraftHistory

end

/-! ## Growth -/

namespace DraftHistory

/-- A table of a draft that was filled by calls, some of which may have been refused. -/
structure Filled (history : DraftHistory) (kind : TableKind) : Prop where
  /-- Its rows are those that were admitted, in the order in which they were. -/
  rows_eq : (history.draft.table kind).rows.toList = (history.rows kind).map DraftRow.holding
  few : (history.rows kind).length < 2 ^ 32
  sized : DraftTable.Sized (history.rows kind).length (history.draft.table kind).capacity
  /-- Its slots are known from the number of its rows. -/
  capacity_eq : (history.draft.table kind).capacity =
    DraftTable.slotsFor (history.rows kind).length
  fits : (history.draft.table kind).rows.size <= (history.draft.table kind).capacity
  /-- One more that is pushed in place becomes the last of them. -/
  admitted : forall columns grown, Draft.append kind columns history.draft = (.ok (), grown) ->
    history.step (.push kind columns) = history.addRow grown kind columns
  /-- One that is refused leaves no trace. -/
  refused : forall columns error left,
    Draft.append kind columns history.draft = (.error error, left) ->
      left = history.draft ∧ history.step (.push kind columns) = history
  /-- Its header in the image that is built says the same, and is accepted. -/
  built : forall base : UInt64, base.toNat % headerAlignment = 0 -> exists image header,
    history.draft.build base = .ok image ∧
      image.span.headerAt ContainerHeader 0 = .ok header ∧
      (header.table kind).length.toNat = (history.rows kind).length ∧
      (header.table kind).capacity.toNat = (history.draft.table kind).capacity ∧
      forall name, (header.table kind).validate name = .ok ()

theorem sized_after (calls : List DraftCall) (kind : TableKind) :
    DraftTable.Sized ((after calls).draft.table kind).rows.size
      ((after calls).draft.table kind).capacity := by
  let property (table : DraftTable) : Prop := DraftTable.Sized table.rows.size table.capacity
  have start : property {} := ⟨fun _ => rfl, fun some => absurd some (Nat.lt_irrefl 0)⟩
  have keep {table grown : DraftTable} {row : DraftRow} (sized : property table)
      (pushed : table.push row = .ok grown) : property grown := DraftTable.sized_push sized pushed
  exact forall_table_after start keep calls kind

/-- A row that was put behind the others in place is one of the history's rows from then on. -/
theorem step_push_of_append {history : DraftHistory} {kind : TableKind} {columns : List Bytes}
    {grown : Draft} (done : Draft.append kind columns history.draft = (.ok (), grown)) :
    history.step (.push kind columns) = history.addRow grown kind columns := by
  rw [Draft.append_apply] at done
  simp only [step]
  cases pushed : history.draft.push kind columns with
  | error refusal =>
      rw [pushed] at done
      cases done
  | ok draft =>
      rw [pushed] at done
      cases done
      rfl

/-- A refusal in place is one that leaves no trace. -/
theorem step_push_of_refused {history : DraftHistory} {kind : TableKind} {columns : List Bytes}
    {error : Error} {left : Draft}
    (refused : Draft.append kind columns history.draft = (.error error, left)) :
    left = history.draft ∧ history.step (.push kind columns) = history := by
  rw [Draft.append_apply] at refused
  simp only [step]
  cases pushed : history.draft.push kind columns with
  | error refusal =>
      rw [pushed] at refused
      cases refused
      exact ⟨rfl, rfl⟩
  | ok draft =>
      rw [pushed] at refused
      cases refused

/-- Whatever calls have filled a draft, admitted or refused, each of its tables has no slots as
long as it has no rows, and the least number of slots that holds them from then on. -/
theorem least_slots_after (calls : List DraftCall) (kind : TableKind) :
    (after calls).Filled kind := by
  have kept := kept_after calls
  have holds := kept.table kind
  have few : ((after calls).rows kind).length <= tableLimit := by
    rw [<- holds.size_eq]
    exact Nat.le_trans holds.size_le_capacity holds.capacity_le
  have sized := sized_after calls kind
  rw [holds.size_eq] at sized
  constructor
  case rows_eq => exact holds.rows_eq
  case few => exact Nat.lt_succ_of_le few
  case sized => exact sized
  case capacity_eq => exact sized.unique (DraftTable.sized_slotsFor few)
  case fits =>
    rw [holds.size_eq]
    exact sized.le
  case admitted => exact fun columns grown done => step_push_of_append done
  case refused => exact fun columns error left failed => step_push_of_refused failed
  case built =>
    intro base aligned
    refine ⟨_, _, kept.bounded.build_eq_ok base aligned,
      (after calls).draft.headerAt_encodedWith _ aligned, ?_⟩
    rw [Draft.table_encodedHeader]
    exact ⟨(kept.bounded.toNat_length _ kind).trans holds.size_eq,
      kept.bounded.toNat_slots _ kind,
      kept.bounded.validate_encodedTableHeader _ kind⟩

/-- The last of seventeen rows finds the table full, and one that is refused does not matter. -/
example :
    let calls := List.replicate 17 (.push .data [#[114]]) ++ [.push .data [#[0]]]
    (after calls).draft.data.capacity = 32 ∧ (after calls).draft.head.capacity = 0 := by cbv

end DraftHistory
end MappedTables
