import MappedTables.Image.Build
import MappedTables.Proofs.Draft.History
import MappedTables.Proofs.Layout.RoundUp
import MappedTables.Proofs.Text.Visible

namespace MappedTables

/-!
The places of a layout.

Where the parts of a row stand depends on the row and on the place at which the
row before it ended, and on nothing else: no address and no arena takes part.
So every place of a container is a number that the draft determines.  A draft
within the limits that admission enforces needs far fewer octets than there are
addresses, and its sizing pass computes just the place where its last row ends.
-/

namespace DraftRow

/-- Where the table of starts of a row begins, storage being free from `cursor` on. -/
def startsPlace (cursor : Nat) : Nat :=
  roundUp cursor startsAlignment

/-- Where the text of a row begins. -/
def textPlace (row : DraftRow) (cursor : Nat) : Nat :=
  startsPlace cursor + 2 * row.starts.size

/-- Where a row ends. -/
def stopPlace (row : DraftRow) (cursor : Nat) : Nat :=
  row.textPlace cursor + row.text.size

/-- Where the last of several rows ends. -/
def stopOf (cursor : Nat) (rows : List DraftRow) : Nat :=
  rows.foldl (fun place row => row.stopPlace place) cursor

/-- Where the texts of rows begin. -/
def textPlaces : Nat -> List DraftRow -> List Nat
  | _, [] => []
  | cursor, row :: rest => row.textPlace cursor :: textPlaces (row.stopPlace cursor) rest

/-- A row whose sizes are numbers of sixteen bits. -/
structure Small (row : DraftRow) : Prop where
  text_le : row.text.size <= rowLimit
  starts_le : row.starts.size <= rowLimit

@[simp] theorem stopOf_nil (cursor : Nat) : stopOf cursor [] = cursor := rfl

@[simp] theorem stopOf_cons (cursor : Nat) (row : DraftRow) (rest : List DraftRow) :
    stopOf cursor (row :: rest) = stopOf (row.stopPlace cursor) rest := rfl

theorem stopOf_append (cursor : Nat) (before after : List DraftRow) :
    stopOf cursor (before ++ after) = stopOf (stopOf cursor before) after :=
  List.foldl_append

theorem le_startsPlace (cursor : Nat) : cursor <= startsPlace cursor :=
  le_roundUp cursor (by decide)

theorem startsPlace_le (cursor : Nat) : startsPlace cursor <= cursor + 1 := by
  have below : startsPlace cursor < cursor + startsAlignment := roundUp_lt cursor (by decide)
  exact Nat.le_of_lt_succ below

theorem le_stopPlace (row : DraftRow) (cursor : Nat) : cursor <= row.stopPlace cursor := by
  have rounded := le_startsPlace cursor
  unfold stopPlace textPlace
  omega

theorem le_stopOf (cursor : Nat) (rows : List DraftRow) : cursor <= stopOf cursor rows := by
  induction rows generalizing cursor with
  | nil => exact Nat.le_refl cursor
  | cons row rest ih => exact Nat.le_trans (row.le_stopPlace cursor) (ih _)

/-- The greatest number of octets that one row can take up. -/
def footprintLimit : Nat := 3 * rowLimit + 1

theorem stopOf_le (cursor : Nat) (rows : List DraftRow)
    (small : forall row, row ∈ rows -> row.Small) :
    stopOf cursor rows <= cursor + rows.length * footprintLimit := by
  induction rows generalizing cursor with
  | nil => simp
  | cons row rest ih =>
      have first := small row List.mem_cons_self
      have later := ih (row.stopPlace cursor) fun other member =>
        small other (List.mem_cons_of_mem _ member)
      have textBound := first.text_le
      have startsBound := first.starts_le
      have rounded := startsPlace_le cursor
      rw [stopOf_cons, List.length_cons, Nat.add_mul, Nat.one_mul]
      unfold stopPlace textPlace at later
      unfold stopPlace textPlace footprintLimit at *
      omega

/-- Sizing a row gives the place where it ends. -/
theorem footprint_eq_ok (row : DraftRow) (cursor : Nat) (room : cursor + 2 < addressLimit) :
    row.footprint cursor = .ok (row.stopPlace cursor) := by
  have aligned : alignUp cursor startsAlignment = .ok (startsPlace cursor) :=
    alignUp_eq_ok cursor 1 (by decide) room
  rw [footprint, aligned]
  rfl

theorem foldlM_footprint_eq_ok (cursor : Nat) (rows : List DraftRow)
    (room : stopOf cursor rows + 2 < addressLimit) :
    rows.foldlM (fun place row => row.footprint place) cursor = .ok (stopOf cursor rows) := by
  induction rows generalizing cursor with
  | nil => rfl
  | cons row rest ih =>
      have within : cursor <= stopOf cursor (row :: rest) := le_stopOf cursor (row :: rest)
      rw [List.foldlM_cons, footprint_eq_ok row cursor (by omega), Outcome.ok_bind]
      exact ih _ room

end DraftRow

namespace Draft

/-- Where the last row of a draft ends. -/
def stop (draft : Draft) : Nat :=
  DraftRow.stopOf draft.rowsArea draft.allRows

/-- Octets of the container that holds a draft. -/
def extent (draft : Draft) : Nat :=
  roundUp draft.stop headerAlignment

/-- Where storage for the rows of a table begins. -/
def firstPlace (draft : Draft) : TableKind -> Nat
  | .head => draft.rowsArea
  | .data => DraftRow.stopOf draft.rowsArea draft.head.rows.toList

/-- Where the texts of all rows begin. -/
def textPlaces (draft : Draft) : List Nat :=
  DraftRow.textPlaces draft.rowsArea draft.allRows

/-- A draft within the limits that admission enforces. -/
structure Bounded (draft : Draft) : Prop where
  size_le_capacity : forall kind, (draft.table kind).rows.size <= (draft.table kind).capacity
  capacity_le : forall kind, (draft.table kind).capacity <= tableLimit
  small : forall row, row ∈ draft.allRows -> row.Small
  version_lt : (Utf8.ofString draft.version).size < versionAreaSize

theorem headArray_eq : headArray = 80 := rfl

theorem dataArray_eq (draft : Draft) : draft.dataArray = 80 + 24 * draft.head.capacity := by
  have slot : rowSlotSize = 24 := rfl
  rw [dataArray, slot, headArray_eq]
  omega

theorem versionArea_eq (draft : Draft) :
    draft.versionArea = 80 + 24 * draft.head.capacity + 24 * draft.data.capacity := by
  have slot : rowSlotSize = 24 := rfl
  rw [versionArea, slot, dataArray_eq]
  omega

theorem rowsArea_eq (draft : Draft) :
    draft.rowsArea = 80 + 24 * draft.head.capacity + 24 * draft.data.capacity + 20 := by
  rw [rowsArea, versionArea_eq]
  rfl

/-- The slots of a table begin at an aligned place. -/
theorem arrayOf_mod (draft : Draft) (kind : TableKind) :
    draft.arrayOf kind % headerAlignment = 0 := by
  have array := draft.dataArray_eq
  cases kind with
  | head => simp only [arrayOf, headArray_eq, headerAlignment]
  | data =>
      simp only [arrayOf, array, headerAlignment]
      omega

theorem rowsArea_le_stop (draft : Draft) : draft.rowsArea <= draft.stop :=
  DraftRow.le_stopOf _ _

theorem stop_le_extent (draft : Draft) : draft.stop <= draft.extent :=
  le_roundUp _ (by decide)

theorem extent_lt (draft : Draft) : draft.extent < draft.stop + 8 :=
  roundUp_lt _ (by decide)

theorem stop_eq_stopOf_data (draft : Draft) :
    draft.stop = DraftRow.stopOf (draft.firstPlace .data) draft.data.rows.toList :=
  DraftRow.stopOf_append _ _ _

theorem mem_allRows (draft : Draft) {kind : TableKind} {row : DraftRow}
    (member : row ∈ (draft.table kind).rows.toList) : row ∈ draft.allRows := by
  cases kind with
  | head => exact List.mem_append_left _ member
  | data => exact List.mem_append_right _ member

/-- Even the largest draft leaves most addresses unused. -/
theorem Bounded.stop_lt {draft : Draft} (bounded : draft.Bounded) : draft.stop < 2 ^ 52 := by
  have headRows := bounded.size_le_capacity .head
  have dataRows := bounded.size_le_capacity .data
  have headSlots := bounded.capacity_le .head
  have dataSlots := bounded.capacity_le .data
  have rows := DraftRow.stopOf_le draft.rowsArea draft.allRows bounded.small
  have count : draft.allRows.length = draft.head.rows.size + draft.data.rows.size := by
    simp [allRows]
  rw [rowsArea_eq, count] at rows
  simp only [table, tableLimit] at headRows dataRows headSlots dataSlots
  simp only [DraftRow.footprintLimit, rowLimit] at rows
  unfold stop
  rw [rowsArea_eq]
  omega

theorem Bounded.extent_lt {draft : Draft} (bounded : draft.Bounded) :
    draft.extent < 2 ^ 52 + 8 := by
  have rows := bounded.stop_lt
  have rounded := draft.extent_lt
  omega

/-- The sizing pass succeeds and finds the extent of the container. -/
theorem Bounded.capacity_eq {draft : Draft} (bounded : draft.Bounded) :
    draft.capacity = .ok draft.extent := by
  have rows := bounded.stop_lt
  have sized := DraftRow.foldlM_footprint_eq_ok draft.rowsArea draft.allRows
    (show draft.stop + 2 < addressLimit by unfold addressLimit; omega)
  rw [capacity, sized, Outcome.ok_bind]
  exact alignUp_eq_ok draft.stop 3 (by decide) (by unfold addressLimit; omega)

end Draft

namespace DraftRow

/-- Admissible columns make a small row. -/
theorem Admissible.small {columns : List Bytes} (admissible : Admissible columns) :
    (holding columns).Small where
  text_le := by
    have room := admissible.room
    rwa [holding, List.size_toArray]
  starts_le := by
    have fewer := length_le_length_textOf columns
    have room := admissible.room
    rw [holding, List.size_toArray, length_startsFrom]
    omega

end DraftRow

namespace DraftHistory

/-- A draft with a history is within the limits. -/
theorem Kept.bounded {history : DraftHistory} (kept : history.Kept) :
    history.draft.Bounded where
  size_le_capacity kind := (kept.table kind).size_le_capacity
  capacity_le kind := (kept.table kind).capacity_le
  small := by
    intro row member
    have held : exists kind, row ∈ (history.draft.table kind).rows.toList := by
      rcases List.mem_append.mp member with inHead | inData
      · exact ⟨.head, inHead⟩
      · exact ⟨.data, inData⟩
    rcases held with ⟨kind, inTable⟩
    rw [(kept.table kind).rows_eq] at inTable
    rcases List.mem_map.mp inTable with ⟨columns, admitted, same⟩
    exact same ▸ ((kept.table kind).admissible columns admitted).small
  version_lt := by
    rcases kept.version with none | tag
    · rw [none]
      decide
    · simp only [isVersionTag, Bool.and_eq_true, decide_eq_true_eq] at tag
      rw [Utf8.size_ofString_of_visible tag.2]
      exact tag.1.2

end DraftHistory
end MappedTables
