import MappedTables.Proofs.Image.Reading

namespace MappedTables

/-!
The two passes over the rows of a draft.

The first pass finds out how many octets a container needs, the second one fills
them, and each of them computes the places of the rows for itself.  They agree
because storing a row moves the cursor exactly as sizing it does, which is a fact
about one step; by induction it holds behind every row.  Nothing else is needed
to see that the second pass stays within what the first one asked for.
-/

namespace Arena

/-- Storing a row moves the cursor as sizing it does. -/
theorem footprint_of_storeRow {arena next : Arena} {slot : Nat} {row : DraftRow}
    (stored : arena.storeRow slot row = .ok next) :
    row.footprint arena.cursor = .ok next.cursor := by
  unfold storeRow at stored
  cases aligned : alignUp arena.cursor startsAlignment with
  | error reason =>
      simp only [aligned, Outcome.liftAbort_error, Outcome.error_bind] at stored
      cases stored
  | ok startsPlace =>
      simp only [aligned, Outcome.liftAbort_ok, Outcome.ok_bind, Outcome.bind_eq_ok_iff,
        Outcome.pure_eq_ok] at stored
      rcases stored with ⟨_, _, _, _, _, _, _, _, same⟩
      rw [DraftRow.footprint, aligned, <- Except.ok.inj same]
      rfl

/-- So does storing several of them. -/
theorem footprints_of_storeRows {arena next : Arena} {slot : Nat} {rows : List DraftRow}
    (stored : arena.storeRows slot rows = .ok next) :
    rows.foldlM (fun cursor row => row.footprint cursor) arena.cursor = .ok next.cursor := by
  induction rows generalizing arena slot with
  | nil =>
      cases stored
      rfl
  | cons row rest ih =>
      rw [storeRows] at stored
      rcases Outcome.bind_eq_ok_iff.mp stored with ⟨first, here, later⟩
      rw [List.foldlM_cons, footprint_of_storeRow here]
      exact ih later

/-- Rows can be stored in two parts. -/
theorem storeRows_append (arena : Arena) (slot : Nat) (before after : List DraftRow) :
    arena.storeRows slot (before ++ after) = (do
      (← arena.storeRows slot before).storeRows (slot + rowSlotSize * before.length) after) := by
  induction before generalizing arena slot with
  | nil => rfl
  | cons row rest ih =>
      have next : slot + rowSlotSize + rowSlotSize * rest.length =
          slot + rowSlotSize * (row :: rest).length := by
        rw [List.length_cons, Nat.mul_add, Nat.mul_one]
        omega
      rw [List.cons_append, storeRows, storeRows]
      cases arena.storeRow slot row with
      | error fault => rfl
      | ok stored =>
          rw [Outcome.ok_bind, Outcome.ok_bind, ih, next]

/-- What can be stored as a whole can be stored up to any row. -/
theorem exists_storeRows_take {arena final : Arena} {slot : Nat} {rows : List DraftRow}
    (stored : arena.storeRows slot rows = .ok final) (count : Nat) :
    exists next, arena.storeRows slot (rows.take count) = .ok next := by
  rw [<- List.take_append_drop count rows, storeRows_append] at stored
  rcases Outcome.bind_eq_ok_iff.mp stored with ⟨next, first, _⟩
  exact ⟨next, first⟩

end Arena

namespace Draft

/-- The cursor of the first pass behind the first `count` rows. -/
def sizedTo (draft : Draft) (count : Nat) : Except Abort Nat :=
  (draft.allRows.take count).foldlM (fun cursor row => row.footprint cursor) draft.rowsArea

/-- The arena of the second pass behind the first `count` rows. -/
def storedTo (draft : Draft) (base : UInt64) (capacity count : Nat) : Except Fault Arena := do
  let arena : Arena :=
    { span := { base, bytes := Bytes.zeros capacity }, cursor := draft.rowsArea }
  let arena ← arena.storeRows headArray (draft.head.rows.toList.take count)
  arena.storeRows draft.dataArray (draft.data.rows.toList.take (count - draft.head.rows.size))

variable {draft : Draft} {base : UInt64}

/-- The first pass is over when all rows are sized. -/
theorem capacity_eq_sizedTo (draft : Draft) :
    draft.capacity = (do alignUp (← draft.sizedTo draft.allRows.length) headerAlignment) := by
  rw [sizedTo, List.take_length]
  rfl

/-- The second pass is over when all rows are stored. -/
theorem build_eq_storedTo (draft : Draft) (base : UInt64) :
    draft.build base = (do
      let capacity ← draft.capacity
      let arena ← draft.storedTo base capacity draft.allRows.length
      let span ← arena.span.put draft.versionArea (Utf8.ofString draft.version).toList
      let header := ContainerHeader.ofParts .live (draft.tableHeader .head base)
        (draft.tableHeader .data base) (UInt64.ofNat capacity)
        (Arena.reference base draft.versionArea)
      let span ← span.putHeader 0 header
      return { span }) := by
  have rows : draft.allRows.length = draft.head.rows.size + draft.data.rows.size := by
    rw [allRows, List.length_append, Array.length_toList, Array.length_toList]
  have head : draft.head.rows.toList.take draft.allRows.length = draft.head.rows.toList :=
    List.take_of_length_le (by rw [Array.length_toList]; omega)
  have data : draft.data.rows.toList.take (draft.allRows.length - draft.head.rows.size) =
      draft.data.rows.toList :=
    List.take_of_length_le (by rw [Array.length_toList]; omega)
  unfold build storedTo
  rw [head, data]
  simp only [bind_assoc]

/-- Behind every row both passes have the same cursor. -/
theorem Bounded.passes_agree (bounded : draft.Bounded)
    (aligned : base.toNat % headerAlignment = 0) (count : Nat) :
    exists arena, draft.storedTo base draft.extent count = .ok arena ∧
      draft.sizedTo count = .ok arena.cursor := by
  have head := bounded.storeRows_head base aligned
  have data := bounded.storeRows_data base aligned
  have split : draft.allRows.take count =
      draft.head.rows.toList.take count ++
        draft.data.rows.toList.take (count - draft.head.rows.size) := by
    rw [allRows, List.take_append, Array.length_toList]
  by_cases inHead : count <= draft.head.rows.size
  · rcases Arena.exists_storeRows_take head count with ⟨arena, stored⟩
    have none : count - draft.head.rows.size = 0 := Nat.sub_eq_zero_of_le inHead
    refine ⟨arena, ?_, ?_⟩
    · rw [storedTo, stored, none]
      rfl
    · rw [sizedTo, split, none, List.take_zero, List.append_nil]
      exact Arena.footprints_of_storeRows stored
  · have all : draft.head.rows.toList.take count = draft.head.rows.toList :=
      List.take_of_length_le (by rw [Array.length_toList]; omega)
    rcases Arena.exists_storeRows_take data (count - draft.head.rows.size) with ⟨arena, stored⟩
    refine ⟨arena, ?_, ?_⟩
    · rw [storedTo, all, head]
      exact stored
    · rw [sizedTo, split, all, List.foldlM_append, Arena.footprints_of_storeRows head]
      exact Arena.footprints_of_storeRows stored

end Draft
end MappedTables
