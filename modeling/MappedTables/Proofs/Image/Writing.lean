import MappedTables.Proofs.Image.Encoding

namespace MappedTables

/-!
What laying out a draft writes.

Storing a row touches two parts of the arena: its slot, and the zeros at the
cursor.  Everything else stays, so an arena in the middle of the second pass is
the sequence of what has been stored, with zeros wherever nothing has been
stored yet.  By induction on the rows the arena holds the encoding of the draft
with addresses when the last row, the version and the header are in place.
-/

/-- Octets are stored where free memory begins. -/
theorem Span.put_free (base : UInt64) (before payload : List UInt8) (free : Nat)
    (fits : payload.length <= free) :
    put ⟨base, (before ++ blank free).toArray⟩ before.length payload =
      .ok ⟨base,
        (before ++ payload ++ blank (free - payload.length)).toArray⟩ := by
  rw [blank_split fits, <- List.append_assoc]
  exact put_append base before _ _ payload List.length_replicate.symm

/-- A row is stored where free memory begins: padding, the table of starts, the text. -/
theorem Span.put_row (base : UInt64) (before : List UInt8) (row : DraftRow)
    (cursor free : Nat) (behind : before.length = cursor)
    (fits : (row.stored cursor).length <= free) :
    (put ⟨base, (before ++ blank free).toArray⟩
        (DraftRow.startsPlace cursor) row.startsTable >>= fun span =>
      span.put (row.textPlace cursor) row.text.toList) =
      .ok ⟨base, (before ++ row.stored cursor ++
        blank (free - (row.stored cursor).length)).toArray⟩ := by
  rcases Nat.exists_eq_add_of_le (DraftRow.le_startsPlace cursor) with ⟨padding, startsAt⟩
  have octets : row.stored cursor =
      blank padding ++ row.startsTable ++ row.text.toList := by
    rw [DraftRow.stored, startsAt, Nat.add_sub_cancel_left]
  have total : (row.stored cursor).length =
      padding + row.startsTable.length + row.text.toList.length := by
    rw [octets, List.length_append, List.length_append, List.length_replicate]
  have starts := put_free base (before ++ blank padding) row.startsTable
    (free - padding) (by omega)
  have text := put_free base (before ++ blank padding ++ row.startsTable)
    row.text.toList (free - padding - row.startsTable.length) (by omega)
  have startsEnd : (before ++ blank padding).length =
      DraftRow.startsPlace cursor := by
    rw [List.length_append, List.length_replicate, startsAt, behind]
  have textEnd : (before ++ blank padding ++ row.startsTable).length =
      row.textPlace cursor := by
    rw [List.length_append, startsEnd, DraftRow.length_startsTable, DraftRow.textPlace]
  have left : free - padding - row.startsTable.length - row.text.toList.length =
      free - (row.stored cursor).length := by omega
  rw [startsEnd] at starts
  rw [textEnd, left] at text
  rw [blank_split (show padding <= free by omega), <- List.append_assoc, starts,
    Outcome.ok_bind, text, octets]
  simp only [List.append_assoc]

namespace Arena

/-- Memory in which the slots from the end of `front` on are still to be written
and storage for rows is free behind `middle`. -/
def prepared (base : UInt64) (front hidden middle : List UInt8) (free : Nat) : Span :=
  ⟨base, (front ++ hidden ++ middle ++ blank free).toArray⟩

/-- The header that is stored with a row is its slot with addresses. -/
theorem ofReferences_eq_slot (base : UInt64) (row : DraftRow) (cursor : Nat) :
    RowHeader.ofReferences (reference base (row.textPlace cursor))
        (if row.starts.isEmpty then .live 0
          else reference base (DraftRow.startsPlace cursor))
        (UInt16.ofNat row.text.size) (UInt16.ofNat row.starts.size) =
      .ok (row.slot (.addressesFrom base) cursor) := by
  by_cases columnless : row.starts.isEmpty = true
  · rw [if_pos columnless]
    simp [RowHeader.ofReferences, reference, Reference.mode, Reference.word, DraftRow.slot,
      Addressing.addressesFrom, columnless]
  · rw [if_neg columnless]
    simp [RowHeader.ofReferences, reference, Reference.mode, Reference.word, DraftRow.slot,
      Addressing.addressesFrom, columnless]

/-- Storing a row in terms of its places and its slot. -/
theorem storeRow_eq (arena : Arena) (slot : Nat) (row : DraftRow)
    (room : arena.cursor + 2 < addressLimit) :
    arena.storeRow slot row = (do
      let span ← arena.span.put (DraftRow.startsPlace arena.cursor) row.startsTable
      let span ← span.put (row.textPlace arena.cursor) row.text.toList
      let span ← span.putHeader slot (row.slot (.addressesFrom arena.span.base) arena.cursor)
      return { span, cursor := row.stopPlace arena.cursor }) := by
  have startsAt : alignUp arena.cursor startsAlignment =
      .ok (DraftRow.startsPlace arena.cursor) :=
    alignUp_eq_ok _ 1 (by decide) room
  have header := ofReferences_eq_slot arena.span.base row arena.cursor
  rw [DraftRow.textPlace] at header
  unfold storeRow
  simp only [startsAt, header, Outcome.liftAbort_ok, Outcome.ok_bind]
  rfl

/-- Storing a row fills its slot and the zeros that it takes up. -/
theorem storeRow_prepared (base : UInt64) (front hidden middle : List UInt8)
    (row : DraftRow) (cursor free : Nat) (slotSize : hidden.length = rowSlotSize)
    (behind : (front ++ hidden ++ middle).length = cursor)
    (aligned : (base.toNat + front.length) % headerAlignment = 0)
    (fits : (row.stored cursor).length <= free) (room : cursor + 2 < addressLimit) :
    storeRow ⟨prepared base front hidden middle free, cursor⟩ front.length row =
      .ok ⟨prepared base front
          (StoredHeader.encode (row.slot (.addressesFrom base) cursor))
          (middle ++ row.stored cursor) (free - (row.stored cursor).length),
        row.stopPlace cursor⟩ := by
  have slotEnd : front.length + StoredHeader.size RowHeader < addressLimit := by
    have slot : hidden.length = StoredHeader.size RowHeader := slotSize
    simp only [List.length_append] at behind
    omega
  have octets := Span.put_row base (front ++ hidden ++ middle) row cursor free behind fits
  have header := Span.putHeader_append base front hidden
    (middle ++ row.stored cursor ++ blank (free - (row.stored cursor).length))
    (row.slot (.addressesFrom base) cursor) slotSize slotEnd aligned
  rcases Outcome.bind_eq_ok_iff.mp octets with ⟨withStarts, starts, text⟩
  simp only [List.append_assoc] at starts text header
  rw [storeRow_eq _ _ _ room]
  simp only [prepared, List.append_assoc, starts, text, header, Outcome.liftAbort_ok,
    Outcome.lift_ok, Outcome.ok_bind, Outcome.pure_eq_ok]

/-- Storing rows fills their slots and the zeros that they take up. -/
theorem storeRows_prepared (base : UInt64) (front hidden middle : List UInt8)
    (rows : List DraftRow) (cursor free : Nat)
    (slotsSize : hidden.length = rowSlotSize * rows.length)
    (behind : (front ++ hidden ++ middle).length = cursor)
    (aligned : (base.toNat + front.length) % headerAlignment = 0)
    (fits : (DraftRow.storedFrom cursor rows).length <= free)
    (room : DraftRow.stopOf cursor rows + 2 < addressLimit) :
    storeRows ⟨prepared base front hidden middle free, cursor⟩ front.length rows =
      .ok ⟨prepared base front
          ((DraftRow.slots (.addressesFrom base) cursor rows).flatMap StoredHeader.encode)
          (middle ++ DraftRow.storedFrom cursor rows)
          (free - (DraftRow.storedFrom cursor rows).length),
        DraftRow.stopOf cursor rows⟩ := by
  induction rows generalizing front hidden middle cursor free with
  | nil =>
      have nothing : hidden = [] := List.length_eq_zero_iff.mp slotsSize
      simp [storeRows, nothing, DraftRow.slots, DraftRow.storedFrom]
  | cons row rest ih =>
      let header := StoredHeader.encode (row.slot (.addressesFrom base) cursor)
      rw [List.length_cons, Nat.mul_add, Nat.mul_one] at slotsSize
      -- the slot of this row, and those of the rows behind it
      have split : exists first later,
          hidden = first ++ later ∧ first.length = rowSlotSize :=
        ⟨hidden.take rowSlotSize, hidden.drop rowSlotSize, (List.take_append_drop _ _).symm,
          List.length_take_of_le (by omega)⟩
      rcases split with ⟨first, later, rfl, firstSize⟩
      have headerSize : header.length = rowSlotSize := length_encode _
      have storedSize := row.length_stored cursor
      have within := DraftRow.le_stopOf (row.stopPlace cursor) rest
      have below := row.le_stopPlace cursor
      rw [DraftRow.storedFrom, List.length_append] at fits
      rw [DraftRow.stopOf_cons] at room
      simp only [List.length_append] at behind slotsSize
      have stored := storeRow_prepared base front first (later ++ middle) row cursor free
        firstSize (by simp only [List.length_append]; omega) aligned (by omega) (by omega)
      have others := ih (front ++ header) later (middle ++ row.stored cursor)
        (row.stopPlace cursor) (free - (row.stored cursor).length) (by omega)
        (by simp only [List.length_append]; omega)
        (by rw [List.length_append, headerSize, <- Nat.add_assoc, Nat.add_mod, aligned]; rfl)
        (by omega) room
      have regroup : prepared base front header (later ++ middle ++ row.stored cursor)
            (free - (row.stored cursor).length) =
          prepared base (front ++ header) later (middle ++ row.stored cursor)
            (free - (row.stored cursor).length) := by
        simp only [prepared, List.append_assoc]
      have start : prepared base front (first ++ later) middle free =
          prepared base front first (later ++ middle) free := by
        simp only [prepared, List.append_assoc]
      have slotEnd : front.length + rowSlotSize = (front ++ header).length := by
        rw [List.length_append, headerSize]
      rw [storeRows, start, stored, Outcome.ok_bind, regroup, slotEnd, others]
      simp only [prepared, DraftRow.slots, DraftRow.storedFrom, List.flatMap_cons,
        List.append_assoc, List.length_append, Nat.sub_sub, DraftRow.stopOf_cons, header]

end Arena

namespace Draft

/-- Storing the rows of a table turns its zeroed slots into the octets of the table. -/
theorem Bounded.storeRows_table {draft : Draft} (bounded : draft.Bounded) (base : UInt64)
    (kind : TableKind) (front middle : List UInt8) (free : Nat)
    (behind : (front ++ blank (24 * (draft.table kind).capacity) ++ middle).length =
      draft.firstPlace kind)
    (aligned : (base.toNat + front.length) % headerAlignment = 0)
    (fits : (DraftRow.storedFrom (draft.firstPlace kind)
      (draft.table kind).rows.toList).length <= free)
    (room : DraftRow.stopOf (draft.firstPlace kind) (draft.table kind).rows.toList + 2 <
      addressLimit) :
    Arena.storeRows
        ⟨Arena.prepared base front (blank (24 * (draft.table kind).capacity)) middle free,
          draft.firstPlace kind⟩ front.length (draft.table kind).rows.toList =
      .ok ⟨Arena.prepared base front (draft.tableOctets (.addressesFrom base) kind)
          (middle ++ DraftRow.storedFrom (draft.firstPlace kind) (draft.table kind).rows.toList)
          (free - (DraftRow.storedFrom (draft.firstPlace kind)
            (draft.table kind).rows.toList).length),
        DraftRow.stopOf (draft.firstPlace kind) (draft.table kind).rows.toList⟩ := by
  have slots := blank_split (Nat.mul_le_mul_left 24 (bounded.size_le_capacity kind))
  rw [<- Nat.mul_sub] at slots
  have start : Arena.prepared base front (blank (24 * (draft.table kind).capacity)) middle free =
      Arena.prepared base front (blank (24 * (draft.table kind).rows.size))
        (blank (24 * ((draft.table kind).capacity - (draft.table kind).rows.size)) ++ middle)
        free := by
    simp only [Arena.prepared, slots, List.append_assoc]
  rw [slots, <- List.append_assoc, List.append_assoc _ _ middle] at behind
  have stored := Arena.storeRows_prepared base front
    (blank (24 * (draft.table kind).rows.size)) _ (draft.table kind).rows.toList
    (draft.firstPlace kind) free List.length_replicate behind aligned fits room
  rw [start, stored]
  simp only [Arena.prepared, tableOctets_live, List.append_assoc]

/-- The zeroed arena, divided at the places of the layout. -/
theorem zeros_eq (draft : Draft) :
    Bytes.zeros draft.extent =
      (blank headArray ++ blank (24 * draft.head.capacity) ++
        (blank (24 * draft.data.capacity) ++ blank versionAreaSize) ++
        blank (draft.extent - draft.rowsArea)).toArray := by
  have area := draft.rowsArea_eq
  have rows := draft.rowsArea_le_stop
  have rounded := draft.stop_le_extent
  simp only [blank, List.replicate_append_replicate, headArray_eq, versionAreaSize]
  rw [Bytes.zeros, <- List.toArray_replicate]
  congr 2
  omega

/-- The arena when the head rows are stored. -/
theorem Bounded.storeRows_head {draft : Draft} (bounded : draft.Bounded) (base : UInt64)
    (aligned : base.toNat % headerAlignment = 0) :
    Arena.storeRows ⟨⟨base, Bytes.zeros draft.extent⟩, draft.rowsArea⟩ headArray
        draft.head.rows.toList =
      .ok ⟨Arena.prepared base (blank headArray ++ draft.tableOctets (.addressesFrom base) .head)
          (blank (24 * draft.data.capacity))
          (blank versionAreaSize ++
            DraftRow.storedFrom draft.rowsArea draft.head.rows.toList)
          (draft.extent - draft.firstPlace .data),
        draft.firstPlace .data⟩ := by
  have area := draft.rowsArea_eq
  have rows := draft.rowsArea_le_stop
  have limit := bounded.stop_lt
  have rounded := draft.stop_le_extent
  have size := DraftRow.length_storedFrom draft.rowsArea draft.head.rows.toList
  have inner := DraftRow.le_stopOf (draft.firstPlace .data) draft.data.rows.toList
  rw [<- stop_eq_stopOf_data] at inner
  simp only [firstPlace] at inner
  have start : (blank headArray).length = headArray := List.length_replicate
  have stored := bounded.storeRows_table base .head (blank headArray)
    (blank (24 * draft.data.capacity) ++ blank versionAreaSize) (draft.extent - draft.rowsArea)
    (by
      simp only [blank, table, firstPlace, List.length_append, List.length_replicate,
        headArray_eq, versionAreaSize, area]
      omega)
    (by rw [start, headArray_eq]; unfold headerAlignment at *; omega)
    (by simp only [table, firstPlace]; omega)
    (by simp only [table, firstPlace]; unfold addressLimit; omega)
  have free : draft.extent - draft.rowsArea -
      (DraftRow.storedFrom draft.rowsArea draft.head.rows.toList).length =
        draft.extent - draft.firstPlace .data := by
    simp only [firstPlace]
    omega
  simp only [table, firstPlace, start, free] at stored
  rw [draft.zeros_eq]
  refine stored.trans ?_
  simp only [Arena.prepared, List.append_assoc]
  rfl

/-- The arena when the data rows are stored as well. -/
theorem Bounded.storeRows_data {draft : Draft} (bounded : draft.Bounded) (base : UInt64)
    (aligned : base.toNat % headerAlignment = 0) :
    Arena.storeRows
        ⟨Arena.prepared base
          (blank headArray ++ draft.tableOctets (.addressesFrom base) .head)
          (blank (24 * draft.data.capacity))
          (blank versionAreaSize ++
            DraftRow.storedFrom draft.rowsArea draft.head.rows.toList)
          (draft.extent - draft.firstPlace .data),
        draft.firstPlace .data⟩ draft.dataArray draft.data.rows.toList =
      .ok ⟨⟨base, (blank headArray ++ draft.tableOctets (.addressesFrom base) .head ++
          draft.tableOctets (.addressesFrom base) .data ++ blank versionAreaSize ++
          DraftRow.storedFrom draft.rowsArea draft.allRows ++
          blank (draft.extent - draft.stop)).toArray⟩,
        draft.stop⟩ := by
  have area := draft.rowsArea_eq
  have array := draft.dataArray_eq
  have limit := bounded.stop_lt
  have rounded := draft.stop_le_extent
  have headSize := DraftRow.length_storedFrom draft.rowsArea draft.head.rows.toList
  have dataSize := DraftRow.length_storedFrom (draft.firstPlace .data) draft.data.rows.toList
  have slotsSize := bounded.length_tableOctets (.addressesFrom base) .head
  have before : DraftRow.stopOf draft.rowsArea draft.head.rows.toList =
    draft.firstPlace .data := rfl
  rw [before] at headSize
  rw [<- stop_eq_stopOf_data] at dataSize
  simp only [table] at slotsSize
  have front : (blank headArray ++ draft.tableOctets (.addressesFrom base) .head).length =
      draft.dataArray := by
    rw [List.length_append, List.length_replicate, slotsSize, headArray_eq, array]
  have stored := bounded.storeRows_table base .data
    (blank headArray ++ draft.tableOctets (.addressesFrom base) .head)
    (blank versionAreaSize ++ DraftRow.storedFrom draft.rowsArea draft.head.rows.toList)
    (draft.extent - draft.firstPlace .data)
    (by
      rw [List.length_append, List.length_append, front]
      simp only [table, List.length_append, List.length_replicate, versionAreaSize]
      omega)
    (by rw [front, array]; unfold headerAlignment at *; omega)
    (by simp only [table]; omega)
    (by simp only [table]; rw [<- stop_eq_stopOf_data]; unfold addressLimit; omega)
  have free : draft.extent - draft.firstPlace .data -
      (DraftRow.storedFrom (draft.firstPlace .data) draft.data.rows.toList).length =
        draft.extent - draft.stop := by
    omega
  simp only [table] at stored
  rw [front, free, <- stop_eq_stopOf_data] at stored
  refine stored.trans ?_
  simp only [Arena.prepared, allRows, DraftRow.storedFrom_append, List.append_assoc]
  rfl

/-- The version is stored in front of the padding of its area. -/
theorem Bounded.put_version {draft : Draft} (bounded : draft.Bounded) (base : UInt64)
    (before after : List UInt8) (behind : before.length = draft.versionArea) :
    Span.put ⟨base, (before ++ blank versionAreaSize ++ after).toArray⟩ draft.versionArea
        (Utf8.ofString draft.version).toList =
      .ok ⟨base, (before ++ draft.versionField ++ after).toArray⟩ := by
  have fits := bounded.version_lt
  have stored := Span.put_append base before (blank (Utf8.ofString draft.version).size)
    (blank (versionAreaSize - (Utf8.ofString draft.version).size) ++ after)
    (Utf8.ofString draft.version).toList (by simp [blank])
  rw [behind] at stored
  rw [blank_split (Nat.le_of_lt fits), versionField]
  simp only [List.append_assoc] at stored ⊢
  exact stored

/-- A live image holds the encoding of the draft with addresses. -/
theorem Bounded.build_eq_ok {draft : Draft} (bounded : draft.Bounded) (base : UInt64)
    (aligned : base.toNat % headerAlignment = 0) :
    draft.build base =
      .ok ⟨⟨base, (draft.encodedWith (.addressesFrom base)).toArray⟩⟩ := by
  have sized := bounded.capacity_eq
  have head := bounded.storeRows_head base aligned
  have data := bounded.storeRows_data base aligned
  have headSize := bounded.length_tableOctets (.addressesFrom base) .head
  have dataSize := bounded.length_tableOctets (.addressesFrom base) .data
  have version := bounded.put_version base
    (blank headArray ++ draft.tableOctets (.addressesFrom base) .head ++
      draft.tableOctets (.addressesFrom base) .data)
    (DraftRow.storedFrom draft.rowsArea draft.allRows ++ blank (draft.extent - draft.stop))
    (by
      rw [List.length_append, List.length_append, headSize, dataSize, versionArea_eq]
      exact congrArg (· + _ + _) List.length_replicate)
  have header := Span.putHeader_front base (blank headArray)
    (draft.tableOctets (.addressesFrom base) .head ++
      draft.tableOctets (.addressesFrom base) .data ++ draft.versionField ++
      DraftRow.storedFrom draft.rowsArea draft.allRows ++ blank (draft.extent - draft.stop))
    (draft.encodedHeader (.addressesFrom base)) List.length_replicate (by decide) aligned
  have sameHeader : ContainerHeader.ofParts .live (draft.tableHeader .head base)
      (draft.tableHeader .data base) (UInt64.ofNat draft.extent)
      (Arena.reference base draft.versionArea) =
        draft.encodedHeader (.addressesFrom base) := rfl
  simp only [List.append_assoc] at version header
  unfold build
  simp only [sized, head, data, Outcome.liftAbort_ok, Outcome.ok_bind]
  simp only [sameHeader, List.append_assoc, version, header, Outcome.liftAbort_ok,
    Outcome.lift_ok, Outcome.ok_bind, Outcome.pure_eq_ok, encodedWith]

end Draft
end MappedTables
