import MappedTables.Proofs.Image.Encoding

namespace MappedTables

/-!
The parts of a container and the places between them.

A container is made of parts: its header, the slots, the version area, and the
table of starts and the text of every row.  Each part stands behind the one
before it, which is all that is needed to see that no two of them have a place
in common; what is between them is padding.  So the encoding of a draft is its
parts, laid out one behind the other with zeros in the gaps, and the size of the
container is the least that has room for them.
-/

/-- What a part of a container is for. -/
inductive PartRole where
  | header
  | slot
  | version
  | starts
  | text
  deriving DecidableEq, Repr

namespace PartRole

/-- Parts of this role begin at multiples of this number. -/
def alignment : PartRole -> Nat
  | header => headerAlignment
  | slot => headerAlignment
  | version => 1
  | starts => startsAlignment
  | text => 1

end PartRole

/-- Octets at a place. -/
structure Part where
  role : PartRole
  place : Nat
  octets : List UInt8
  deriving DecidableEq, Repr

namespace Part

/-- The first place behind a part. -/
def stop (part : Part) : Nat :=
  part.place + part.octets.length

/-- Two parts have no place in common. -/
def Apart (one other : Part) : Prop :=
  one.stop <= other.place ∨ other.stop <= one.place

/-- The part is found in octets at its place. -/
def StandsIn (part : Part) (octets : List UInt8) : Prop :=
  exists front back, front.length = part.place ∧ octets = front ++ part.octets ++ back

/-- Where the last of several parts ends. -/
def stopOf (start : Nat) (parts : List Part) : Nat :=
  parts.foldl (fun _ part => part.stop) start

/-- From a place on, parts stand one behind the other. -/
def Ordered : Nat -> List Part -> Prop
  | _, [] => True
  | start, part :: rest => start <= part.place ∧ Ordered part.stop rest

/-- The octets of parts from a place on, with zeros between them. -/
def laid : Nat -> List Part -> List UInt8
  | _, [] => []
  | start, part :: rest => blank (part.place - start) ++ part.octets ++ laid part.stop rest

@[simp] theorem stopOf_nil (start : Nat) : stopOf start [] = start := rfl

@[simp] theorem stopOf_cons (start : Nat) (part : Part) (rest : List Part) :
    stopOf start (part :: rest) = stopOf part.stop rest := rfl

theorem stopOf_append (start : Nat) (before after : List Part) :
    stopOf start (before ++ after) = stopOf (stopOf start before) after :=
  List.foldl_append

theorem ordered_append_iff {start : Nat} {before after : List Part} :
    Ordered start (before ++ after) <->
      Ordered start before ∧ Ordered (stopOf start before) after := by
  induction before generalizing start with
  | nil => simp [Ordered]
  | cons part rest ih =>
      rw [List.cons_append, Ordered, ih, Ordered, stopOf_cons, and_assoc]

theorem laid_append (start : Nat) (before after : List Part) :
    laid start (before ++ after) = laid start before ++ laid (stopOf start before) after := by
  induction before generalizing start with
  | nil => rfl
  | cons part rest ih =>
      rw [List.cons_append, laid, ih, laid, stopOf_cons, List.append_assoc _ (laid _ rest)]

/-- There is no gap in front of a part that begins where the one before it ends. -/
theorem laid_cons_self (role : PartRole) (place : Nat) (octets : List UInt8)
    (rest : List Part) :
    laid place (⟨role, place, octets⟩ :: rest) =
      octets ++ laid (stop ⟨role, place, octets⟩) rest := by
  rw [laid, Nat.sub_self]
  rfl

/-- Ordered parts are inside of the range that they take up. -/
theorem Ordered.inside {start : Nat} {parts : List Part} (ordered : Ordered start parts) :
    start <= stopOf start parts ∧
      forall part, part ∈ parts -> start <= part.place ∧ part.stop <= stopOf start parts := by
  induction parts generalizing start with
  | nil => exact ⟨Nat.le_refl start, fun _ none => absurd none List.not_mem_nil⟩
  | cons first rest ih =>
      rcases ordered with ⟨here, later⟩
      rcases ih later with ⟨forward, within⟩
      have long : first.place <= first.stop := Nat.le_add_right _ _
      refine ⟨by rw [stopOf_cons]; omega, fun part member => ?_⟩
      rw [stopOf_cons]
      rcases List.mem_cons.mp member with rfl | behind
      · exact ⟨here, forward⟩
      · have bounds := within part behind
        exact ⟨by omega, bounds.2⟩

/-- Ordered parts have no place in common. -/
theorem Ordered.apart {start : Nat} {parts : List Part} (ordered : Ordered start parts) :
    parts.Pairwise Apart := by
  induction parts generalizing start with
  | nil => exact List.Pairwise.nil
  | cons first rest ih =>
      have within := ordered.2.inside.2
      exact List.Pairwise.cons (fun other behind => Or.inl (within other behind).1) (ih ordered.2)

/-- Each of several ordered parts stands at its place. -/
theorem Ordered.standsIn {start : Nat} {parts : List Part} (ordered : Ordered start parts)
    (front back : List UInt8) (behind : front.length = start) {part : Part}
    (member : part ∈ parts) : part.StandsIn (front ++ laid start parts ++ back) := by
  induction parts generalizing start front with
  | nil => exact absurd member List.not_mem_nil
  | cons first rest ih =>
      have here := ordered.1
      have gap : (front ++ blank (first.place - start)).length = first.place := by
        rw [List.length_append, List.length_replicate]
        omega
      rcases List.mem_cons.mp member with rfl | later
      · refine ⟨front ++ blank (part.place - start), laid part.stop rest ++ back, gap, ?_⟩
        simp only [laid, List.append_assoc]
      · have next := ih ordered.2 (front ++ blank (first.place - start) ++ first.octets)
          (by rw [List.length_append, gap]; rfl) later
        simpa only [laid, List.append_assoc] using next

end Part

/-! ## The parts of a draft -/

/-- Slots that stand one behind the other. -/
def slotParts : Nat -> List RowHeader -> List Part
  | _, [] => []
  | place, slot :: rest =>
      ⟨.slot, place, StoredHeader.encode slot⟩ :: slotParts (place + rowSlotSize) rest

theorem stop_slot (place : Nat) (slot : RowHeader) :
    Part.stop ⟨.slot, place, StoredHeader.encode slot⟩ = place + rowSlotSize :=
  congrArg (place + ·) (length_encode slot)

theorem stopOf_slotParts (place : Nat) (slots : List RowHeader) :
    Part.stopOf place (slotParts place slots) = place + rowSlotSize * slots.length := by
  induction slots generalizing place with
  | nil => rfl
  | cons slot rest ih =>
      rw [slotParts, Part.stopOf_cons, stop_slot, ih, List.length_cons, Nat.mul_add,
        Nat.mul_one]
      omega

theorem ordered_slotParts (place : Nat) (slots : List RowHeader) :
    Part.Ordered place (slotParts place slots) := by
  induction slots generalizing place with
  | nil => trivial
  | cons slot rest ih =>
      refine ⟨Nat.le_refl place, ?_⟩
      rw [stop_slot]
      exact ih _

/-- Slots leave no gaps. -/
theorem laid_slotParts (place : Nat) (slots : List RowHeader) :
    Part.laid place (slotParts place slots) = slots.flatMap StoredHeader.encode := by
  induction slots generalizing place with
  | nil => rfl
  | cons slot rest ih =>
      rw [slotParts, Part.laid_cons_self, stop_slot, ih, List.flatMap_cons]

theorem aligned_slotParts {place : Nat} (aligned : place % headerAlignment = 0)
    (slots : List RowHeader) {part : Part} (member : part ∈ slotParts place slots) :
    part.place % part.role.alignment = 0 := by
  induction slots generalizing place with
  | nil => exact absurd member List.not_mem_nil
  | cons slot rest ih =>
      rcases List.mem_cons.mp member with rfl | later
      · exact aligned
      · refine ih ?_ later
        rw [Nat.add_mod, aligned]
        rfl

/-- The slot that has a number. -/
theorem slotParts_mem (place : Nat) {slots : List RowHeader} {number : Nat} {slot : RowHeader}
    (found : slots[number]? = some slot) :
    ⟨.slot, place + rowSlotSize * number, StoredHeader.encode slot⟩ ∈ slotParts place slots := by
  induction slots generalizing place number with
  | nil => simp at found
  | cons first rest ih =>
      cases number with
      | zero =>
          rw [Option.some.inj found]
          exact List.mem_cons_self
      | succ number =>
          have later := ih (place + rowSlotSize) found
          rw [Nat.mul_add, Nat.mul_one, Nat.add_comm _ rowSlotSize, <- Nat.add_assoc]
          exact List.mem_cons_of_mem _ later

namespace DraftRow

/-- What is stored of rows, storage being free from `cursor` on. -/
def parts : Nat -> List DraftRow -> List Part
  | _, [] => []
  | cursor, row :: rest =>
      ⟨.starts, startsPlace cursor, row.startsTable⟩ ::
        ⟨.text, row.textPlace cursor, row.text.toList⟩ :: parts (row.stopPlace cursor) rest

theorem stop_starts (row : DraftRow) (cursor : Nat) :
    Part.stop ⟨.starts, startsPlace cursor, row.startsTable⟩ = row.textPlace cursor :=
  congrArg (startsPlace cursor + ·) row.length_startsTable

theorem stop_text (row : DraftRow) (cursor : Nat) :
    Part.stop ⟨.text, row.textPlace cursor, row.text.toList⟩ = row.stopPlace cursor :=
  congrArg (row.textPlace cursor + ·) Array.length_toList

theorem stopOf_parts (cursor : Nat) (rows : List DraftRow) :
    Part.stopOf cursor (parts cursor rows) = stopOf cursor rows := by
  induction rows generalizing cursor with
  | nil => rfl
  | cons row rest ih =>
      rw [parts, Part.stopOf_cons, Part.stopOf_cons, stop_text, ih, stopOf_cons]

theorem ordered_parts (cursor : Nat) (rows : List DraftRow) :
    Part.Ordered cursor (parts cursor rows) := by
  induction rows generalizing cursor with
  | nil => trivial
  | cons row rest ih =>
      refine ⟨le_startsPlace cursor, ?_, ?_⟩
      · exact Nat.le_of_eq (row.stop_starts cursor)
      · rw [stop_text]
        exact ih _

theorem laid_parts (cursor : Nat) (rows : List DraftRow) :
    Part.laid cursor (parts cursor rows) = storedFrom cursor rows := by
  induction rows generalizing cursor with
  | nil => rfl
  | cons row rest ih =>
      rw [parts, Part.laid, stop_starts, Part.laid_cons_self, stop_text, ih, storedFrom,
        stored, List.append_assoc _ row.text.toList]

theorem aligned_parts {cursor : Nat} {rows : List DraftRow} {part : Part}
    (member : part ∈ parts cursor rows) : part.place % part.role.alignment = 0 := by
  induction rows generalizing cursor with
  | nil => exact absurd member List.not_mem_nil
  | cons row rest ih =>
      simp only [parts, List.mem_cons] at member
      rcases member with rfl | rfl | later
      · exact roundUp_mod cursor startsAlignment
      · exact Nat.mod_one _
      · exact ih later

theorem parts_append (cursor : Nat) (before after : List DraftRow) :
    parts cursor (before ++ after) =
      parts cursor before ++ parts (stopOf cursor before) after := by
  induction before generalizing cursor with
  | nil => rfl
  | cons row rest ih =>
      rw [List.cons_append, parts, ih, parts, List.cons_append, List.cons_append, stopOf_cons]

/-- The slot of the row that has a number. -/
theorem slots_getElem? (addressing : Addressing) (cursor : Nat) {rows : List DraftRow}
    {number : Nat} {row : DraftRow} (found : rows[number]? = some row) :
    (slots addressing cursor rows)[number]? =
      some (row.slot addressing (stopOf cursor (rows.take number))) := by
  induction rows generalizing cursor number with
  | nil => simp at found
  | cons first rest ih =>
      cases number with
      | zero =>
          rw [Option.some.inj found]
          rfl
      | succ number => exact ih (first.stopPlace cursor) found

/-- What is stored of the row that has a number. -/
theorem mem_parts (cursor : Nat) {rows : List DraftRow} {number : Nat} {row : DraftRow}
    (found : rows[number]? = some row) :
    let place := stopOf cursor (rows.take number)
    ⟨.starts, startsPlace place, row.startsTable⟩ ∈ parts cursor rows ∧
      ⟨.text, row.textPlace place, row.text.toList⟩ ∈ parts cursor rows := by
  induction rows generalizing cursor number with
  | nil => simp at found
  | cons first rest ih =>
      cases number with
      | zero =>
          rw [Option.some.inj found]
          exact ⟨List.mem_cons_self, List.mem_cons_of_mem _ List.mem_cons_self⟩
      | succ number =>
          have later := ih (first.stopPlace cursor) found
          exact ⟨List.mem_cons_of_mem _ (List.mem_cons_of_mem _ later.1),
            List.mem_cons_of_mem _ (List.mem_cons_of_mem _ later.2)⟩

/-- Rows need no more room than their octets do: a row without any of them leaves the next
even place where it is. -/
theorem stopOf_le_of_covered {cursor bound : Nat} (rows : List DraftRow)
    (even : bound % startsAlignment = 0) (below : cursor <= bound)
    (covered : forall part, part ∈ parts cursor rows -> part.octets ≠ [] ->
      part.stop <= bound) :
    stopOf cursor rows <= bound := by
  induction rows generalizing cursor with
  | nil => exact below
  | cons row rest ih =>
      have starts := covered _ List.mem_cons_self
      have text := covered _ (List.mem_cons_of_mem _ List.mem_cons_self)
      rw [stop_starts] at starts
      rw [stop_text] at text
      have textBelow : row.textPlace cursor <= bound := by
        by_cases columnless : row.startsTable = []
        · have rounded : startsPlace cursor <= bound := roundUp_le (by decide) below even
          have none := row.length_startsTable
          rw [columnless, List.length_nil] at none
          unfold textPlace
          omega
        · exact starts columnless
      have stopBelow : row.stopPlace cursor <= bound := by
        by_cases empty : row.text.toList = []
        · have none : row.text.size = 0 := by
            rw [<- Array.length_toList, empty, List.length_nil]
          rw [stopPlace, none]
          exact textBelow
        · exact text empty
      exact ih stopBelow fun part later =>
        covered part (List.mem_cons_of_mem _ (List.mem_cons_of_mem _ later))

end DraftRow

namespace Draft

/-- The parts of the container that holds a draft, in the order of their places. -/
def parts (draft : Draft) (addressing : Addressing) : List Part :=
  ⟨.header, 0, StoredHeader.encode (draft.encodedHeader addressing)⟩ ::
    (slotParts headArray (draft.tableSlots addressing .head) ++
      (slotParts draft.dataArray (draft.tableSlots addressing .data) ++
        ⟨.version, draft.versionArea, draft.versionField⟩ ::
          DraftRow.parts draft.rowsArea draft.allRows))

/-- The place of a slot. -/
def slotPlace (draft : Draft) (kind : TableKind) (number : Nat) : Nat :=
  draft.arrayOf kind + rowSlotSize * number

/-- Where storage is free for the row that has a number. -/
def rowPlace (draft : Draft) (kind : TableKind) (number : Nat) : Nat :=
  DraftRow.stopOf (draft.firstPlace kind) ((draft.table kind).rows.toList.take number)

variable {draft : Draft}

theorem stop_header (draft : Draft) (addressing : Addressing) :
    Part.stop ⟨.header, 0, StoredHeader.encode (draft.encodedHeader addressing)⟩ = headArray :=
  (Nat.zero_add _).trans (length_encode _)

theorem Bounded.stop_version (bounded : draft.Bounded) :
    Part.stop ⟨.version, draft.versionArea, draft.versionField⟩ = draft.rowsArea :=
  congrArg (draft.versionArea + ·) bounded.length_versionField

theorem Bounded.stop_headSlots (bounded : draft.Bounded) (addressing : Addressing) :
    Part.stopOf headArray (slotParts headArray (draft.tableSlots addressing .head)) =
      draft.dataArray := by
  rw [stopOf_slotParts, bounded.length_tableSlots, Nat.mul_comm]
  rfl

theorem Bounded.stop_dataSlots (bounded : draft.Bounded) (addressing : Addressing) :
    Part.stopOf draft.dataArray (slotParts draft.dataArray (draft.tableSlots addressing .data)) =
      draft.versionArea := by
  rw [stopOf_slotParts, bounded.length_tableSlots, Nat.mul_comm]
  rfl

theorem Bounded.ordered_parts (bounded : draft.Bounded) (addressing : Addressing) :
    Part.Ordered 0 (draft.parts addressing) := by
  refine ⟨Nat.le_refl 0, ?_⟩
  rw [stop_header, Part.ordered_append_iff, bounded.stop_headSlots, Part.ordered_append_iff,
    bounded.stop_dataSlots]
  refine ⟨ordered_slotParts _ _, ordered_slotParts _ _, Nat.le_refl _, ?_⟩
  rw [bounded.stop_version]
  exact DraftRow.ordered_parts _ _

theorem Bounded.stopOf_parts (bounded : draft.Bounded) (addressing : Addressing) :
    Part.stopOf 0 (draft.parts addressing) = draft.stop := by
  rw [parts, Part.stopOf_cons, stop_header, Part.stopOf_append, bounded.stop_headSlots,
    Part.stopOf_append, bounded.stop_dataSlots, Part.stopOf_cons, bounded.stop_version,
    DraftRow.stopOf_parts]
  rfl

/-- The encoding of a draft is its parts, and zeros. -/
theorem Bounded.encodedWith_eq_laid (bounded : draft.Bounded) (addressing : Addressing) :
    draft.encodedWith addressing =
      Part.laid 0 (draft.parts addressing) ++ blank (draft.extent - draft.stop) := by
  rw [parts, Part.laid_cons_self, stop_header, Part.laid_append, bounded.stop_headSlots,
    Part.laid_append, bounded.stop_dataSlots, Part.laid_cons_self, bounded.stop_version,
    laid_slotParts, laid_slotParts, DraftRow.laid_parts]
  simp only [encodedWith, tableOctets, List.append_assoc]

theorem aligned_parts (draft : Draft) (addressing : Addressing) {part : Part}
    (member : part ∈ draft.parts addressing) : part.place % part.role.alignment = 0 := by
  simp only [parts, List.mem_cons, List.mem_append] at member
  rcases member with rfl | head | data | rfl | row
  · exact Nat.zero_mod _
  · exact aligned_slotParts (draft.arrayOf_mod .head) _ head
  · exact aligned_slotParts (draft.arrayOf_mod .data) _ data
  · exact Nat.mod_one _
  · exact DraftRow.aligned_parts row

/-- A container is no larger than its parts require. -/
theorem Bounded.extent_le_of_covered (bounded : draft.Bounded) (addressing : Addressing)
    {bound : Nat} (whole : bound % headerAlignment = 0)
    (covered : forall part, part ∈ draft.parts addressing -> part.octets ≠ [] ->
      part.stop <= bound) :
    draft.extent <= bound := by
  have version : draft.rowsArea <= bound := by
    have here := covered ⟨.version, draft.versionArea, draft.versionField⟩
      (by simp only [parts, List.mem_cons, List.mem_append, true_or, or_true])
    rw [bounded.stop_version] at here
    refine here fun empty => ?_
    have size := bounded.length_versionField
    have none : draft.versionField = [] := empty
    rw [none] at size
    cases size
  have even : bound % startsAlignment = 0 := by
    unfold headerAlignment at whole
    unfold startsAlignment
    omega
  have rows : draft.stop <= bound :=
    DraftRow.stopOf_le_of_covered draft.allRows even version fun part member =>
      covered part (by simp only [parts, List.mem_cons, List.mem_append, member, or_true])
  exact roundUp_le (by decide) rows whole

/-! ## Slots and rows by their numbers -/

/-- A slot that is in use. -/
theorem tableSlots_of_row (draft : Draft) (addressing : Addressing) (kind : TableKind)
    {number : Nat} {row : DraftRow} (found : (draft.table kind).rows.toList[number]? = some row) :
    (draft.tableSlots addressing kind)[number]? =
      some (row.slot addressing (draft.rowPlace kind number)) := by
  have inside := (List.getElem?_eq_some_iff.mp found).1
  rw [tableSlots, List.getElem?_append_left (by rwa [DraftRow.length_slots])]
  exact DraftRow.slots_getElem? addressing _ found

/-- A slot that no row uses. -/
theorem tableSlots_of_le (draft : Draft) (addressing : Addressing) (kind : TableKind)
    {number : Nat} (behind : (draft.table kind).rows.size <= number)
    (inside : number < (draft.table kind).capacity) :
    (draft.tableSlots addressing kind)[number]? = some (.unused addressing.mode) := by
  have count : (DraftRow.slots addressing (draft.firstPlace kind)
      (draft.table kind).rows.toList).length = (draft.table kind).rows.size := by
    rw [DraftRow.length_slots, Array.length_toList]
  rw [tableSlots, List.getElem?_append_right (by rwa [count]), count,
    List.getElem?_replicate_of_lt (by omega)]

/-- Every slot is a part. -/
theorem slot_mem_parts (draft : Draft) (addressing : Addressing) (kind : TableKind)
    {number : Nat} {slot : RowHeader}
    (found : (draft.tableSlots addressing kind)[number]? = some slot) :
    ⟨.slot, draft.slotPlace kind number, StoredHeader.encode slot⟩ ∈
      draft.parts addressing := by
  have member := slotParts_mem (draft.arrayOf kind) found
  rw [parts, List.mem_cons, List.mem_append, List.mem_append]
  cases kind with
  | head => exact Or.inr (Or.inl member)
  | data => exact Or.inr (Or.inr (Or.inl member))

/-- Both parts of every row are. -/
theorem row_mem_parts (draft : Draft) (addressing : Addressing) (kind : TableKind)
    {number : Nat} {row : DraftRow} (found : (draft.table kind).rows.toList[number]? = some row) :
    let place := draft.rowPlace kind number
    ⟨.starts, DraftRow.startsPlace place, row.startsTable⟩ ∈ draft.parts addressing ∧
      ⟨.text, row.textPlace place, row.text.toList⟩ ∈ draft.parts addressing := by
  have stored := DraftRow.mem_parts (draft.firstPlace kind) found
  have kept : forall part,
      part ∈ DraftRow.parts (draft.firstPlace kind) (draft.table kind).rows.toList ->
        part ∈ draft.parts addressing := by
    intro part member
    have whole : DraftRow.parts draft.rowsArea draft.allRows =
        DraftRow.parts (draft.firstPlace .head) draft.head.rows.toList ++
          DraftRow.parts (draft.firstPlace .data) draft.data.rows.toList :=
      DraftRow.parts_append _ _ _
    simp only [parts, whole, List.mem_cons, List.mem_append]
    cases kind with
    | head => exact Or.inr (Or.inr (Or.inr (Or.inr (Or.inl member))))
    | data => exact Or.inr (Or.inr (Or.inr (Or.inr (Or.inr member))))
  exact ⟨kept _ stored.1, kept _ stored.2⟩

/-- Each part stands in the encoding. -/
theorem Bounded.standsIn (bounded : draft.Bounded) (addressing : Addressing) {part : Part}
    (member : part ∈ draft.parts addressing) : part.StandsIn (draft.encodedWith addressing) := by
  rw [bounded.encodedWith_eq_laid]
  exact (bounded.ordered_parts addressing).standsIn [] _ rfl member

/-- No part ends behind the last row. -/
theorem Bounded.stop_le (bounded : draft.Bounded) (addressing : Addressing) {part : Part}
    (member : part ∈ draft.parts addressing) : part.stop <= draft.stop := by
  have within := (bounded.ordered_parts addressing).inside.2 part member
  rw [bounded.stopOf_parts] at within
  exact within.2

end Draft
end MappedTables
