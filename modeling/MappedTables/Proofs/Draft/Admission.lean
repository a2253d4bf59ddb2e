import MappedTables.Draft

namespace MappedTables
namespace DraftRow

/-!
Which rows a draft admits, and in which form.

A row is built column by column, with limits that are checked at different
moments.  What comes out can be said without the steps: the text is the columns
with a terminator behind each, the starts are the running sums of their lengths,
and the row is admitted exactly if no column holds a terminator and the text is
within the limit.
-/

/-- The text of a row with the given columns. -/
def textOf (columns : List Bytes) : List UInt8 :=
  columns.flatMap fun column => column.toList ++ [columnTerminator]

/-- Where columns begin that follow one another from `start` on. -/
def startsFrom : Nat -> List Bytes -> List Nat
  | _, [] => []
  | start, column :: rest => start :: startsFrom (start + column.size + 1) rest

/-- The row that holds the given columns. -/
def holding (columns : List Bytes) : DraftRow where
  text := (textOf columns).toArray
  starts := (startsFrom 0 columns).toArray

/-- Columns that a row can hold. -/
structure Admissible (columns : List Bytes) : Prop where
  clean : forall column, column ∈ columns -> columnTerminator ∉ column
  room : (textOf columns).length <= rowLimit

/-! ## Texts and starts -/

@[simp] theorem textOf_nil : textOf [] = [] := rfl

@[simp] theorem textOf_cons (column : Bytes) (rest : List Bytes) :
    textOf (column :: rest) = column.toList ++ [columnTerminator] ++ textOf rest := rfl

theorem textOf_append (before after : List Bytes) :
    textOf (before ++ after) = textOf before ++ textOf after :=
  List.flatMap_append

@[simp] theorem length_startsFrom (start : Nat) (columns : List Bytes) :
    (startsFrom start columns).length = columns.length := by
  induction columns generalizing start with
  | nil => rfl
  | cons column rest ih => rw [startsFrom, List.length_cons, ih, List.length_cons]

/-- Every column takes up at least its terminator. -/
theorem length_le_length_textOf (columns : List Bytes) :
    columns.length <= (textOf columns).length := by
  induction columns with
  | nil => exact Nat.le_refl 0
  | cons column rest ih =>
      simp only [textOf_cons, List.length_append, List.length_cons, List.length_nil]
      omega

/-- A column starts in front of its terminator, which is part of the text. -/
theorem bounds_of_mem_startsFrom {start : Nat} {columns : List Bytes} {value : Nat}
    (member : value ∈ startsFrom start columns) :
    start <= value ∧ value < start + (textOf columns).length := by
  induction columns generalizing start with
  | nil => cases member
  | cons column rest ih =>
      simp only [textOf_cons, List.length_append, List.length_cons, List.length_nil,
        Array.length_toList]
      rcases List.mem_cons.mp member with first | later
      · omega
      · have bounds := ih later
        omega

/-- A column starts behind all the columns before it. -/
theorem getElem_startsFrom {start index : Nat} {columns : List Bytes}
    (inside : index < (startsFrom start columns).length) :
    (startsFrom start columns)[index] = start + (textOf (columns.take index)).length := by
  induction columns generalizing start index with
  | nil => exact absurd inside (Nat.not_lt_zero index)
  | cons column rest ih =>
      cases index with
      | zero => rfl
      | succ index =>
          have behind := @ih (start + column.size + 1) index (Nat.lt_of_succ_lt_succ inside)
          simp only [startsFrom, List.getElem_cons_succ, behind, List.take_succ_cons, textOf_cons,
            List.length_append, Array.length_toList, List.length_singleton]
          omega

theorem startsFrom_increasing (start : Nat) (columns : List Bytes) :
    (startsFrom start columns).Pairwise (· < ·) := by
  induction columns generalizing start with
  | nil => exact List.Pairwise.nil
  | cons column rest ih =>
      refine List.Pairwise.cons (fun later member => ?_) (ih _)
      have bounds := bounds_of_mem_startsFrom member
      omega

theorem startsFrom_append (start : Nat) (before after : List Bytes) :
    startsFrom start (before ++ after) =
      startsFrom start before ++ startsFrom (start + (textOf before).length) after := by
  induction before generalizing start with
  | nil => rfl
  | cons column rest ih =>
      have next : start + (textOf (column :: rest)).length =
          start + column.size + 1 + (textOf rest).length := by
        simp only [textOf_cons, List.length_append, List.length_cons, List.length_nil,
          Array.length_toList]
        omega
      rw [List.cons_append, startsFrom, ih, next, startsFrom, List.cons_append]

/-! ## Admission -/

/-- The row with the given columns behind its own. -/
def extend (row : DraftRow) (columns : List Bytes) : DraftRow where
  text := row.text ++ (textOf columns).toArray
  starts := row.starts ++ (startsFrom row.text.size columns).toArray

theorem extend_empty (columns : List Bytes) : extend {} columns = holding columns := by
  simp [extend, holding]

theorem extend_nil (row : DraftRow) : row.extend [] = row := by
  simp [extend, startsFrom]

theorem addColumn_eq_ok_iff (row grown : DraftRow) (column : Bytes) :
    row.addColumn column = .ok grown <->
      columnTerminator ∉ column ∧ row.text.size <= rowLimit ∧ grown = row.extend [column] := by
  have extended : row.extend [column] =
      { text := (row.text ++ column).push columnTerminator
        starts := row.starts.push row.text.size } := by
    have text : row.text ++ (textOf [column]).toArray =
        (row.text ++ column).push columnTerminator := by
      apply Array.toList_inj.mp
      simp
    rw [extend, text]
    simp [startsFrom]
  unfold addColumn
  by_cases dirty : column.contains columnTerminator = true
  · rw [if_pos dirty]
    have member := Array.contains_iff_mem.mp dirty
    simp [member]
  · rw [if_neg dirty]
    have absent : columnTerminator ∉ column := fun member =>
      dirty (Array.contains_iff_mem.mpr member)
    by_cases long : rowLimit < row.text.size
    · rw [if_pos long]
      simp [Nat.not_le.mpr long]
    · rw [if_neg long, extended]
      constructor
      · intro same
        cases same
        exact ⟨absent, Nat.not_lt.mp long, rfl⟩
      · rintro ⟨_, _, same⟩
        rw [same]

theorem extend_cons (row : DraftRow) (column : Bytes) (rest : List Bytes) :
    (row.extend [column]).extend rest = row.extend (column :: rest) := by
  simp [extend, startsFrom, Nat.add_assoc]

/-- Columns that are clean and leave the text within the limit can be added. -/
theorem foldlM_addColumn_eq_ok (row : DraftRow) (columns : List Bytes)
    (clean : forall column, column ∈ columns -> columnTerminator ∉ column)
    (room : row.text.size + (textOf columns).length <= rowLimit) :
    columns.foldlM addColumn row = .ok (row.extend columns) := by
  induction columns generalizing row with
  | nil => exact congrArg Except.ok (extend_nil row).symm
  | cons column rest ih =>
      have added : row.addColumn column = .ok (row.extend [column]) :=
        (addColumn_eq_ok_iff row _ column).mpr
          ⟨clean column List.mem_cons_self, by omega, rfl⟩
      have grown : (row.extend [column]).text.size = row.text.size + column.size + 1 := by
        simp [extend, Nat.add_assoc]
      have smaller : (row.extend [column]).text.size + (textOf rest).length <= rowLimit := by
        rw [grown]
        simp only [textOf_cons, List.length_append, List.length_cons, List.length_nil,
          Array.length_toList] at room
        omega
      rw [List.foldlM_cons, added]
      exact (ih _ (fun other member => clean other (List.mem_cons_of_mem _ member))
        smaller).trans (congrArg Except.ok (extend_cons row column rest))

/-- Only clean columns can be added, and they are put behind the others. -/
theorem of_foldlM_addColumn (row grown : DraftRow) (columns : List Bytes)
    (added : columns.foldlM addColumn row = .ok grown) :
    (forall column, column ∈ columns -> columnTerminator ∉ column) ∧
      grown = row.extend columns := by
  induction columns generalizing row with
  | nil =>
      injection added with same
      subst same
      exact ⟨nofun, (extend_nil _).symm⟩
  | cons column rest ih =>
      rw [List.foldlM_cons] at added
      cases first : row.addColumn column with
      | error refusal =>
          rw [first] at added
          cases added
      | ok next =>
          rw [first] at added
          rcases (addColumn_eq_ok_iff row next column).mp first with ⟨absent, _, same⟩
          rcases ih next added with ⟨clean, whole⟩
          refine ⟨?_, ?_⟩
          · intro other member
            rcases List.mem_cons.mp member with equal | later
            · exact equal ▸ absent
            · exact clean other later
          · rw [whole, same, extend_cons]

/-- A row is admitted exactly if its columns are admissible, and then it holds
exactly these columns. -/
theorem ofColumns_eq_ok_iff (columns : List Bytes) (row : DraftRow) :
    ofColumns columns = .ok row <-> Admissible columns ∧ row = holding columns := by
  have textSize : (holding columns).text.size = (textOf columns).length := by simp [holding]
  have startsSize : (holding columns).starts.size = columns.length := by simp [holding]
  have fewer := length_le_length_textOf columns
  constructor
  · intro built
    unfold ofColumns at built
    cases folded : columns.foldlM addColumn {} with
    | error refusal =>
        rw [folded] at built
        cases built
    | ok grown =>
        rcases of_foldlM_addColumn {} grown columns folded with ⟨clean, whole⟩
        rw [extend_empty] at whole
        subst whole
        rw [folded] at built
        by_cases long : rowLimit < (holding columns).text.size
        · simp [bind, Except.bind, long, throw, throwThe, MonadExceptOf.throw] at built
        · have few : ¬ rowLimit < (holding columns).starts.size := by omega
          simp [bind, Except.bind, long, few, pure, Except.pure] at built
          exact ⟨⟨clean, by omega⟩, built.symm⟩
  · rintro ⟨⟨clean, room⟩, same⟩
    have folded := foldlM_addColumn_eq_ok {} columns clean (by simpa using room)
    have short : ¬ rowLimit < (holding columns).text.size := by omega
    have few : ¬ rowLimit < (holding columns).starts.size := by omega
    rw [extend_empty] at folded
    simp [ofColumns, folded, bind, Except.bind, short, few, pure, Except.pure, same]

end DraftRow
end MappedTables
