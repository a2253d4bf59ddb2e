import MappedTables.Text.Lines

namespace MappedTables

/-!
The first line of a text, and the lines after it.

A text is a first line without a line feed and, if there is a line feed, the
text behind it.  Its lines are then that first line and the lines of the rest;
a text that is empty has none.
-/

theorem pieces_ne_nil (separator : Char) (text : List Char) : pieces separator text ≠ [] := by
  cases text with
  | nil => exact List.cons_ne_nil _ _
  | cons character rest =>
      rw [pieces_cons]
      by_cases here : character = separator
      · rw [if_pos here]
        exact List.cons_ne_nil _ _
      · rw [if_neg here]
        cases pieces separator rest with
        | nil => exact List.cons_ne_nil _ _
        | cons piece others => exact List.cons_ne_nil _ _

/-- The pieces are those of a list that is split at a value. -/
theorem pieces_eq_splitOn (separator : Char) (text : List Char) :
    pieces separator text = text.splitOn separator := by
  induction text with
  | nil => exact (List.splitOn_nil separator).symm
  | cons character rest ih =>
      rw [pieces_cons, List.splitOn, List.splitOnP_cons_eq_if_modifyHead, ih]
      simp only [beq_iff_eq]
      by_cases here : character = separator
      · rw [if_pos here, if_pos here]
        rfl
      · rw [if_neg here, if_neg here, <- List.splitOn, <- ih]
        cases cut : pieces separator rest with
        | nil => exact absurd cut (pieces_ne_nil separator rest)
        | cons piece others => rfl

/-- A piece reaches to the first separator. -/
theorem pieces_append_cons {separator : Char} {piece : List Char} (rest : List Char)
    (unbroken : separator ∉ piece) :
    pieces separator (piece ++ separator :: rest) = piece :: pieces separator rest := by
  induction piece with
  | nil => rw [List.nil_append, pieces_cons, if_pos rfl]
  | cons character others ih =>
      rw [List.mem_cons, not_or] at unbroken
      rw [List.cons_append, pieces_cons, if_neg (Ne.symm unbroken.1), ih unbroken.2]
      rfl

theorem pieces_of_notMem {separator : Char} {text : List Char} (unbroken : separator ∉ text) :
    pieces separator text = [text] := by
  induction text with
  | nil => rfl
  | cons character rest ih =>
      rw [List.mem_cons, not_or] at unbroken
      rw [pieces_cons, if_neg (Ne.symm unbroken.1), ih unbroken.2]
      rfl

/-- The pieces hold the characters of the text, the separators left out. -/
theorem mem_pieces_iff {separator character : Char} (other : character ≠ separator)
    (text : List Char) :
    (exists piece, piece ∈ pieces separator text ∧ character ∈ piece) <-> character ∈ text := by
  induction text with
  | nil => simp
  | cons first rest ih =>
      rw [pieces_cons, List.mem_cons, <- ih]
      by_cases here : first = separator
      · rw [if_pos here]
        simp [here, other]
      · rw [if_neg here]
        cases cut : pieces separator rest with
        | nil => exact absurd cut (pieces_ne_nil separator rest)
        | cons piece others => simp [consFirst, or_assoc]

theorem lines_append_cons {line : List Char} (rest : List Char) (unbroken : '\n' ∉ line) :
    lines (line ++ '\n' :: rest) = dropReturn line :: lines rest := by
  have parts := pieces_ne_nil '\n' rest
  unfold lines
  rw [pieces_append_cons rest unbroken]
  cases cut : pieces '\n' rest with
  | nil => exact absurd cut parts
  | cons piece others =>
      simp only [List.dropLast_cons_cons, List.map_cons, List.getLast?_cons_cons]
      split <;> simp

theorem lines_of_notMem {line : List Char} (unbroken : '\n' ∉ line) :
    lines line = if line = [] then [] else [line] := by
  unfold lines
  rw [pieces_of_notMem unbroken]
  cases line with
  | nil => rfl
  | cons character rest => rfl

/-- The characters in front of the first line feed. -/
def leadingLine (text : List Char) : List Char :=
  text.takeWhile (· ≠ '\n')

theorem notMem_leadingLine (text : List Char) : '\n' ∉ leadingLine text := by
  intro member
  have apart := List.all_eq_true.mp List.all_takeWhile '\n' member
  exact absurd rfl (of_decide_eq_true apart)

/-- A text ends with its first line or goes on behind a line feed. -/
theorem leadingLine_split (text : List Char) :
    text = leadingLine text ∨ exists rest, text = leadingLine text ++ '\n' :: rest := by
  have split := List.takeWhile_append_dropWhile (p := (· ≠ '\n')) (l := text)
  cases behind : text.dropWhile (· ≠ '\n') with
  | nil =>
      rw [behind, List.append_nil] at split
      exact Or.inl split.symm
  | cons character rest =>
      have feed := List.head?_dropWhile_not (p := (· ≠ '\n')) text
      rw [behind] at feed split
      have same : character = '\n' := by simpa using feed
      subst same
      exact Or.inr ⟨rest, split.symm⟩

end MappedTables
