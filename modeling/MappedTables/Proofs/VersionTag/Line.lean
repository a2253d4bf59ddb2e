import MappedTables.Proofs.Text.Utf8
import MappedTables.Proofs.Text.Visible
import MappedTables.Text.Lines
import MappedTables.VersionTag.File

namespace MappedTables

/-!
The tag on a version line.

A line gives a tag exactly if, without the blanks at its end, it is the key
followed by that tag.  So blanks at the end of a line make no difference, and a
carriage return or a line feed is a blank.  Key and tag together are short: what
stands far behind them in the line can only be blank.
-/

/-! ## Texts without the blanks at their end -/

theorem not_isBlank_of_isVisible {character : Char} (visible : isVisible character = true) :
    isBlank character = false := by
  have range := toNat_of_isVisible visible
  apply List.any_eq_false.mpr
  intro bounds member
  rw [Bool.and_eq_true, decide_eq_true_eq, decide_eq_true_eq]
  have apart : forall bounds, bounds ∈ blankRanges -> bounds.2 <= 32 ∨ 133 <= bounds.1 := by
    decide
  have side := apart bounds member
  omega

/-- A text is the text without its blanks, and its blanks. -/
theorem exists_blanks (text : List Char) :
    exists blanks, text = trimEnd text ++ blanks ∧
      forall character, character ∈ blanks -> isBlank character = true := by
  refine ⟨(text.reverse.takeWhile isBlank).reverse, ?_, ?_⟩
  · rw [trimEnd, <- List.reverse_append, List.takeWhile_append_dropWhile, List.reverse_reverse]
  · intro character member
    exact List.all_eq_true.mp List.all_takeWhile character (List.mem_reverse.mp member)

theorem trimEnd_append_blanks (text : List Char) {blanks : List Char}
    (blank : forall character, character ∈ blanks -> isBlank character = true) :
    trimEnd (text ++ blanks) = trimEnd text := by
  rw [trimEnd, List.reverse_append, List.dropWhile_append_of_pos, trimEnd]
  intro character member
  exact blank character (List.mem_reverse.mp member)

/-- A text that ends in a visible character has no blanks at its end. -/
theorem trimEnd_append_visible (front : List Char) {token : List Char} (filled : token ≠ [])
    (visible : token.all isVisible = true) : trimEnd (front ++ token) = front ++ token := by
  rcases List.eq_nil_or_concat token with empty | ⟨others, last, split⟩
  · exact absurd empty filled
  · rw [List.concat_eq_append] at split
    subst split
    have ended : isBlank last = false := by
      apply not_isBlank_of_isVisible
      exact List.all_eq_true.mp visible last (List.mem_append_right _ List.mem_cons_self)
    rw [trimEnd, <- List.append_assoc, List.reverse_append, List.reverse_singleton,
      List.singleton_append, List.dropWhile_cons_of_neg (by rw [ended]; exact Bool.false_ne_true),
      List.reverse_cons, List.reverse_reverse]

/-- A blank by itself. -/
theorem blank_singleton {ending : Char} (blank : isBlank ending = true) (character : Char)
    (member : character ∈ [ending]) : isBlank character = true := by
  rw [List.mem_singleton.mp member]
  exact blank

/-! ## Version lines -/

theorem isVersionTag_iff {token : List Char} :
    isVersionTag token = true <->
      token ≠ [] ∧ token.length < versionAreaSize ∧ token.all isVisible = true := by
  simp [isVersionTag, and_assoc]

/-- A line gives a tag exactly if it is the key and the tag, up to blanks. -/
theorem versionOfLine?_eq_some_iff {line : List Char} {tag : String} :
    versionOfLine? line = some tag <->
      isVersionTag tag.toList = true ∧ trimEnd line = versionKey ++ tag.toList := by
  unfold versionOfLine?
  constructor
  · intro given
    by_cases key : isVersionLine line = true
    · rcases List.isPrefixOf_iff_prefix.mp key with ⟨rest, opened⟩
      have dropped : line.drop versionKey.length = rest := by
        rw [<- opened, List.drop_left]
      rw [if_pos key, dropped] at given
      by_cases accepted : isVersionTag (trimEnd rest) = true
      · simp only [if_pos accepted, Option.some.injEq] at given
        rw [<- given, String.toList_ofList]
        refine ⟨accepted, ?_⟩
        rcases exists_blanks rest with ⟨blanks, split, blank⟩
        have parts := isVersionTag_iff.mp accepted
        rw [<- opened, split, <- List.append_assoc, trimEnd_append_blanks _ blank, <- split]
        exact trimEnd_append_visible versionKey parts.1 parts.2.2
      · simp [accepted] at given
    · rw [if_neg key] at given
      cases given
  · rintro ⟨accepted, trimmed⟩
    rcases exists_blanks line with ⟨blanks, split, blank⟩
    rw [trimmed, List.append_assoc] at split
    have key : isVersionLine line = true :=
      List.isPrefixOf_iff_prefix.mpr ⟨_, split.symm⟩
    have parts := isVersionTag_iff.mp accepted
    have token : trimEnd (line.drop versionKey.length) = tag.toList := by
      rw [split, List.drop_left, trimEnd_append_blanks _ blank]
      exact trimEnd_append_visible [] parts.1 parts.2.2
    simp [key, token, accepted]

/-- Blanks at the end of a line make no difference. -/
theorem versionOfLine?_append_blanks (line : List Char) {blanks : List Char}
    (blank : forall character, character ∈ blanks -> isBlank character = true) :
    versionOfLine? (line ++ blanks) = versionOfLine? line := by
  apply Option.ext
  intro tag
  rw [versionOfLine?_eq_some_iff, versionOfLine?_eq_some_iff, trimEnd_append_blanks line blank]

/-- The carriage return of a line ending makes no difference. -/
theorem versionOfLine?_dropReturn (line : List Char) :
    versionOfLine? (dropReturn line) = versionOfLine? line := by
  unfold dropReturn
  by_cases ended : line.getLast? = some '\r'
  · rcases List.getLast?_eq_some_iff.mp ended with ⟨front, split⟩
    rw [if_pos ended, split, List.dropLast_concat,
      versionOfLine?_append_blanks front (blank_singleton (by decide))]
  · rw [if_neg ended]

/-- Line feeds and carriage returns at the end of a line make no difference. -/
theorem versionOfLine?_dropLineEnd (line : List Char) :
    versionOfLine? (dropLineEnd line) = versionOfLine? line := by
  let ends (character : Char) : Bool := character = '\n' || character = '\r'
  have split : line = dropLineEnd line ++ (line.reverse.takeWhile ends).reverse := by
    rw [dropLineEnd, <- List.reverse_append, List.takeWhile_append_dropWhile,
      List.reverse_reverse]
  have blank : forall character, character ∈ (line.reverse.takeWhile ends).reverse ->
      isBlank character = true := by
    intro character member
    have ending := List.all_eq_true.mp List.all_takeWhile character (List.mem_reverse.mp member)
    rcases Bool.or_eq_true_iff.mp ending with feed | back
    · rw [of_decide_eq_true feed]
      decide
    · rw [of_decide_eq_true back]
      decide
  rw [<- versionOfLine?_append_blanks (dropLineEnd line) blank, <- split]

/-- No tag is empty. -/
theorem getD_versionOfLine?_eq_empty_iff {line : List Char} :
    (versionOfLine? line).getD "" = "" <-> versionOfLine? line = none := by
  cases given : versionOfLine? line with
  | none => simp
  | some tag =>
      have filled := (isVersionTag_iff.mp (versionOfLine?_eq_some_iff.mp given).1).1
      simpa using filled

/-- Key and tag are short: what stands behind more octets than they have is blank. -/
theorem blank_of_versionOfLine? {front rest : List Char} {tag : String}
    (given : versionOfLine? (front ++ rest) = some tag)
    (far : versionKey.length + versionAreaSize <= (Utf8.encode front).size) :
    forall character, character ∈ rest -> isBlank character = true := by
  rcases versionOfLine?_eq_some_iff.mp given with ⟨accepted, trimmed⟩
  rcases isVersionTag_iff.mp accepted with ⟨_, short, visible⟩
  rcases exists_blanks (front ++ rest) with ⟨blanks, split, blank⟩
  have small : (Utf8.encode (trimEnd (front ++ rest))).size <
      versionKey.length + versionAreaSize := by
    have allVisible : (versionKey ++ tag.toList).all isVisible = true := by
      rw [List.all_append, visible]
      decide
    rw [trimmed, Utf8.encode_of_visible allVisible, List.size_toArray, List.length_map,
      List.length_append]
    exact Nat.add_lt_add_left short _
  rcases List.append_eq_append_iff.mp split with ⟨middle, early, _⟩ | ⟨middle, _, late⟩
  · rw [early, Utf8.encode_append, Array.size_append] at small
    omega
  · intro character member
    exact blank character (late ▸ List.mem_append_right _ member)

/-- So a line that goes on with text behind them gives no tag. -/
theorem versionOfLine?_eq_none_of_far {front rest : List Char} {character : Char}
    (far : versionKey.length + versionAreaSize <= (Utf8.encode front).size)
    (member : character ∈ rest) (text : isBlank character = false) :
    versionOfLine? (front ++ rest) = none := by
  cases given : versionOfLine? (front ++ rest) with
  | none => rfl
  | some tag =>
      rw [blank_of_versionOfLine? given far character member] at text
      cases text

end MappedTables
