import Mathlib.Data.Nat.Digits.Defs
import Mathlib.Tactic.Ring
import MappedTables.Text.Numeral

namespace MappedTables

/-!
Decimal numerals, read.

A numeral of decimal digits is read as the number that its digits stand for,
however many there are, if that number is below the limit, and is refused
otherwise.  No number is reduced to fit.
-/

/-- The number that a decimal digit stands for. -/
def digitValue (digit : Char) : Nat :=
  digit.toNat - '0'.toNat

/-- A decimal numeral: at least one digit, the last of them counting ones. -/
structure Numeral (text : String) (number : Nat) : Prop where
  filled : text.toList ≠ []
  digits : text.toList.all Char.isDigit = true
  value : Nat.ofDigits 10 (text.toList.reverse.map digitValue) = number

theorem digit?_of_isDigit {character : Char} (digit : character.isDigit = true) :
    digit? character = some (digitValue character) := by
  simp only [Char.isDigit, Bool.and_eq_true, decide_eq_true_eq] at digit
  exact if_pos digit

/-- Every digit that is read raises those before it by one place. -/
theorem digitsValue?_of_digits {characters : List Char}
    (digits : characters.all Char.isDigit = true) (value : Nat) :
    digitsValue? value characters =
      some (10 ^ characters.length * value +
        Nat.ofDigits 10 (characters.reverse.map digitValue)) := by
  induction characters generalizing value with
  | nil => simp [digitsValue?]
  | cons character rest ih =>
      rw [List.all_cons, Bool.and_eq_true] at digits
      rw [digitsValue?, digit?_of_isDigit digits.1]
      simp only [ih digits.2, List.reverse_cons, List.map_append, List.map_cons, List.map_nil,
        Nat.ofDigits_append, Nat.ofDigits_singleton, List.length_map, List.length_reverse,
        List.length_cons, Option.some.injEq]
      ring

/-- A numeral is read as its number or, if the number is not below the limit, not at all. -/
theorem Numeral.numeral?_eq {text : String} {number : Nat} (numeral : Numeral text number)
    (limit : Nat) :
    numeral? limit text = if number < limit then some number else none := by
  have read := digitsValue?_of_digits numeral.digits 0
  rw [Nat.mul_zero, Nat.zero_add, numeral.value] at read
  have unsigned : forall rest, text.toList ≠ '+' :: rest := by
    intro rest signed
    have digits := numeral.digits
    rw [signed, List.all_cons] at digits
    cases digits
  have filled := numeral.filled
  unfold numeral?
  generalize text.toList = characters at read unsigned filled
  split
  case h_1 rest => exact absurd rfl (unsigned rest)
  case h_2 =>
    cases characters with
    | nil => exact absurd rfl filled
    | cons first rest => simp only [read, Option.filter_some, decide_eq_true_eq]

end MappedTables
