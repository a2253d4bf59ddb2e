namespace MappedTables

/-!
Unsigned decimal numerals.

A numeral is one or more decimal digits, with an optional plus sign in front.
Leading zeros are allowed; a number above the limit of its type is refused like
a text that is no numeral at all.
-/

def digit? (character : Char) : Option Nat :=
  if '0' <= character ∧ character <= '9' then some (character.toNat - '0'.toNat) else none

/-- The number that digits stand for, the digits before them standing for `value`. -/
def digitsValue? (value : Nat) : List Char -> Option Nat
  | [] => some value
  | character :: rest =>
      match digit? character with
      | some digit => digitsValue? (10 * value + digit) rest
      | none => none

/-- The number that a numeral stands for, if it is below `limit`. -/
def numeral? (limit : Nat) (text : String) : Option Nat :=
  let digits :=
    match text.toList with
    | '+' :: rest => rest
    | characters => characters
  match digits with
  | [] => none
  | _ => (digitsValue? 0 digits).filter (· < limit)

example : numeral? 65536 "+007" = some 7 := by decide

example : numeral? 65536 "65536" = none := by decide

end MappedTables
