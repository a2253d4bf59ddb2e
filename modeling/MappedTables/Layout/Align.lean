import MappedTables.Reference

namespace MappedTables

/-!
Rounding up to a multiple.

Headers start at multiples of eight and tables of column starts at multiples of
two.  The next such place is found by adding one less than the multiple and
clearing the low bits; the sum must be a machine word.
-/

/-- The least multiple of the power of two `multiple` that is at least `value`.
Stops where `value + multiple` is no machine word, or `multiple` is zero. -/
def alignUp (value multiple : Nat) : Except Abort Nat :=
  if multiple = 0 ∨ addressLimit <= value + multiple then .error .overflow
  else .ok ((value + multiple - 1) &&& (addressLimit - multiple))

end MappedTables
