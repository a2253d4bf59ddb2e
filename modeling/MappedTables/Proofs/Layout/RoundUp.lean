import Mathlib.Algebra.Group.Nat.Defs
import MappedTables.Layout.Align

namespace MappedTables

/-!
Rounding up as arithmetic.

Clearing the low bits of a machine word is the same as dropping the remainder
modulo a power of two.  So the next aligned place is the least multiple that is
not below a place, and the places of a layout can be compared by arithmetic.
-/

/-- The least multiple of `multiple` that is at least `value`. -/
def roundUp (value multiple : Nat) : Nat :=
  (value + multiple - 1) / multiple * multiple

theorem le_roundUp (value : Nat) {multiple : Nat} (positive : 0 < multiple) :
    value <= roundUp value multiple := by
  have division := Nat.div_add_mod (value + multiple - 1) multiple
  have remainder := Nat.mod_lt (value + multiple - 1) positive
  rw [Nat.mul_comm] at division
  unfold roundUp
  omega

theorem roundUp_lt (value : Nat) {multiple : Nat} (positive : 0 < multiple) :
    roundUp value multiple < value + multiple := by
  have whole := Nat.div_mul_le_self (value + multiple - 1) multiple
  unfold roundUp
  omega

@[simp] theorem roundUp_mod (value multiple : Nat) : roundUp value multiple % multiple = 0 :=
  Nat.mul_mod_left _ _

/-- No lower multiple is at least the value. -/
theorem roundUp_le {value bound multiple : Nat} (positive : 0 < multiple)
    (below : value <= bound) (whole : bound % multiple = 0) :
    roundUp value multiple <= bound := by
  rcases Nat.dvd_of_mod_eq_zero whole with ⟨count, rfl⟩
  have few : (value + multiple - 1) / multiple < count + 1 := by
    rw [Nat.div_lt_iff_lt_mul positive, Nat.add_mul, Nat.one_mul, Nat.mul_comm count]
    omega
  rw [roundUp, Nat.mul_comm]
  exact Nat.mul_le_mul_left multiple (Nat.le_of_lt_succ few)

/-- Clearing the `bits` low bits of a machine word drops its remainder. -/
theorem and_high_bits (word bits : Nat) (bounded : word < 2 ^ 64) (few : bits <= 64) :
    word &&& (2 ^ 64 - 2 ^ bits) = word / 2 ^ bits * 2 ^ bits := by
  have mask : 2 ^ 64 - 2 ^ bits = (2 ^ (64 - bits) - 1) * 2 ^ bits := by
    rw [Nat.sub_mul, <- Nat.pow_add, Nat.sub_add_cancel few, Nat.one_mul]
  apply Nat.eq_of_testBit_eq
  intro position
  rw [mask, Nat.testBit_and, Nat.testBit_mul_two_pow, Nat.testBit_mul_two_pow,
    Nat.testBit_two_pow_sub_one, Nat.testBit_div_two_pow]
  by_cases low : position < bits
  · simp [Nat.not_le.mpr low]
  · have same : position - bits + bits = position := by omega
    by_cases high : position < 64
    · have inside : position - bits < 64 - bits := by omega
      simp [inside, same, Nat.le_of_not_lt low]
    · have clear : word.testBit position = false := by
        apply Nat.testBit_lt_two_pow
        exact Nat.lt_of_lt_of_le bounded (Nat.pow_le_pow_right (by decide) (by omega))
      simp [same, clear]

/-- Aligning succeeds where the sum is a machine word, and rounds up. -/
theorem alignUp_eq_ok (value bits : Nat) (few : bits <= 64)
    (room : value + 2 ^ bits < addressLimit) :
    alignUp value (2 ^ bits) = .ok (roundUp value (2 ^ bits)) := by
  have positive : 0 < 2 ^ bits := Nat.two_pow_pos bits
  have accepted : ¬ (2 ^ bits = 0 ∨ addressLimit <= value + 2 ^ bits) := by omega
  have bounded : value + 2 ^ bits - 1 < 2 ^ 64 := by
    unfold addressLimit at room
    omega
  rw [alignUp, if_neg accepted, roundUp]
  exact congrArg Except.ok (and_high_bits _ bits bounded few)

end MappedTables
