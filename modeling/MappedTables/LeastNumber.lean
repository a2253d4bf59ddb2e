namespace MappedTables

/-!
The least number with a property.

A search over consecutive numbers that stops at the first hit.  It is used for
the first row with a mark and for the lowest free descriptor.
-/

/-- The least of the `count` numbers from `start` on that has a property. -/
def leastFrom (holds : Nat -> Bool) : Nat -> Nat -> Option Nat
  | 0, _ => none
  | count + 1, start =>
      if holds start then some start else leastFrom holds count (start + 1)

/-- A hit lies in the searched range, has the property, and nothing before it has. -/
theorem leastFrom_eq_some_iff (holds : Nat -> Bool) (count start found : Nat) :
    leastFrom holds count start = some found <->
      start <= found ∧ found < start + count ∧ holds found = true ∧
        forall earlier, start <= earlier -> earlier < found -> holds earlier = false := by
  induction count generalizing start with
  | zero =>
      simp only [leastFrom, reduceCtorEq, false_iff]
      omega
  | succ count ih =>
      by_cases hit : holds start = true
      · simp only [leastFrom, if_pos hit, Option.some.injEq]
        constructor
        · intro same
          subst same
          exact ⟨Nat.le_refl _, by omega, hit, fun _ _ _ => by omega⟩
        · rintro ⟨from_start, _, _, none_before⟩
          by_cases same : start = found
          · exact same
          · have missed := none_before start (Nat.le_refl _) (by omega)
            rw [hit] at missed
            exact absurd missed (by decide)
      · simp only [leastFrom, if_neg hit, ih]
        constructor
        · rintro ⟨from_next, bound, has, none_before⟩
          refine ⟨by omega, by omega, has, fun earlier from_start before => ?_⟩
          by_cases same : earlier = start
          · rw [same]
            exact Bool.eq_false_iff.mpr hit
          · exact none_before earlier (by omega) before
        · rintro ⟨from_start, bound, has, none_before⟩
          have different : found ≠ start := by
            intro same
            rw [same] at has
            exact hit has
          exact ⟨by omega, by omega, has,
            fun earlier from_next before => none_before earlier (by omega) before⟩

/-- A search fails exactly when no number in the range has the property. -/
theorem leastFrom_eq_none_iff (holds : Nat -> Bool) (count start : Nat) :
    leastFrom holds count start = none <->
      forall number, start <= number -> number < start + count -> holds number = false := by
  induction count generalizing start with
  | zero =>
      simp only [leastFrom, true_iff]
      omega
  | succ count ih =>
      by_cases hit : holds start = true
      · simp only [leastFrom, if_pos hit, reduceCtorEq, false_iff]
        intro absent
        have missed := absent start (Nat.le_refl _) (by omega)
        rw [hit] at missed
        exact absurd missed (by decide)
      · simp only [leastFrom, if_neg hit, ih]
        constructor
        · intro absent number from_start bound
          by_cases same : number = start
          · rw [same]
            exact Bool.eq_false_iff.mpr hit
          · exact absent number (by omega) (by omega)
        · intro absent number from_next bound
          exact absent number (by omega) (by omega)

end MappedTables
