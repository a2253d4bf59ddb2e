import Mathlib.Data.List.Perm.Subperm
import MappedTables.Storage.Host

namespace MappedTables

/-!
Numbers of descriptors.

A process that has so many descriptors open cannot have all of the next so many
numbers taken, so that the search for a free number finds one.  A number that was
free is given to one descriptor only, and giving it back leaves the descriptors
as they were.
-/

/-- What is looked up by a key is there if the key is. -/
theorem isSome_lookup_iff {Key Value : Type} [BEq Key] [LawfulBEq Key]
    {entries : List (Key × Value)} {key : Key} :
    (entries.lookup key).isSome = true <-> key ∈ entries.map Prod.fst := by
  rw [List.lookup_isSome_iff, List.mem_map]
  constructor
  · rintro ⟨entry, present, same⟩
    exact ⟨entry, present, (beq_iff_eq.mp same).symm⟩
  · rintro ⟨entry, present, same⟩
    exact ⟨entry, present, beq_iff_eq.mpr same.symm⟩

namespace Host

variable {host : Host}

theorem opened?_eq_none_iff {number : Nat} :
    host.opened? number = none <-> number ∉ host.descriptors.map Prod.fst := by
  rw [opened?, <- isSome_lookup_iff, Option.not_isSome_iff_eq_none]

/-- Among one number more than there are open descriptors one is free. -/
theorem opened?_freeDescriptor (host : Host) : host.opened? host.freeDescriptor = none := by
  let isFree := fun number => (host.opened? number).isNone
  cases found : leastFrom isFree (host.descriptors.length + 1) firstDescriptor with
  | some number =>
      have free := ((leastFrom_eq_some_iff _ _ _ _).mp found).2.2.1
      rw [freeDescriptor, found]
      exact Option.isNone_iff_eq_none.mp free
  | none =>
      have taken := (leastFrom_eq_none_iff _ _ _).mp found
      let candidates := List.range' firstDescriptor (host.descriptors.length + 1)
      have listed : candidates ⊆ host.descriptors.map Prod.fst := by
        intro number member
        rw [List.mem_range'_1] at member
        have occupied := taken number member.1 member.2
        by_contra absent
        rw [<- opened?_eq_none_iff] at absent
        have free : isFree number = true := Option.isNone_iff_eq_none.mpr absent
        rw [occupied] at free
        cases free
      have count := (List.Nodup.subperm List.nodup_range' listed).length_le
      rw [List.length_range', List.length_map] at count
      exact absurd count (Nat.not_succ_le_self _)

/-- Closing the descriptor that was opened last undoes its opening. -/
theorem descriptors_closeDescriptor_openDescriptor (host : Host) (target : OpenFile) :
    ((host.openDescriptor target).2.closeDescriptor host.freeDescriptor).descriptors =
      host.descriptors := by
  have absent := opened?_eq_none_iff.mp host.opened?_freeDescriptor
  have dropped : ((host.freeDescriptor, target) :: host.descriptors).filter
      (·.1 ≠ host.freeDescriptor) = host.descriptors.filter (·.1 ≠ host.freeDescriptor) :=
    List.filter_cons_of_neg (by simp)
  change ((host.freeDescriptor, target) :: host.descriptors).filter
    (·.1 ≠ host.freeDescriptor) = host.descriptors
  rw [dropped, List.filter_eq_self]
  intro entry member
  apply decide_eq_true
  intro same
  rw [<- same] at absent
  exact absent (List.mem_map_of_mem member)

end Host
end MappedTables
