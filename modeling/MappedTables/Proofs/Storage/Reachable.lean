import MappedTables.Proofs.Storage.Changes

namespace MappedTables
namespace FileSystem

/-!
What files can come to be.

A system starts with the directories that every system has and an empty one for
the work.  After that anybody may write, create and remove files, make
directories, and change a file that is open or mapped.  None of these operations
takes a directory away or lets a place lead to a file that was never made, so
both hold of every state that is ever reached.
-/

/-- One operation on files, by whomever. -/
inductive Step (before : FileSystem) : FileSystem -> Prop where
  | written {text : String} {content : Bytes} {after : FileSystem}
      (done : before.write text content = .ok after) : Step before after
  | created {text : String} {permissions : Nat} {id : FileId} {after : FileSystem}
      (done : before.create text permissions = .ok (id, after)) : Step before after
  | removed {text : String} {after : FileSystem}
      (done : before.remove text = .ok after) : Step before after
  | directoryMade {text : String} {after : FileSystem}
      (done : before.makeDirectory text = .ok after) : Step before after
  | contentSet {id : FileId} (content : Bytes) (known : id < before.nextFile) :
      Step before (before.setContent id content)
  | octetsSet {id : FileId} (content : Bytes) (known : id < before.nextFile) :
      Step before (before.setOctets id content)

/-- The states that files can be in. -/
inductive Reachable : FileSystem -> Prop where
  | initial (workingDirectory : Place) : Reachable (initial workingDirectory)
  | step {before after : FileSystem} (reached : Reachable before) (step : before.Step after) :
      Reachable after

variable {before after files : FileSystem}

theorem makeDirectory_eq_ok {text : String} (done : files.makeDirectory text = .ok after) :
    exists place, files.entryAt? place = none ∧
      after = files.setEntry place (some .directory) := by
  unfold makeDirectory at done
  rcases Outcome.bind_eq_ok_iff.mp done with ⟨⟨directory, last, slash⟩, located, rest⟩
  cases last with
  | here => cases rest
  | name name =>
      rcases Outcome.bind_eq_ok_iff.mp rest with ⟨entry, looked, made⟩
      cases entry with
      | some entry => cases made
      | none =>
          cases made
          exact ⟨directory ++ [name], (entryAt?_of_lookUp looked).1, rfl⟩

theorem addFile_turn {place : Place} (free : files.entryAt? place = none)
    (stored : StoredFile) (other : Place) : Turn files (files.addFile place stored).2 other :=
  (addFile_change free stored).turn other

namespace Step

theorem nextFile_le (step : before.Step after) : before.nextFile <= after.nextFile := by
  cases step with
  | written done =>
      rcases write_eq_ok done with ⟨_, _, _, ⟨_, _, rfl⟩ | ⟨_, rfl⟩⟩
      · exact Nat.le_refl _
      · exact Nat.le_succ _
  | created done =>
      rcases create_eq_ok_iff.mp done with ⟨_, _, _, _, _, rfl⟩
      exact Nat.le_succ _
  | removed done => exact (remove_change done).keeps.nextFile_le
  | directoryMade done =>
      rcases makeDirectory_eq_ok done with ⟨_, _, rfl⟩
      exact Nat.le_refl _
  | contentSet content made => exact Nat.le_refl _
  | octetsSet content made => exact Nat.le_refl _

theorem turn (step : before.Step after) (place : Place) : Turn before after place := by
  cases step with
  | written done =>
      rcases write_eq_ok done with ⟨_, _, _, ⟨_, _, rfl⟩ | ⟨looked, rfl⟩⟩
      · exact .kept rfl
      · exact addFile_turn (entryAt?_of_lookUp looked).1 _ place
  | created done =>
      rcases create_eq_ok_iff.mp done with ⟨_, _, _, _, looked, rfl⟩
      exact addFile_turn (entryAt?_of_lookUp looked).1 _ place
  | removed done => exact (remove_change done).turn place
  | directoryMade done =>
      rcases makeDirectory_eq_ok done with ⟨opened, _, rfl⟩
      by_cases same : place = opened
      · rw [same]
        exact .opened (entryAt?_setEntry_self _ _ _)
      · exact .kept (entryAt?_setEntry_of_ne _ _ _ _ same)
  | contentSet content made => exact .kept rfl
  | octetsSet content made => exact .kept rfl

/-- Directories stay. -/
theorem directory (step : before.Step after) {place : Place}
    (present : before.entryAt? place = some .directory) :
    after.entryAt? place = some .directory := by
  cases step.turn place with
  | kept same => exact same.trans present
  | taken free _ _ =>
      rw [present] at free
      cases free
  | opened opened => exact opened
  | freed id file _ =>
      rw [present] at file
      cases file

end Step

namespace Reachable

/-- No place leads to a file that was never made. -/
theorem numbered (reachable : files.Reachable) : files.Numbered := by
  induction reachable with
  | initial workingDirectory =>
      intro place id leads
      simp only [FileSystem.initial] at leads
      split at leads
      · cases leads
      · cases leads
  | step reached step ih => exact ih.of_turns step.nextFile_le step.turn

/-- The directories that every system has are there. -/
theorem directory (reachable : files.Reachable) {place : Place}
    (standard : place ∈ [[], ["tmp"], ["dev"], ["dev", "shm"]]) :
    files.entryAt? place = some .directory := by
  induction reachable with
  | initial workingDirectory =>
      refine if_pos ?_
      have more := List.mem_append_left [workingDirectory] standard
      simpa using more
  | step reached step ih => exact step.directory ih

end Reachable
end FileSystem
end MappedTables
