import MappedTables.Proofs.Segment.Writing
import MappedTables.Proofs.Storage.Reachable

namespace MappedTables

/-!
Writers work step by step.

However a writer's operation ends, the files went from state to state by steps
that anybody may take.  So what every step keeps is kept by the operation as a
whole: files in a reachable state are in one afterwards, also when an object
could not be filled, or could not be removed again.
-/

/-- A property of hosts that every step of the files leaves as it is. -/
structure Host.KeptByWriters (Holds : Host -> Prop) : Prop where
  record : forall host event, Holds host -> Holds (host.record event)
  step : forall host files, Holds host -> host.files.Step files -> Holds { host with files }

theorem Host.keptByWriters_reachable : KeptByWriters (·.files.Reachable) where
  record _ _ reachable := reachable
  step _ _ reachable step := reachable.step step

namespace SegmentConfig

variable {Holds : Host -> Prop} (kept : Host.KeptByWriters Holds)
include kept

/-- To remove an object is one step, if it succeeds at all. -/
theorem removeObject_preserves (config : SegmentConfig) :
    config.removeObject.Preserves Holds := by
  intro host before
  rw [removeObject_apply]
  cases config.validate with
  | error error => exact before
  | ok _ =>
      cases outcome : host.unlessRefused .removingSegment (host.files.remove config.objectPath) with
      | error fault => exact before
      | ok files =>
          have removed := (Session.unlessRefused_eq_ok_iff.mp outcome).2
          exact kept.record _ _ (kept.step host files before (.removed removed))

theorem unlink_preserves (config : SegmentConfig) : config.unlink.Preserves Holds :=
  Session.Preserves.reporting kept.record (config.removeObject_preserves kept)

theorem discardObject_preserves (config : SegmentConfig) {host : Host} (before : Holds host) :
    Holds (config.discardObject host) := by
  have removed := config.removeObject_preserves kept host before
  unfold discardObject
  cases ran : config.removeObject host with
  | mk outcome after =>
      rw [ran] at removed
      cases outcome with
      | ok _ => exact removed
      | error error => exact kept.record _ _ removed

theorem createObject_preserves (config : SegmentConfig) :
    config.createObject.Preserves Holds := by
  intro host before
  rw [createObject_apply]
  cases outcome : host.unlessRefused .creatingSegment
    (host.files.create config.objectPath config.permissions.toNat) with
  | error fault => exact before
  | ok made =>
      have created := (Session.unlessRefused_eq_ok_iff.mp outcome).2
      exact kept.step host made.2 before (.created created)

/-- A file that was made can be filled step by step. -/
theorem fillObject_preserves {id : FileId}
    (known : forall host, Holds host -> id < host.files.nextFile) (bytes : Bytes) :
    (fillObject id bytes).Preserves Holds := by
  refine Session.Preserves.bind (Session.Preserves.performing ?_) fun _ => ?_
  · intro host files before sized
    by_cases beyond : host.sizeLimit.any (· < bytes.size)
    · rw [if_pos beyond] at sized
      cases sized
    · rw [if_neg beyond] at sized
      cases sized
      exact kept.step host _ before (.contentSet _ (known host before))
  refine Session.Preserves.bind (Session.Preserves.performing ?_) fun _ => ?_
  · intro host files before mapped
    cases mapped
    exact before
  refine Session.Preserves.bind ?_ fun _ => Session.Preserves.performing ?_
  · intro host before
    exact kept.step host _ before (.octetsSet bytes (known host before))
  · intro host files before flushed
    cases flushed
    exact before

/-- The new file has to stay known while it is filled, and while it is given up after a failure. -/
theorem publish_preserves (config : SegmentConfig) (image : Image) :
    (config.publish image).Preserves Holds := by
  rw [publish_eq]
  refine Session.Preserves.reporting kept.record ?_
  refine Session.Preserves.bind (Session.Preserves.ofExcept _) fun bytes => ?_
  refine Session.Preserves.bind_of_eq_ok (config.createObject_preserves kept) ?_
  intro host id after before ran
  -- From here on it has to be kept as well that the new file is known.
  have made : Holds after ∧ id < after.files.nextFile := by
    have between := config.createObject_preserves kept host before
    rw [ran] at between
    rcases createObject_eq_ok_iff.mp ran with ⟨_, files, created, rfl⟩
    rcases FileSystem.create_eq_ok_iff.mp created with ⟨rfl, _, _, _, _, rfl⟩
    exact ⟨between, Nat.lt_succ_self _⟩
  have both : Host.KeptByWriters fun host => Holds host ∧ id < host.files.nextFile :=
    { record := fun host event now => ⟨kept.record host event now.1, now.2⟩
      step := fun host files now step =>
        ⟨kept.step host files now.1 step, Nat.lt_of_lt_of_le now.2 step.nextFile_le⟩ }
  have filled := Session.Preserves.undoingOnFailure
    (fillObject_preserves both (fun _ now => now.2) bytes)
    fun _ now => config.discardObject_preserves both now
  refine (Session.Preserves.bind filled (fun _ => ?_) after made).1
  refine Session.Preserves.bind (Session.Preserves.record both.record _) fun _ => ?_
  exact Session.Preserves.pure _

end SegmentConfig
end MappedTables
