import MappedTables.Proofs.Segment.Identity
import MappedTables.Proofs.Segment.Opened
import MappedTables.Proofs.Segment.Steps

namespace MappedTables

/-!
Sequences of calls on segments.

Writers and readers may call in any order, on as many segments as they like.  A
call changes the files in one of two ways or not at all: a publication that
succeeds adds one file, and an unlinking that succeeds takes one place away.  So
an object stays what it is until it is unlinked under one of its own names, and
a free place stays free until somebody publishes there.
-/

/-- A call on segments, by a writer or a reader. -/
inductive SegmentCall where
  | publish (config : SegmentConfig) (image : Image)
  | unlink (config : SegmentConfig)
  | check (config : SegmentConfig)
  | attach (config : SegmentConfig)
  deriving DecidableEq, Repr

/-- A system that refuses nothing that lies in its discretion, and maps files page by page. -/
structure Host.Willing (host : Host) : Prop where
  unlimited : host.sizeLimit = none
  unrefused : forall operation, host.refusal? operation = none
  paged : host.freeAddress % pageSize = 0

theorem Host.Willing.fills {host : Host} (willing : host.Willing) (size : Nat) :
    host.Fills size where
  roomy := by
    rw [willing.unlimited]
    simp
  sizes := willing.unrefused _
  maps := willing.unrefused _
  flushes := willing.unrefused _

theorem Host.keptByReaders_willing : KeptByReaders Willing where
  record _ _ willing := ⟨willing.unlimited, willing.unrefused, willing.paged⟩
  openDescriptor _ _ willing := ⟨willing.unlimited, willing.unrefused, willing.paged⟩
  closeDescriptor _ _ willing := ⟨willing.unlimited, willing.unrefused, willing.paged⟩
  map host _ length willing := by
    refine ⟨willing.unlimited, willing.unrefused, ?_⟩
    change (host.freeAddress + _ * pageSize) % pageSize = 0
    rw [Nat.add_mul_mod_self_right]
    exact willing.paged

theorem Host.keptByWriters_willing : KeptByWriters Willing where
  record _ _ willing := ⟨willing.unlimited, willing.unrefused, willing.paged⟩
  step _ _ willing _ := ⟨willing.unlimited, willing.unrefused, willing.paged⟩

theorem Host.keptByReaders_reachable : KeptByReaders (·.files.Reachable) where
  record _ _ reachable := reachable
  openDescriptor _ _ reachable := reachable
  closeDescriptor _ _ reachable := reachable
  map _ _ _ reachable := reachable

namespace SegmentCall

/-- The host after the call. -/
def after (host : Host) : SegmentCall -> Host
  | .publish config image => (config.publish image host).2
  | .unlink config => (config.unlink host).2
  | .check _ => host
  | .attach config => (SegmentHandle.attach config host).2

/-- What a call can do to files. -/
inductive Effect (call : SegmentCall) (before after : FileSystem) : Prop where
  | nothing (same : after = before)
  | added (config : SegmentConfig) (image : Image) (directory : Place) (name : String)
      (publishes : call = .publish config image) (valid : config.validate = .ok ())
      (located : before.locate config.objectPath = .ok ⟨directory, .name name, false⟩)
      (looked : before.lookUp directory name = .ok none)
      (same : after =
        (before.addFile (directory ++ [name]) (config.publishedFile image)).2)
  | removed (config : SegmentConfig) (directory : Place) (name : String) (id : FileId)
      (unlinks : call = .unlink config) (valid : config.validate = .ok ())
      (located : before.locate config.objectPath = .ok ⟨directory, .name name, false⟩)
      (looked : before.lookUp directory name = .ok (some (.file id)))
      (same : after = before.setEntry (directory ++ [name]) none)

variable {host : Host}

/-- What a call does to the files of a willing system. -/
theorem effect (willing : host.Willing) (call : SegmentCall) :
    call.Effect host.files (call.after host).files := by
  cases call with
  | publish config image =>
      cases ran : config.publish image host with
      | mk outcome later =>
          have reached : after host (.publish config image) = later := congrArg Prod.snd ran
          rw [reached]
          cases outcome with
          | error error =>
              cases SegmentConfig.publishFailure_of_eq_error ran with
              | early journal same =>
                  rw [same]
                  exact .nothing rfl
              | late valid hindered directory name stored event located looked same =>
                  exact absurd (willing.fills _) hindered
          | ok published =>
              rcases SegmentConfig.publish_eq_ok_iff.mp ran with
                ⟨⟨container, admits⟩, _, _, directory, name, located, looked, _, rfl⟩
              exact .added config image directory name rfl admits.valid located looked rfl
  | unlink config =>
      cases ran : config.unlink host with
      | mk outcome later =>
          have reached : after host (.unlink config) = later := congrArg Prod.snd ran
          rw [reached]
          cases outcome with
          | error error => exact .nothing (SegmentConfig.files_eq_of_unlink_eq_error ran)
          | ok _ =>
              rcases SegmentConfig.removeObject_eq_ok_iff.mp
                (SegmentConfig.unlink_eq_ok_iff.mp ran) with ⟨valid, _, files, removed, rfl⟩
              rcases FileSystem.remove_eq_ok_iff.mp removed with
                ⟨directory, name, id, located, looked, rfl⟩
              exact .removed config directory name id rfl valid located looked rfl
  | check config => exact .nothing rfl
  | attach config => exact .nothing (SegmentHandle.attach_keepsFiles config host).1

/-- What steps of files and readers keep is kept by every call. -/
theorem after_preserves {Holds : Host -> Prop} (writers : Host.KeptByWriters Holds)
    (readers : Host.KeptByReaders Holds) (call : SegmentCall) (before : Holds host) :
    Holds (call.after host) := by
  cases call with
  | publish config image => exact config.publish_preserves writers image host before
  | unlink config => exact config.unlink_preserves writers host before
  | check config => exact before
  | attach config => exact SegmentHandle.attach_preserves readers config host before

/-! ## Objects and free places -/

/-- The call would remove the object of a segment. -/
def Unlinks (files : FileSystem) (config : SegmentConfig) : SegmentCall -> Prop
  | .unlink other => other.validate = .ok () ∧ SegmentConfig.SameObject files config other
  | _ => False

/-- The call would create the object of a segment. -/
def Publishes (files : FileSystem) (config : SegmentConfig) : SegmentCall -> Prop
  | .publish other _ => other.validate = .ok () ∧ SegmentConfig.SameObject files config other
  | _ => False

variable {call : SegmentCall} {before after : FileSystem}

section Paths

variable (paths : forall text target,
  after.locate text = .ok target <-> before.locate text = .ok target)
include paths

theorem unlinks_iff (config : SegmentConfig) (call : SegmentCall) :
    call.Unlinks after config <-> call.Unlinks before config := by
  cases call with
  | unlink other => exact and_congr_right fun _ => SegmentConfig.sameObject_iff paths config other
  | publish other image => exact Iff.rfl
  | check other => exact Iff.rfl
  | attach other => exact Iff.rfl

theorem publishes_iff (config : SegmentConfig) (call : SegmentCall) :
    call.Publishes after config <-> call.Publishes before config := by
  cases call with
  | publish other image =>
      exact and_congr_right fun _ => SegmentConfig.sameObject_iff paths config other
  | unlink other => exact Iff.rfl
  | check other => exact Iff.rfl
  | attach other => exact Iff.rfl

end Paths

namespace Effect

theorem change (effect : call.Effect before after) : before.Change after := by
  cases effect with
  | nothing same =>
      rw [same]
      exact .nothing (FileSystem.Untouched.refl before)
  | added config image directory name _ _ _ looked same =>
      rw [same]
      exact FileSystem.addFile_change (FileSystem.entryAt?_of_lookUp looked).1 _
  | removed config directory name id _ _ _ looked same =>
      rw [same]
      exact FileSystem.setEntry_none_change (FileSystem.entryAt?_of_lookUp looked).1

/-- An object that nobody unlinks stays where it is. -/
theorem entryAt?_of_not_unlinks (effect : call.Effect before after) {config : SegmentConfig}
    {directory : Place} {name : String} {id : FileId}
    (located : before.locate config.objectPath = .ok ⟨directory, .name name, false⟩)
    (stays : ¬ call.Unlinks before config)
    (present : before.entryAt? (directory ++ [name]) = some (.file id)) :
    after.entryAt? (directory ++ [name]) = some (.file id) := by
  cases effect with
  | nothing same =>
      rw [same]
      exact present
  | added other image where_ called _ _ _ looked same =>
      have free := (FileSystem.entryAt?_of_lookUp looked).1
      have apart : directory ++ [name] ≠ where_ ++ [called] := by
        intro equal
        rw [equal, free] at present
        cases present
      rw [same]
      exact (FileSystem.entryAt?_setEntry_of_ne _ _ _ _ apart).trans present
  | removed other where_ called _ unlinks valid there _ same =>
      have apart : directory ++ [name] ≠ where_ ++ [called] := by
        intro equal
        rcases List.append_inj' equal rfl with ⟨rfl, last⟩
        cases last
        apply stays
        rw [unlinks]
        exact ⟨valid, _, located, there⟩
      rw [same]
      exact (FileSystem.entryAt?_setEntry_of_ne _ _ _ _ apart).trans present

/-- A place where nobody publishes stays free. -/
theorem entryAt?_of_not_publishes (effect : call.Effect before after) {config : SegmentConfig}
    {directory : Place} {name : String}
    (located : before.locate config.objectPath = .ok ⟨directory, .name name, false⟩)
    (stays : ¬ call.Publishes before config)
    (free : before.entryAt? (directory ++ [name]) = none) :
    after.entryAt? (directory ++ [name]) = none := by
  cases effect with
  | nothing same =>
      rw [same]
      exact free
  | added other image where_ called publishes valid there _ same =>
      have apart : directory ++ [name] ≠ where_ ++ [called] := by
        intro equal
        rcases List.append_inj' equal rfl with ⟨rfl, last⟩
        cases last
        apply stays
        rw [publishes]
        exact ⟨valid, _, located, there⟩
      rw [same]
      exact (FileSystem.entryAt?_setEntry_of_ne _ _ _ _ apart).trans free
  | removed other where_ called _ _ _ _ looked same =>
      rw [same]
      by_cases equal : directory ++ [name] = where_ ++ [called]
      · rw [equal]
        exact FileSystem.entryAt?_setEntry_self _ _ _
      · exact (FileSystem.entryAt?_setEntry_of_ne _ _ _ _ equal).trans free

end Effect

/-! ## Sequences -/

/-- The host after a sequence of calls. -/
def afterAll (host : Host) (calls : List SegmentCall) : Host :=
  calls.foldl SegmentCall.after host

theorem afterAll_cons (host : Host) (call : SegmentCall) (calls : List SegmentCall) :
    afterAll host (call :: calls) = afterAll (call.after host) calls := rfl

theorem afterAll_append (host : Host) (first second : List SegmentCall) :
    afterAll host (first ++ second) = afterAll (afterAll host first) second :=
  List.foldl_append

theorem afterAll_preserves {Holds : Host -> Prop} (writers : Host.KeptByWriters Holds)
    (readers : Host.KeptByReaders Holds) {host : Host} (before : Holds host)
    (calls : List SegmentCall) : Holds (afterAll host calls) := by
  induction calls generalizing host with
  | nil => exact before
  | cons call rest ih => exact ih (call.after_preserves writers readers before)

/-- The states that calls lead to are among those that files can be in. -/
theorem afterAll_reachable {host : Host} (reachable : host.files.Reachable)
    (calls : List SegmentCall) : (afterAll host calls).files.Reachable :=
  afterAll_preserves Host.keptByWriters_reachable Host.keptByReaders_reachable reachable calls

theorem afterAll_willing {host : Host} (willing : host.Willing) (calls : List SegmentCall) :
    (afterAll host calls).Willing :=
  afterAll_preserves Host.keptByWriters_willing Host.keptByReaders_willing willing calls

/-- Files are never rewritten, and paths go on leading to the same ends. -/
theorem afterAll_keeps {host : Host} (willing : host.Willing) (calls : List SegmentCall) :
    host.files.Keeps (afterAll host calls).files ∧ forall text target,
      (afterAll host calls).files.locate text = .ok target <->
        host.files.locate text = .ok target := by
  induction calls generalizing host with
  | nil => exact ⟨FileSystem.Keeps.refl _, fun _ _ => Iff.rfl⟩
  | cons call rest ih =>
      have effect := call.effect willing
      rcases ih (afterAll_willing willing [call]) with ⟨keeps, located⟩
      exact ⟨effect.change.keeps.trans keeps, fun text target =>
        (located text target).trans effect.change.locate_eq_ok_iff⟩

section Object

variable {host : Host} {config : SegmentConfig} {directory : Place} {name : String}

/-- An object stays until it is unlinked. -/
theorem afterAll_present {id : FileId} {calls : List SegmentCall} (willing : host.Willing)
    (located : host.files.locate config.objectPath = .ok ⟨directory, .name name, false⟩)
    (stays : forall call, call ∈ calls -> ¬ call.Unlinks host.files config)
    (present : host.files.entryAt? (directory ++ [name]) = some (.file id)) :
    (afterAll host calls).files.entryAt? (directory ++ [name]) = some (.file id) := by
  induction calls generalizing host with
  | nil => exact present
  | cons call rest ih =>
      have effect := call.effect willing
      refine ih (afterAll_willing willing [call]) (effect.change.locate_eq_ok_iff.mpr located) ?_
        (effect.entryAt?_of_not_unlinks located (stays call List.mem_cons_self) present)
      intro later member
      rw [unlinks_iff fun _ _ => effect.change.locate_eq_ok_iff]
      exact stays later (List.mem_cons_of_mem _ member)

/-- A free place stays free until somebody publishes there. -/
theorem afterAll_free {calls : List SegmentCall} (willing : host.Willing)
    (located : host.files.locate config.objectPath = .ok ⟨directory, .name name, false⟩)
    (stays : forall call, call ∈ calls -> ¬ call.Publishes host.files config)
    (free : host.files.entryAt? (directory ++ [name]) = none) :
    (afterAll host calls).files.entryAt? (directory ++ [name]) = none := by
  induction calls generalizing host with
  | nil => exact free
  | cons call rest ih =>
      have effect := call.effect willing
      refine ih (afterAll_willing willing [call]) (effect.change.locate_eq_ok_iff.mpr located) ?_
        (effect.entryAt?_of_not_publishes located (stays call List.mem_cons_self) free)
      intro later member
      rw [publishes_iff fun _ _ => effect.change.locate_eq_ok_iff]
      exact stays later (List.mem_cons_of_mem _ member)

end Object
end SegmentCall
end MappedTables
