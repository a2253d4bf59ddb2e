import MappedTables.Proofs.Segment.Opened
import MappedTables.Proofs.Storage.Descriptors

namespace MappedTables

/-!
Attaching a segment, part by part.

A reader opens what the path of a segment leads to and maps what it has opened.
The outcome of either part is a function of the files and of the next free
address; it does not depend on which descriptors are open.  So the outcome of a
composition of the two parts can be read off the parts, in whatever order their
descriptors are opened and closed.  What a failure leaves behind are records and
addresses that are not used again.
-/

namespace Host

/-- The descriptors are as they were, no file was changed, and no address can be used again. -/
structure Restores (before after : Host) : Prop where
  files_eq : after.files = before.files
  descriptors_eq : after.descriptors = before.descriptors
  freeAddress_le : before.freeAddress <= after.freeAddress

namespace Restores

variable {before after : Host}

theorem refl (host : Host) : host.Restores host where
  files_eq := rfl
  descriptors_eq := rfl
  freeAddress_le := Nat.le_refl _

theorem record (restores : before.Restores after) (event : Event) :
    before.Restores (after.record event) :=
  ⟨restores.files_eq, restores.descriptors_eq, restores.freeAddress_le⟩

theorem map (restores : before.Restores after) (file : FileId) (length : Nat) :
    before.Restores (after.map file length).2 :=
  ⟨restores.files_eq, restores.descriptors_eq,
    Nat.le_trans restores.freeAddress_le (Nat.le_add_right _ _)⟩

/-- A descriptor that was opened for a time is closed again. -/
theorem of_openDescriptor {target : OpenFile}
    (restores : (before.openDescriptor target).2.Restores after) :
    before.Restores (after.closeDescriptor before.freeDescriptor) where
  files_eq := restores.files_eq
  descriptors_eq := by
    have same := restores.descriptors_eq
    rw [Host.closeDescriptor, same]
    exact before.descriptors_closeDescriptor_openDescriptor target
  freeAddress_le := restores.freeAddress_le

end Restores

/-- The mapping that is made of what a descriptor stands for. -/
def mappingOf (host : Host) : OpenFile -> Except Error Mapping
  | .directory => do
      if host.directorySize < leastContainerSize then
        throw (.malformed (.shortSegment host.directorySize))
      throw (.io .mappingSegment (.os .noDevice))
  | .file id => do
      if (host.files.file id).content.size < leastContainerSize then
        throw (.malformed (.shortSegment (host.files.file id).content.size))
      let _ ← Container.ofRelocated
        ⟨UInt64.ofNat host.freeAddress, (host.files.file id).content⟩
      return (host.map id (host.files.file id).content.size).1

/-- Opening a descriptor does not change what a mapping is made of. -/
@[simp] theorem mappingOf_openDescriptor (host : Host) (opened target : OpenFile) :
    (host.openDescriptor opened).2.mappingOf target = host.mappingOf target := rfl

/-- Only files are mapped. -/
theorem eq_file_of_mappingOf {host : Host} {target : OpenFile} {mapping : Mapping}
    (made : host.mappingOf target = .ok mapping) : target = .file mapping.file := by
  unfold mappingOf at made
  cases target with
  | directory =>
      by_cases short : host.directorySize < leastContainerSize
      · simp only [short, if_true] at made
        cases made
      · simp only [short, if_false] at made
        cases made
  | file id =>
      by_cases short : (host.files.file id).content.size < leastContainerSize
      · simp only [short, if_true] at made
        cases made
      · simp only [short, if_false] at made
        rcases Outcome.bind_eq_ok_iff.mp made with ⟨container, _, same⟩
        cases same
        rfl

end Host

namespace SegmentDescriptor

theorem map_restores (descriptor : SegmentDescriptor) (host : Host) :
    host.Restores (descriptor.map host).2 :=
  descriptor.map_preserves (fun _ event restores => restores.record event)
    (fun _ file length restores => restores.map file length) host (Host.Restores.refl host)

theorem map_fst {descriptor : SegmentDescriptor} {host : Host} {target : OpenFile}
    (opened : host.opened? descriptor.number = some target) :
    (descriptor.map host).1 = host.mappingOf target := by
  cases target with
  | file id =>
      rw [map_outcome opened]
      by_cases short : (host.files.file id).content.size < leastContainerSize
      · simp only [Host.mappingOf, short, if_true]
        rfl
      · simp only [Host.mappingOf, short, if_false]
        cases Container.ofRelocated
          ⟨UInt64.ofNat host.freeAddress, (host.files.file id).content⟩ with
        | error error => rfl
        | ok container => rfl
  | directory =>
      have read : (get : Session Host) host = (.ok host, host) := rfl
      have found : Session.ofExcept (descriptor.target host) host = (.ok .directory, host) := by
        rw [SegmentDescriptor.target, opened]
        rfl
      have size : host.sizeOf .directory = host.directorySize := rfl
      rw [map, Session.reporting_fst]
      by_cases short : host.directorySize < leastContainerSize
      · simp only [Host.mappingOf, Outcome.bind_apply, read, found, size, short, if_true]
        rfl
      · simp only [Host.mappingOf, Outcome.bind_apply, read, found, size, short, if_false]
        rfl

end SegmentDescriptor

namespace SegmentConfig

/-- What is opened by a reader of the segment. -/
def objectIn (config : SegmentConfig) (files : FileSystem) : Except Error OpenFile := do
  config.validate
  match files.findReadable config.objectPath with
  | .error fault => throw (config.missingFailure .openingSegment fault)
  | .ok entry => return OpenFile.ofEntry entry

theorem openForReading_of_ok {config : SegmentConfig} {host : Host} {target : OpenFile}
    (found : config.objectIn host.files = .ok target) :
    config.openForReading host =
      (.ok ⟨host.freeDescriptor, config.name⟩, (host.openDescriptor target).2) := by
  rcases Outcome.bind_eq_ok_iff.mp found with ⟨_, valid, rest⟩
  cases readable : host.files.findReadable config.objectPath with
  | error fault =>
      simp only [readable] at rest
      cases rest
  | ok entry =>
      simp only [readable] at rest
      cases rest
      refine Session.reporting_eq_ok_iff.mpr (Session.bind_eq_ok_iff.mpr
        ⟨(), _, Session.ofExcept_eq_ok_iff.mpr ⟨valid, rfl⟩, ?_⟩)
      refine Session.bind_eq_ok_iff.mpr ⟨host, _, Session.get_eq_ok_iff.mpr ⟨rfl, rfl⟩, ?_⟩
      simp only [readable]
      exact Session.bind_eq_ok_iff.mpr
        ⟨host.freeDescriptor, _, rfl, Session.pure_eq_ok_iff.mpr ⟨rfl, rfl⟩⟩

theorem openForReading_of_error {config : SegmentConfig} {host : Host} {error : Error}
    (missing : config.objectIn host.files = .error error) :
    config.openForReading host =
      (.error error, host.record (.failed .opening config.name error)) := by
  refine Session.reporting_eq_error_iff.mpr ⟨host, ?_, rfl⟩
  rcases Outcome.bind_eq_error_iff.mp missing with invalid | ⟨_, valid, rest⟩
  · exact Session.bind_eq_error_iff.mpr
      (Or.inl (Session.ofExcept_eq_error_iff.mpr ⟨invalid, rfl⟩))
  · refine Session.bind_eq_error_iff.mpr (Or.inr
      ⟨(), host, Session.ofExcept_eq_ok_iff.mpr ⟨valid, rfl⟩, ?_⟩)
    refine Session.bind_eq_error_iff.mpr (Or.inr
      ⟨host, host, Session.get_eq_ok_iff.mpr ⟨rfl, rfl⟩, ?_⟩)
    cases readable : host.files.findReadable config.objectPath with
    | error fault =>
        simp only [readable] at rest ⊢
        cases rest
        rfl
    | ok entry =>
        simp only [readable] at rest
        cases rest

/-- A file that is opened is what the path leads to. -/
theorem find_of_objectIn {config : SegmentConfig} {files : FileSystem} {id : FileId}
    (found : config.objectIn files = .ok (.file id)) :
    files.find config.objectPath = .ok (.file id) := by
  rcases Outcome.bind_eq_ok_iff.mp found with ⟨_, _, rest⟩
  cases readable : files.findReadable config.objectPath with
  | error fault =>
      simp only [readable] at rest
      cases rest
  | ok entry =>
      simp only [readable] at rest
      cases entry with
      | directory => cases rest
      | file other =>
          cases rest
          exact FileSystem.find_of_findReadable readable

/-- What a reader gets who attaches the segment. -/
def attachmentIn (config : SegmentConfig) (host : Host) : Except Error SegmentHandle := do
  if !config.isAvailable host.files then
    throw (.notFound config.name)
  let target ← config.objectIn host.files
  let mapping ← host.mappingOf target
  return SegmentHandle.ofParts mapping ⟨host.freeDescriptor, config.name⟩

/-- An outcome of attaching a segment, and the host after it: one more descriptor is open after
a success, and none after a failure. -/
inductive Attached (config : SegmentConfig) (before : Host) :
    Except Error SegmentHandle -> Host -> Prop where
  | ok (id : FileId) (mapping : Mapping) (after : Host)
      (opens : after.descriptors = (before.openDescriptor (.file id)).2.descriptors)
      (maps : before.Maps id mapping after) :
      Attached config before
        (.ok (SegmentHandle.ofParts mapping ⟨before.freeDescriptor, config.name⟩)) after
  | error (error : Error) (after : Host) (restores : before.Restores after) :
      Attached config before (.error error) after

theorem Attached.record {config : SegmentConfig} {before after : Host}
    {outcome : Except Error SegmentHandle} (attached : Attached config before outcome after)
    (event : Event) : Attached config before outcome (after.record event) := by
  cases attached with
  | ok id mapping after opens maps =>
      exact Attached.ok id mapping _ opens
        ⟨maps.mapping_eq, maps.files_eq, maps.freeAddress_lt, maps.opens⟩
  | error error after restores => exact Attached.error error _ (restores.record event)

end SegmentConfig

namespace SegmentHandle

variable {config : SegmentConfig} {host : Host}

theorem openAndMap_of_missing {error : Error}
    (missing : config.objectIn host.files = .error error) :
    openAndMap config host =
      (.error error, host.record (.failed .opening config.name error)) := by
  rw [openAndMap, Outcome.bind_apply, SegmentConfig.openForReading_of_error missing]

theorem openAndMap_of_found {target : OpenFile} (found : config.objectIn host.files = .ok target)
    {descriptor : SegmentDescriptor} (numbered : descriptor = ⟨host.freeDescriptor, config.name⟩) :
    openAndMap config host =
      match descriptor.map (host.openDescriptor target).2 with
      | (.ok mapping, after) => (.ok (ofParts mapping descriptor), after)
      | (.error error, after) => (.error error, descriptor.close after) := by
  rw [openAndMap, Outcome.bind_apply, SegmentConfig.openForReading_of_ok found, <- numbered]
  change (Session.undoingOnFailure descriptor.map descriptor.close >>= fun mapping => pure
    (ofParts mapping descriptor) : Session SegmentHandle) (host.openDescriptor target).2 = _
  rw [Outcome.bind_apply, Session.undoingOnFailure]
  rcases descriptor.map (host.openDescriptor target).2 with ⟨outcome, after⟩
  cases outcome with
  | error error => rfl
  | ok mapping => rfl

theorem attached_openAndMap (config : SegmentConfig) (host : Host) :
    config.Attached host (openAndMap config host).1 (openAndMap config host).2 := by
  cases found : config.objectIn host.files with
  | error error =>
      rw [openAndMap_of_missing found]
      exact .error error _ ((Host.Restores.refl host).record _)
  | ok target =>
      let descriptor : SegmentDescriptor := ⟨host.freeDescriptor, config.name⟩
      have restores := descriptor.map_restores (host.openDescriptor target).2
      rw [openAndMap_of_found found rfl]
      cases ran : descriptor.map (host.openDescriptor target).2 with
      | mk outcome after =>
          rw [ran] at restores
          cases outcome with
          | error error => exact .error error _ restores.of_openDescriptor
          | ok mapping =>
              rcases SegmentDescriptor.map_eq_ok ran with ⟨id, file, maps⟩
              rw [(host.opened?_openDescriptor _ _).trans (if_pos rfl)] at file
              cases file
              exact .ok id mapping after restores.descriptors_eq maps.of_openDescriptor

theorem openAndMap_fst (config : SegmentConfig) (host : Host) :
    (openAndMap config host).1 = do
      let target ← config.objectIn host.files
      let mapping ← host.mappingOf target
      return ofParts mapping ⟨host.freeDescriptor, config.name⟩ := by
  cases found : config.objectIn host.files with
  | error error =>
      rw [openAndMap_of_missing found]
      rfl
  | ok target =>
      let descriptor : SegmentDescriptor := ⟨host.freeDescriptor, config.name⟩
      have outcome : (descriptor.map (host.openDescriptor target).2).1 = host.mappingOf target :=
        SegmentDescriptor.map_fst ((host.opened?_openDescriptor _ _).trans (if_pos rfl))
      rw [openAndMap_of_found found rfl, Outcome.ok_bind, <- outcome]
      rcases descriptor.map (host.openDescriptor target).2 with ⟨result, after⟩
      cases result with
      | error error => rfl
      | ok mapping => rfl

/-! ## Segments that have to be available

The two entrances differ in what they record only.
-/

/-- To record a success after the fact changes neither the outcome nor what is open. -/
theorem attached_recorded (config : SegmentConfig) (event : SegmentHandle -> Event)
    (host : Host) :
    let session : Session SegmentHandle := do
      let handle ← openAndMap config
      Session.record (event handle)
      return handle
    (session host).1 = (openAndMap config host).1 ∧
      config.Attached host (session host).1 (session host).2 := by
  intro session
  have attached := attached_openAndMap config host
  have run : session host = _ := Outcome.bind_apply _ _ host
  rw [run]
  cases ran : openAndMap config host with
  | mk outcome after =>
      rw [ran] at attached
      cases outcome with
      | error error => exact ⟨rfl, attached⟩
      | ok handle => exact ⟨rfl, attached.record _⟩

/-- What attaching a segment comes to for a native caller. -/
theorem attach_fst (config : SegmentConfig) (host : Host) :
    (attach config host).1 = config.attachmentIn host := by
  unfold SegmentConfig.attachmentIn
  cases available : config.isAvailable host.files with
  | false =>
      rw [attach_of_unavailable available]
      rfl
  | true =>
      rw [attach_of_available available, (attached_recorded config _ host).1, openAndMap_fst]
      rfl

end SegmentHandle

end MappedTables
