import MappedTables.Proofs.Outcome
import MappedTables.Proofs.Storage.Created
import MappedTables.Proofs.Storage.Sessions
import MappedTables.Segment.Access

namespace MappedTables

/-!
Opening and mapping a segment.

Neither changes a file.  A mapping that is made shows the whole file behind the
descriptor, at addresses that no mapping had before, and what it shows opens as
a container.
-/

/-- A mapping of a file was made on the way from one host to another. -/
structure Host.Maps (before : Host) (id : FileId) (mapping : Mapping) (after : Host) : Prop where
  mapping_eq : mapping =
    ⟨UInt64.ofNat before.freeAddress, id, (before.files.file id).content.size⟩
  files_eq : after.files = before.files
  freeAddress_lt : before.freeAddress < after.freeAddress
  opens : exists container, Container.ofRelocated (after.memory mapping) = .ok container

/-- Opening a descriptor first makes no difference to a mapping. -/
theorem Host.Maps.of_openDescriptor {before after : Host} {target : OpenFile} {id : FileId}
    {mapping : Mapping} (maps : (before.openDescriptor target).2.Maps id mapping after) :
    before.Maps id mapping after where
  mapping_eq := maps.mapping_eq
  files_eq := maps.files_eq
  freeAddress_lt := maps.freeAddress_lt
  opens := maps.opens

/-- Addresses of mappings are multiples of the header alignment. -/
theorem Host.aligned_of_paged {host : Host} (paged : host.freeAddress % pageSize = 0) :
    (UInt64.ofNat host.freeAddress).toNat % headerAlignment = 0 := by
  have word : (UInt64.ofNat host.freeAddress).toNat = host.freeAddress % 2 ^ 64 :=
    UInt64.toNat_ofNat'
  rw [word]
  unfold pageSize at paged
  unfold headerAlignment
  omega

/-- A mapping shows what the file held, as long as the file is not rewritten. -/
theorem Host.Maps.memory_of_file_eq {before after later : Host} {id : FileId} {mapping : Mapping}
    (maps : before.Maps id mapping after)
    (same : later.files.file id = before.files.file id) :
    later.memory mapping =
      ⟨UInt64.ofNat before.freeAddress, (before.files.file id).content⟩ := by
  have whole : (before.files.file id).content.resize (before.files.file id).content.size =
      (before.files.file id).content := by
    rw [Bytes.resize, if_neg (Nat.lt_irrefl _), Array.extract_size]
  have shown : (later.files.file id).content.resize (before.files.file id).content.size =
      (before.files.file id).content := by
    rw [same]
    exact whole
  rw [maps.mapping_eq]
  exact congrArg (Span.mk _) shown

/-- A mapping that was just made shows the content of the file. -/
theorem Host.Maps.memory_eq {before after : Host} {id : FileId} {mapping : Mapping}
    (maps : before.Maps id mapping after) :
    after.memory mapping =
      ⟨UInt64.ofNat before.freeAddress, (before.files.file id).content⟩ :=
  maps.memory_of_file_eq (congrArg (FileSystem.file · id) maps.files_eq)

/-- A property of hosts that opening, mapping and closing leave as it is. -/
structure Host.KeptByReaders (Holds : Host -> Prop) : Prop where
  record : forall host event, Holds host -> Holds (host.record event)
  openDescriptor : forall host target, Holds host -> Holds (host.openDescriptor target).2
  closeDescriptor : forall host number, Holds host -> Holds (host.closeDescriptor number)
  map : forall host file length, Holds host -> Holds (host.map file length).2

theorem Host.keptByReaders_since (start : Host) :
    KeptByReaders (Session.KeepsFiles.Since start) where
  record _ _ before := before
  openDescriptor _ _ before := before
  closeDescriptor _ _ before := before
  map _ _ _ before := ⟨before.1, Nat.le_trans before.2 (Nat.le_add_right _ _)⟩

variable {Holds : Host -> Prop}

namespace SegmentDescriptor

/-- Mapping a descriptor neither opens nor closes one. -/
theorem map_preserves (recorded : forall host event, Holds host -> Holds (host.record event))
    (mapped : forall host file length, Holds host -> Holds (host.map file length).2)
    (descriptor : SegmentDescriptor) : descriptor.map.Preserves Holds := by
  refine Session.Preserves.reporting recorded ?_
  refine Session.Preserves.bind Session.Preserves.get fun host => ?_
  refine Session.Preserves.bind (Session.Preserves.ofExcept _) fun target => ?_
  refine Session.Preserves.bind Session.Preserves.get fun host => ?_
  by_cases short : host.sizeOf target < leastContainerSize
  · simp only [short, if_true]
    exact fun _ before => before
  · simp only [short, if_false]
    cases target with
    | directory => exact Session.Preserves.throw _
    | file id =>
        refine Session.Preserves.bind
          (Session.Preserves.modifyGet fun host => mapped host id _) fun mapping => ?_
        refine Session.Preserves.bind Session.Preserves.get fun host => ?_
        refine Session.Preserves.bind (Session.Preserves.ofExcept _) fun _ => ?_
        exact Session.Preserves.pure _

theorem map_keepsFiles (descriptor : SegmentDescriptor) : descriptor.map.KeepsFiles :=
  Session.KeepsFiles.iff_preserves.mpr fun start =>
    descriptor.map_preserves (Host.keptByReaders_since start).record
      (Host.keptByReaders_since start).map

/-- What mapping a descriptor does. -/
theorem map_eq_ok {descriptor : SegmentDescriptor} {before after : Host} {mapping : Mapping}
    (mapped : descriptor.map before = (.ok mapping, after)) :
    exists id, before.opened? descriptor.number = some (.file id) ∧
      before.Maps id mapping after := by
  have whole := Session.reporting_eq_ok_iff.mp mapped
  rcases Session.bind_eq_ok_iff.mp whole with ⟨_, _, read, rest⟩
  rcases Session.get_eq_ok_iff.mp read with ⟨rfl, rfl⟩
  rcases Session.bind_eq_ok_iff.mp rest with ⟨target, _, opened, rest⟩
  rcases Session.ofExcept_eq_ok_iff.mp opened with ⟨stands, rfl⟩
  rcases Session.bind_eq_ok_iff.mp rest with ⟨_, _, read, rest⟩
  rcases Session.get_eq_ok_iff.mp read with ⟨rfl, rfl⟩
  by_cases short : before.sizeOf target < leastContainerSize
  · simp only [short, if_true] at rest
    cases rest
  · simp only [short, if_false] at rest
    cases target with
    | directory => cases rest
    | file id =>
        rcases Session.bind_eq_ok_iff.mp rest with ⟨made, grown, mapping', rest⟩
        rcases Session.modifyGet_eq_ok_iff.mp mapping' with made'
        cases made'
        rcases Session.bind_eq_ok_iff.mp rest with ⟨_, _, read, rest⟩
        rcases Session.get_eq_ok_iff.mp read with ⟨rfl, rfl⟩
        rcases Session.bind_eq_ok_iff.mp rest with ⟨container, _, shown, rest⟩
        rcases Session.ofExcept_eq_ok_iff.mp shown with ⟨view, rfl⟩
        rcases Session.pure_eq_ok_iff.mp rest with ⟨rfl, rfl⟩
        refine ⟨id, ?_, rfl, rfl, ?_, container, view⟩
        · unfold target at stands
          cases found : before.opened? descriptor.number with
          | none =>
              rw [found] at stands
              cases stands
          | some other =>
              rw [found] at stands
              cases stands
              rfl
        · change before.freeAddress < before.freeAddress + _
          have page : 0 < Host.pageSize := by decide
          exact Nat.lt_add_of_pos_right (Nat.mul_pos (Nat.succ_pos _) page)

/-- What comes of mapping a file, decided by its content alone. -/
theorem map_outcome {descriptor : SegmentDescriptor} {host : Host} {id : FileId}
    (opened : host.opened? descriptor.number = some (.file id)) :
    (descriptor.map host).1 =
      if (host.files.file id).content.size < leastContainerSize then
        .error (.malformed (.shortSegment (host.files.file id).content.size))
      else
        (Container.ofRelocated ⟨UInt64.ofNat host.freeAddress, (host.files.file id).content⟩).map
          fun _ => (host.map id (host.files.file id).content.size).1 := by
  have read (state : Host) : (get : Session Host) state = (.ok state, state) := rfl
  have stands : descriptor.target host = .ok (.file id) := by
    rw [target, opened]
  have found : Session.ofExcept (descriptor.target host) host = (.ok (.file id), host) := by
    rw [stands]
    rfl
  have whole : (host.files.file id).content.resize (host.files.file id).content.size =
      (host.files.file id).content := by
    rw [Bytes.resize, if_neg (Nat.lt_irrefl _), Array.extract_size]
  change _ = if host.sizeOf (.file id) < leastContainerSize then
      .error (.malformed (.shortSegment (host.sizeOf (.file id))))
    else (Container.ofRelocated ⟨UInt64.ofNat host.freeAddress, (host.files.file id).content⟩).map
      fun _ => (host.map id (host.sizeOf (.file id))).1
  rw [map, Session.reporting_fst]
  simp only [Outcome.bind_apply, read, found]
  by_cases short : host.sizeOf (.file id) < leastContainerSize
  · simp only [short, if_true]
    rfl
  · have mapped : (modifyGet (·.map id (host.sizeOf (.file id))) : Session Mapping) host =
        (.ok (host.map id (host.sizeOf (.file id))).1,
          (host.map id (host.sizeOf (.file id))).2) := rfl
    have shown : (host.map id (host.sizeOf (.file id))).2.mapped
        (host.map id (host.sizeOf (.file id))).1 =
        Container.ofRelocated ⟨UInt64.ofNat host.freeAddress, (host.files.file id).content⟩ := by
      unfold Host.mapped Host.memory
      exact congrArg (fun bytes => Container.ofRelocated ⟨_, bytes⟩) whole
    simp only [short, if_false, Outcome.bind_apply, mapped, read, shown]
    cases Container.ofRelocated ⟨UInt64.ofNat host.freeAddress, (host.files.file id).content⟩ with
    | error error => rfl
    | ok container => rfl

end SegmentDescriptor

namespace SegmentConfig

theorem openForReading_preserves (kept : Host.KeptByReaders Holds) (config : SegmentConfig) :
    config.openForReading.Preserves Holds := by
  refine Session.Preserves.reporting kept.record ?_
  refine Session.Preserves.bind (Session.Preserves.ofExcept _) fun _ => ?_
  refine Session.Preserves.bind Session.Preserves.get fun host => ?_
  cases host.files.findReadable config.objectPath with
  | error fault => exact Session.Preserves.throw _
  | ok entry =>
      refine Session.Preserves.bind
        (Session.Preserves.modifyGet fun host => kept.openDescriptor host _) fun number => ?_
      exact Session.Preserves.pure _

theorem openForReading_keepsFiles (config : SegmentConfig) :
    config.openForReading.KeepsFiles :=
  Session.KeepsFiles.iff_preserves.mpr fun start =>
    config.openForReading_preserves (Host.keptByReaders_since start)

/-- What opening a segment does. -/
theorem openForReading_eq_ok {config : SegmentConfig} {before after : Host}
    {descriptor : SegmentDescriptor}
    (opened : config.openForReading before = (.ok descriptor, after)) :
    exists entry, before.files.find config.objectPath = .ok entry ∧
      after = (before.openDescriptor (OpenFile.ofEntry entry)).2 ∧
      after.opened? descriptor.number = some (OpenFile.ofEntry entry) := by
  have whole := Session.reporting_eq_ok_iff.mp opened
  rcases Session.bind_eq_ok_iff.mp whole with ⟨_, _, checked, rest⟩
  rcases Session.ofExcept_eq_ok_iff.mp checked with ⟨_, rfl⟩
  rcases Session.bind_eq_ok_iff.mp rest with ⟨_, _, read, rest⟩
  rcases Session.get_eq_ok_iff.mp read with ⟨rfl, rfl⟩
  cases readable : before.files.findReadable config.objectPath with
  | error fault =>
      simp only [readable] at rest
      cases rest
  | ok entry =>
      simp only [readable] at rest
      rcases Session.bind_eq_ok_iff.mp rest with ⟨number, between, numbered, rest⟩
      rw [Session.modifyGet_eq_ok_iff] at numbered
      rcases Session.pure_eq_ok_iff.mp rest with ⟨rfl, same⟩
      rw [same] at numbered
      have first : number = before.freeDescriptor := (congrArg Prod.fst numbered).symm
      have second : after = (before.openDescriptor (OpenFile.ofEntry entry)).2 :=
        (congrArg Prod.snd numbered).symm
      refine ⟨entry, FileSystem.find_of_findReadable readable, second, ?_⟩
      rw [second, first]
      exact (before.opened?_openDescriptor _ _).trans (if_pos rfl)

end SegmentConfig

namespace SegmentHandle

theorem openAndMap_preserves (kept : Host.KeptByReaders Holds) (config : SegmentConfig) :
    (openAndMap config).Preserves Holds := by
  refine Session.Preserves.bind (config.openForReading_preserves kept) fun descriptor => ?_
  refine Session.Preserves.bind ?_ fun mapping => Session.Preserves.pure _
  exact Session.Preserves.undoingOnFailure (descriptor.map_preserves kept.record kept.map)
    fun host => kept.closeDescriptor host _

theorem openAndMap_keepsFiles (config : SegmentConfig) : (openAndMap config).KeepsFiles :=
  Session.KeepsFiles.iff_preserves.mpr fun start =>
    openAndMap_preserves (Host.keptByReaders_since start) config

/-- What opening and mapping a segment does. -/
theorem openAndMap_eq_ok {config : SegmentConfig} {before after : Host}
    {handle : SegmentHandle} (opened : openAndMap config before = (.ok handle, after)) :
    exists id mapping, before.files.find config.objectPath = .ok (.file id) ∧
      before.Maps id mapping after ∧ handle.mapping? = some mapping := by
  rcases Session.bind_eq_ok_iff.mp opened with ⟨descriptor, between, first, rest⟩
  rcases config.openForReading_eq_ok first with ⟨entry, found, rfl, stands⟩
  rcases Session.bind_eq_ok_iff.mp rest with ⟨mapping, mapped, second, rest⟩
  rcases SegmentDescriptor.map_eq_ok (Session.undoingOnFailure_eq_ok_iff.mp second) with
    ⟨id, target, maps⟩
  rcases Session.pure_eq_ok_iff.mp rest with ⟨rfl, rfl⟩
  rw [stands] at target
  cases entry with
  | directory => cases target
  | file other =>
      cases target
      exact ⟨id, mapping, found, maps.of_openDescriptor, rfl⟩

/-- A segment that is not available is not opened. -/
theorem attach_of_unavailable {config : SegmentConfig} {host : Host}
    (missing : config.isAvailable host.files = false) :
    attach config host =
      (.error (.notFound config.name),
        host.record (.failed .attaching config.name (.notFound config.name))) := by
  have read : (get : Session Host) host = (.ok host, host) := rfl
  rw [attach, Outcome.bind_apply, read]
  simp only [missing, Bool.not_false, if_true]
  rfl

theorem attach_of_available {config : SegmentConfig} {host : Host}
    (present : config.isAvailable host.files = true) :
    attach config host =
      (openAndMap config >>= fun handle => do
        Session.record (.attached config.name (handle.mapping?.map (·.length)))
        return handle) host := by
  have read : (get : Session Host) host = (.ok host, host) := rfl
  rw [attach, Outcome.bind_apply, read]
  simp only [present, Bool.not_true, Bool.false_eq_true, if_false]

theorem attach_preserves (kept : Host.KeptByReaders Holds) (config : SegmentConfig) :
    (attach config).Preserves Holds := by
  intro host before
  cases available : config.isAvailable host.files with
  | false =>
      rw [attach_of_unavailable available]
      exact kept.record host _ before
  | true =>
      rw [attach_of_available available]
      refine Session.Preserves.bind (openAndMap_preserves kept config) (fun handle => ?_) host
        before
      refine Session.Preserves.bind (Session.Preserves.record kept.record _) fun _ => ?_
      exact Session.Preserves.pure _

theorem attach_keepsFiles (config : SegmentConfig) : (attach config).KeepsFiles :=
  Session.KeepsFiles.iff_preserves.mpr fun start =>
    attach_preserves (Host.keptByReaders_since start) config

end SegmentHandle
end MappedTables
