import MappedTables.Proofs.Image.Loaded
import MappedTables.Proofs.Segment.Attaching
import MappedTables.Proofs.Segment.Calls

namespace MappedTables

/-!
The publication protocol.

An object comes to be by a publication that succeeds, holds the octets of the
image from then on, and is there until it is unlinked.  In the meantime it is
available under every name that it has, whoever attaches it is answered as the
image answers, and nobody can publish over it.  That it can be opened has one
condition which the writer sets himself: the permissions of the object have to
let its owner read it.
-/

/-! ## Permissions -/

/-- The published object may be read by its owner exactly if the config says so. -/
theorem SegmentConfig.isReadable_publishedFile (config : SegmentConfig) (image : Image) :
    (config.publishedFile image).isReadable = config.permissions.toNat.testBit 8 :=
  (FileSystem.isReadable_permissionsAfterWriting _).trans
    (FileSystem.isReadable_grantedPermissions _)

/-! ## Attaching -/

section Opening

variable {config : SegmentConfig} {host : Host} {id : FileId}

/-- A file is available to everybody, a shared memory object to those who can open it. -/
theorem SegmentConfig.isAvailable_iff (valid : config.validate = .ok ())
    (found : host.files.find config.objectPath = .ok (.file id)) :
    config.isAvailable host.files = true <->
      config.backing = .file ∨ (host.files.file id).isReadable = true := by
  unfold isAvailable
  rw [valid]
  cases backed : config.backing with
  | file => simp [FileSystem.isFile, FileSystem.fileAt?, found]
  | sharedMemory =>
      rw [FileSystem.findReadable_of_find found]
      cases (host.files.file id).isReadable with
      | true => simp [Except.isOk, Except.toBool]
      | false => simp [Except.isOk, Except.toBool]

theorem SegmentConfig.objectIn_of_findReadable (valid : config.validate = .ok ())
    (found : host.files.findReadable config.objectPath = .ok (.file id)) :
    config.objectIn host.files = .ok (.file id) := by
  unfold objectIn
  rw [valid, Outcome.ok_bind, found]
  rfl

namespace SegmentHandle

/-- A segment is attached whose object can be opened and holds a container; and the handle goes
on giving access to the container for as long as the file is not rewritten. -/
theorem exists_attach_of_readable (valid : config.validate = .ok ())
    (found : host.files.findReadable config.objectPath = .ok (.file id)) {container : Container}
    (opens : Container.ofRelocated
      ⟨UInt64.ofNat host.freeAddress, (host.files.file id).content⟩ = .ok container) :
    exists handle after, attach config host = (.ok handle, after) ∧
      forall later : Host, later.files.file id = host.files.file id ->
        handle.container later = .ok container := by
  have present := FileSystem.find_of_findReadable found
  have readable : (host.files.file id).isReadable = true := by
    by_contra denied
    rw [FileSystem.findReadable_of_find present, if_neg denied] at found
    cases found
  have available := (config.isAvailable_iff valid present).mpr (Or.inr readable)
  let opened := (host.openDescriptor (.file id)).2
  let descriptor : SegmentDescriptor := ⟨host.freeDescriptor, config.name⟩
  have stands : opened.opened? descriptor.number = some (.file id) :=
    (host.opened?_openDescriptor _ _).trans (if_pos rfl)
  have long : ¬ (host.files.file id).content.size < leastContainerSize :=
    Nat.not_lt.mpr (aligned_of_ofRelocated opens).2
  have outcome : (descriptor.map opened).1 =
      .ok (opened.map id (host.files.file id).content.size).1 := by
    refine (SegmentDescriptor.map_outcome stands).trans ((if_neg long).trans ?_)
    exact congrArg (Except.map _) opens
  cases ran : descriptor.map opened with
  | mk result mapped =>
      rw [ran] at outcome
      cases outcome
      rcases SegmentDescriptor.map_eq_ok ran with ⟨other, same, maps⟩
      rw [stands] at same
      cases same
      have both := openAndMap_of_found (config.objectIn_of_findReadable valid found)
        (rfl : descriptor = ⟨host.freeDescriptor, config.name⟩)
      rw [ran] at both
      refine ⟨_, _, (attach_of_available available).trans (Session.bind_eq_ok_iff.mpr
        ⟨_, mapped, both, Session.bind_eq_ok_iff.mpr
          ⟨(), _, Session.record_eq_ok_iff.mpr rfl, Session.pure_eq_ok_iff.mpr ⟨rfl, rfl⟩⟩⟩), ?_⟩
      intro later same
      change Container.ofRelocated (later.memory _) = _
      rw [maps.memory_of_file_eq same]
      exact opens

/-- A segment is not attached whose object may not be read. -/
theorem attach_of_unreadable (found : host.files.find config.objectPath = .ok (.file id))
    (denied : ¬ (host.files.file id).isReadable = true) (handle : SegmentHandle) (after : Host) :
    attach config host ≠ (.ok handle, after) := by
  intro attached
  have outcome := attach_fst config host
  rw [attached] at outcome
  unfold SegmentConfig.attachmentIn at outcome
  cases available : config.isAvailable host.files with
  | false =>
      rw [available] at outcome
      cases outcome
  | true =>
      simp only [available, Bool.not_true, Bool.false_eq_true, if_false] at outcome
      rcases Outcome.bind_eq_ok_iff.mp outcome.symm with ⟨_, opens, _⟩
      rcases Outcome.bind_eq_ok_iff.mp opens with ⟨_, _, rest⟩
      rw [FileSystem.findReadable_of_find found, if_neg denied] at rest
      cases rest

end SegmentHandle
end Opening

/-! ## Objects that are there, and objects that are gone -/

namespace SegmentConfig

/-- An object can be made where the path leads, unless there is something already. -/
def Creatable (config : SegmentConfig) (files : FileSystem) : Prop :=
  (exists made, files.create config.objectPath config.permissions.toNat = .ok made) ∨
    exists entry, files.find config.objectPath = .ok entry

/-- Under the config an image is found that was published. -/
structure Presents (config : SegmentConfig) (image : Image) (readable : Bool) (host : Host) :
    Prop where
  content : exists bytes, image.relocatedBytes = .ok bytes ∧
    (host.files.fileAt? config.objectPath).map (·.content) = some bytes
  available : config.isAvailable host.files = true <-> config.backing = .file ∨ readable = true
  /-- Whoever attaches it is answered as the image answers, whatever happens afterwards. -/
  attached : readable = true -> exists view handle after container,
    image.view = .ok view ∧ SegmentHandle.attach config host = (.ok handle, after) ∧
      view.AnswersAlike container ∧
        forall calls, handle.container (SegmentCall.afterAll after calls) = .ok container
  sealed : readable = false -> forall handle after,
    SegmentHandle.attach config host ≠ (.ok handle, after)
  /-- Nothing is published over it, and only the attempt is recorded. -/
  occupied : forall another : Image, another.Publishable ->
    config.publish another host =
      (.error (.alreadyExists config.objectName),
        host.record (.failed .publishing config.name (.alreadyExists config.objectName)))

/-- Under the config nothing is found, and anything can be published. -/
structure Vacant (config : SegmentConfig) (host : Host) : Prop where
  unavailable : config.isAvailable host.files = false
  unattached : (SegmentHandle.attach config host).1 = .error (.notFound config.name)
  accepts : forall image : Image, image.Publishable ->
    exists published, (config.publish image host).1 = .ok published

/-- In a willing system the config means a place, whether something is there or not. -/
structure Means (config : SegmentConfig) (directory : Place) (name : String) (host : Host) :
    Prop where
  reachable : host.files.Reachable
  willing : host.Willing
  located : host.files.locate config.objectPath = .ok ⟨directory, .name name, false⟩
  short : name.utf8ByteSize <= Path.nameLimit

section Place

variable {config : SegmentConfig} {host : Host} {directory : Place} {name : String}

/-- Every name of an object means its place. -/
theorem Means.of_sameObject (means : config.Means directory name host) {other : SegmentConfig}
    (alike : SameObject host.files config other) : other.Means directory name host := by
  rcases alike with ⟨target, first, second⟩
  rw [means.located] at first
  cases first
  exact ⟨means.reachable, means.willing, second, means.short⟩

theorem Means.afterAll (means : config.Means directory name host) (calls : List SegmentCall) :
    config.Means directory name (SegmentCall.afterAll host calls) := by
  have paths := (SegmentCall.afterAll_keeps means.willing calls).2
  exact ⟨SegmentCall.afterAll_reachable means.reachable calls,
    SegmentCall.afterAll_willing means.willing calls, (paths _ _).mpr means.located, means.short⟩

variable (valid : config.validate = .ok ()) (means : config.Means directory name host)
include valid means

theorem presents_of_present {image : Image} {id : FileId} (publishable : image.Publishable)
    (present : host.files.entryAt? (directory ++ [name]) = some (.file id))
    (content : (host.files.file id).content = image.span.bytes) :
    config.Presents image (host.files.file id).isReadable host := by
  have found := FileSystem.find_of_located means.located means.short present
  refine ⟨?_, config.isAvailable_iff valid found, ?_, ?_, ?_⟩
  · refine ⟨_, Image.relocatedBytes_eq_ok_iff.mpr ⟨publishable.relocatable, rfl⟩, ?_⟩
    unfold FileSystem.fileAt?
    rw [found]
    exact congrArg some content
  · intro readable
    rcases exists_admits_iff.mpr ⟨valid, publishable⟩ with ⟨view, admits⟩
    have aligned : AlignedAlike image.span.base (UInt64.ofNat host.freeAddress) :=
      (aligned_of_ofRelocated admits.opened).1.trans
        (Host.aligned_of_paged means.willing.paged).symm
    rcases Container.exists_ofRelocated_alike aligned admits.opened with
      ⟨container, opens, alike⟩
    rw [<- content] at opens
    have readableFound := FileSystem.findReadable_of_find found
    rw [if_pos readable] at readableFound
    rcases SegmentHandle.exists_attach_of_readable valid readableFound opens with
      ⟨handle, after, attaches, shows⟩
    have reached : SegmentCall.after host (.attach config) = after := congrArg Prod.snd attaches
    refine ⟨view, handle, after, container,
      (Container.ofRelocated_eq_ok_iff.mp admits.opened).1, attaches, alike, fun calls => ?_⟩
    have keeps := (SegmentCall.afterAll_keeps means.willing (.attach config :: calls)).1
    rw [SegmentCall.afterAll_cons, reached] at keeps
    exact shows _ (keeps.file_eq id (means.reachable.numbered _ _ present))
  · intro denied
    refine SegmentHandle.attach_of_unreadable found ?_
    rw [denied]
    exact Bool.false_ne_true
  · intro another allowed
    exact publish_of_present (exists_admits_iff.mpr ⟨valid, allowed⟩) (means.willing.unrefused _)
      (FileSystem.create_of_present means.located means.short present)

theorem vacant_of_free (free : host.files.entryAt? (directory ++ [name]) = none) :
    config.Vacant host := by
  have missing := FileSystem.find_of_free means.located means.short free
  have unavailable : config.isAvailable host.files = false := by
    unfold isAvailable
    rw [valid]
    cases config.backing with
    | file => simp [FileSystem.isFile, FileSystem.fileAt?, missing]
    | sharedMemory =>
        unfold FileSystem.findReadable
        rw [missing]
        rfl
  refine ⟨unavailable, congrArg Prod.fst (SegmentHandle.attach_of_unavailable unavailable), ?_⟩
  intro image publishable
  have publishes := publish_eq_ok_iff.mpr ⟨exists_admits_iff.mpr ⟨valid, publishable⟩,
    means.willing.unrefused _, means.willing.fills _, directory, name, means.located,
    FileSystem.lookUp_eq_none_iff.mpr ⟨means.short, free⟩, rfl, rfl⟩
  exact ⟨_, congrArg Prod.fst publishes⟩

/-- What is there can be unlinked, and then the place is free. -/
theorem unlink_of_present {id : FileId}
    (present : host.files.entryAt? (directory ++ [name]) = some (.file id)) :
    exists gone, config.unlink host = (.ok (), gone) ∧
      gone.files.entryAt? (directory ++ [name]) = none := by
  have looked : host.files.lookUp directory name = .ok (some (.file id)) := by
    rw [FileSystem.lookUp_of_short means.short, present]
  have removed := FileSystem.remove_eq_ok_iff.mpr ⟨directory, name, id, means.located, looked, rfl⟩
  have unlinks := unlink_eq_ok_iff.mpr
    (removeObject_eq_ok_iff.mpr ⟨valid, means.willing.unrefused _, _, removed, rfl⟩)
  exact ⟨_, unlinks, FileSystem.entryAt?_setEntry_self _ _ _⟩

end Place

/-! ## The protocol -/

/-- From now on the image is found under every name of the object, until it is unlinked under
one of them; and then nothing is found there, until somebody publishes under one of them. -/
structure Endures (config : SegmentConfig) (image : Image) (host : Host) : Prop where
  presents : forall calls, (forall call, call ∈ calls -> ¬ call.Unlinks host.files config) ->
    forall other, other.validate = .ok () -> SameObject host.files config other ->
      other.Presents image (config.permissions.toNat.testBit 8) (SegmentCall.afterAll host calls)
  vacates : forall calls, (forall call, call ∈ calls -> ¬ call.Unlinks host.files config) ->
    forall other, other.validate = .ok () -> SameObject host.files config other ->
      exists gone, other.unlink (SegmentCall.afterAll host calls) = (.ok (), gone) ∧
        forall later, (forall call, call ∈ later -> ¬ call.Publishes host.files config) ->
          forall third, third.validate = .ok () -> SameObject host.files config third ->
            third.Vacant (SegmentCall.afterAll gone later)

theorem endures_of_publish {host after : Host} {config : SegmentConfig} {image : Image}
    {published : PublishedSegment} (reachable : host.files.Reachable) (willing : host.Willing)
    (publishes : config.publish image host = (.ok published, after)) :
    config.Endures image after := by
  rcases publish_eq_ok_iff.mp publishes with
    ⟨admissible, _, _, directory, name, located, looked, _, same⟩
  rcases FileSystem.lookUp_eq_none_iff.mp looked with ⟨short, _⟩
  have publishable := (exists_admits_iff.mp admissible).2
  have means : config.Means directory name after := by
    have before : config.Means directory name host := ⟨reachable, willing, located, short⟩
    have later := before.afterAll [.publish config image]
    change config.Means directory name (config.publish image host).2 at later
    rw [publishes] at later
    exact later
  have files : after.files =
      (host.files.addFile (directory ++ [name]) (config.publishedFile image)).2 :=
    congrArg Host.files same
  have present :
      after.files.entryAt? (directory ++ [name]) = some (.file host.files.nextFile) := by
    rw [files]
    exact FileSystem.entryAt?_setEntry_self _ _ _
  have stored : after.files.file host.files.nextFile = config.publishedFile image := by
    rw [files]
    simp [FileSystem.addFile]
  constructor
  · intro calls stays other valid alike
    have keeps := (SegmentCall.afterAll_keeps means.willing calls).1
    have holds := (keeps.file_eq _ (means.reachable.numbered _ _ present)).trans stored
    have presents := presents_of_present valid ((means.of_sameObject alike).afterAll calls)
      publishable (SegmentCall.afterAll_present means.willing means.located stays present)
      (congrArg StoredFile.content holds)
    rw [holds, config.isReadable_publishedFile] at presents
    exact presents
  · intro calls stays other valid alike
    rcases unlink_of_present valid ((means.of_sameObject alike).afterAll calls)
      (SegmentCall.afterAll_present means.willing means.located stays present) with
      ⟨gone, unlinks, free⟩
    refine ⟨gone, unlinks, fun later absent third thirdValid thirdAlike => ?_⟩
    have reached : SegmentCall.afterAll after (calls ++ [.unlink other]) = gone := by
      rw [SegmentCall.afterAll_append]
      exact congrArg Prod.snd unlinks
    have paths := (SegmentCall.afterAll_keeps means.willing (calls ++ [.unlink other])).2
    have leads := means.afterAll (calls ++ [.unlink other])
    have thirdLeads := (means.of_sameObject thirdAlike).afterAll (calls ++ [.unlink other])
    rw [reached] at paths leads thirdLeads
    refine vacant_of_free thirdValid (thirdLeads.afterAll later)
      (SegmentCall.afterAll_free leads.willing leads.located ?_ free)
    intro call member
    rw [SegmentCall.publishes_iff paths]
    exact absent call member

theorem publishes_iff {host : Host} {config : SegmentConfig} (willing : host.Willing)
    (creatable : config.Creatable host.files) (image : Image) :
    (exists published after, config.publish image host = (.ok published, after)) <->
      config.validate = .ok () ∧ image.Publishable ∧
        forall entry, host.files.find config.objectPath ≠ .ok entry := by
  constructor
  · rintro ⟨published, after, publishes⟩
    rcases publish_eq_ok_iff.mp publishes with
      ⟨admissible, _, _, directory, name, located, looked, _⟩
    rcases exists_admits_iff.mp admissible with ⟨valid, publishable⟩
    rcases FileSystem.lookUp_eq_none_iff.mp looked with ⟨short, free⟩
    refine ⟨valid, publishable, fun entry found => ?_⟩
    rw [FileSystem.find_of_free located short free] at found
    cases found
  · rintro ⟨valid, publishable, missing⟩
    rcases creatable with ⟨⟨id, made⟩, created⟩ | ⟨entry, found⟩
    · rcases FileSystem.create_eq_ok_iff.mp created with
        ⟨_, directory, name, located, looked, _⟩
      exact ⟨_, _, publish_eq_ok_iff.mpr ⟨exists_admits_iff.mpr ⟨valid, publishable⟩,
        willing.unrefused _, willing.fills _, directory, name, located, looked, rfl, rfl⟩⟩
    · exact absurd found (missing entry)

/-- Publishing succeeds exactly if config and image are in order and nothing is there yet; what
was published stays until it is unlinked; shared memory objects are told apart by their names up
to a slash in front; and all this holds again after every sequence of calls. -/
theorem publication_protocol {host : Host} (reachable : host.files.Reachable)
    (willing : host.Willing) {config : SegmentConfig} (creatable : config.Creatable host.files)
    (image : Image) :
    ((exists published after, config.publish image host = (.ok published, after)) <->
        config.validate = .ok () ∧ image.Publishable ∧
          forall entry, host.files.find config.objectPath ≠ .ok entry) ∧
      (forall published after, config.publish image host = (.ok published, after) ->
        config.Endures image after) ∧
      (forall one other : SegmentConfig,
        one.validate = .ok () -> one.backing = .sharedMemory ->
        other.validate = .ok () -> other.backing = .sharedMemory ->
        (SameObject host.files one other <-> one.bareName = other.bareName)) ∧
      forall calls, (SegmentCall.afterAll host calls).files.Reachable ∧
        (SegmentCall.afterAll host calls).Willing :=
  ⟨publishes_iff willing creatable image,
    fun _ _ publishes => endures_of_publish reachable willing publishes,
    fun _ _ oneValid oneShared otherValid otherShared =>
      sameObject_iff_bareName_eq reachable oneValid oneShared otherValid otherShared,
    fun calls => ⟨SegmentCall.afterAll_reachable reachable calls,
      SegmentCall.afterAll_willing willing calls⟩⟩

/-- A system in which nothing has been published yet. -/
def emptyHost : Host where
  files := FileSystem.initial ["home"]

theorem emptyHost_willing : emptyHost.Willing where
  unlimited := rfl
  unrefused _ := rfl
  paged := by decide

/-- A container with a row is published, and whoever attaches it finds the column of the row. -/
theorem publication_protocol_letters :
    emptyHost.files.Reachable ∧ emptyHost.Willing ∧
      (SegmentConfig.named "kb").Creatable emptyHost.files ∧
      (SegmentConfig.named "kb").validate = .ok () ∧ (letterImage 0).Publishable ∧
      exists host, (SegmentConfig.named "kb").publish (letterImage 0) emptyHost =
          (.ok { config := SegmentConfig.named "kb", capacity := 110 }, host) ∧
        (SegmentConfig.named "kb").Endures (letterImage 0) host ∧
        exists handle after container,
          SegmentHandle.attach (SegmentConfig.named "kb") host = (.ok handle, after) ∧
            (forall calls, handle.container (SegmentCall.afterAll after calls) = .ok container) ∧
            (container.columnAt .data 1 1).toOption.map (·.octets) = some #[97, 98] := by
  let config := SegmentConfig.named "kb"
  have reachable : emptyHost.files.Reachable := .initial ["home"]
  have creatable : config.Creatable emptyHost.files :=
    Or.inl ⟨_, FileSystem.create_eq_ok_iff.mpr
      ⟨rfl, ["dev", "shm"], "kb", by decide +kernel, by decide +kernel, rfl⟩⟩
  let host := (config.publish (letterImage 0) emptyHost).2
  have published : config.publish (letterImage 0) emptyHost =
      (.ok { config := SegmentConfig.named "kb", capacity := 110 }, host) :=
    Prod.ext (by decide +kernel) rfl
  rcases publication_protocol reachable emptyHost_willing creatable (letterImage 0) with
    ⟨succeeds, endures, _⟩
  rcases succeeds.mp ⟨_, _, published⟩ with ⟨valid, publishable, _⟩
  have stays := endures _ _ published
  have same : SameObject host.files config config :=
    ⟨⟨["dev", "shm"], .name "kb", false⟩, by decide +kernel, by decide +kernel⟩
  have presents := stays.presents [] nofun config valid same
  rcases presents.attached (by decide) with ⟨_, handle, after, container, _, attached, _, shows⟩
  change SegmentHandle.attach config host = _ at attached
  have hit : ((SegmentHandle.attach config host).1.toOption.bind fun handle =>
      (handle.container (SegmentHandle.attach config host).2).toOption.bind fun container =>
        (container.columnAt .data 1 1).toOption.map (·.octets)) = some #[97, 98] := by
    decide +kernel
  have here : handle.container after = .ok container := shows []
  rw [attached] at hit
  simp only [here, Except.toOption, Option.bind_some] at hit
  exact ⟨reachable, emptyHost_willing, creatable, valid, publishable, host, published, stays,
    handle, after, container, attached, shows, hit⟩

/-- A config that takes the right to read the object from its owner. -/
def dimConfig : SegmentConfig where
  name := "kbt_dim"
  permissions := 128

/-- Publishing asks for no right to read: the object that was just published is not available. -/
theorem dimConfig_unavailable :
    emptyHost.files.Reachable ∧ emptyHost.Willing ∧ dimConfig.Creatable emptyHost.files ∧
      (dimConfig.publish bareImage emptyHost).1 = .ok { config := dimConfig, capacity := 80 } ∧
      dimConfig.isAvailable (dimConfig.publish bareImage emptyHost).2.files = false ∧
      (SegmentHandle.attach dimConfig (dimConfig.publish bareImage emptyHost).2).1 =
        .error (.notFound "kbt_dim") := by
  refine ⟨.initial ["home"], emptyHost_willing, Or.inl ⟨_, FileSystem.create_eq_ok_iff.mpr
    ⟨rfl, ["dev", "shm"], "kbt_dim", by decide +kernel, by decide +kernel, rfl⟩⟩, ?_, ?_, ?_⟩
  · decide +kernel
  · decide +kernel
  · decide +kernel

end SegmentConfig

end MappedTables
