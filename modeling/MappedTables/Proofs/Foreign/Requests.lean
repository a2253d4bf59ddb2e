import MappedTables.Foreign.Lookup
import MappedTables.Foreign.Segment
import MappedTables.Proofs.Segment.Opened

namespace MappedTables
namespace Foreign

/-!
What calls from other languages do.

Every call that changes anything is a request.  No request changes a file, and
the registry of mappings changes in two ways only: a mapping that was just made
is put in front, or all mappings at one address are taken out because the caller
gave that address back.
-/

/-- A call by a caller in another language. -/
inductive Request where
  | check (name : TextArgument)
  | connect (name : TextArgument)
  | mapDescriptor (number : Int)
  | disconnect (container : UInt64) (number : Int)
  | attach (cells : Option Attachment) (name : TextArgument)
  | detach (cells : Option Attachment)
  | versionOfFile (kind : VersionedFile) (path : TextArgument)

namespace Request

/-- The library after the call. -/
def after (library : Library) : Request -> Library
  | .check name => (Foreign.check name library).2
  | .connect name => (Foreign.connect name library).2
  | .mapDescriptor number => (Foreign.mapDescriptor number library).2
  | .disconnect container number => (Foreign.disconnect container number library).2
  | .attach cells name => (Foreign.attach cells name library).2
  | .detach cells => (Foreign.detach cells library).2
  | .versionOfFile kind path => (Foreign.versionOfFile kind path library).2

/-- The caller gives a pointer back. -/
def GivesBack (request : Request) (pointer : UInt64) : Prop :=
  match request with
  | .disconnect container _ => container = pointer
  | .detach (some cells) => cells.container = pointer
  | _ => False

end Request

/-- What a call can change of what pointers lead to, if it gives back certain pointers. -/
structure Effect (GivesBack : UInt64 -> Prop) (before after : Library) : Prop where
  files_eq : after.host.files = before.host.files
  freeAddress_le : before.host.freeAddress <= after.host.freeAddress
  registry : after.registry = before.registry ∨
    (exists container, GivesBack container ∧
      after.registry = before.registry.filter (·.1 ≠ container)) ∨
    (exists mapping : Mapping, mapping.base = UInt64.ofNat before.host.freeAddress ∧
      after.registry = (mapping.base, mapping) :: before.registry)

/-! ## Single steps -/

theorem Call.bind_apply {Value Result : Type} (call : Call Value)
    (next : Value -> Call Result) (library : Library) :
    (call >>= next) library = next (call library).1 (call library).2 := rfl

theorem attempting_apply {Value : Type} (session : Session Value) (library : Library) :
    attempting session library =
      ((session library.host).1, { library with host := (session library.host).2 }) := rfl

theorem statusOf_ne_success (kind : ErrorKind) : statusOf kind ≠ success := by
  cases kind <;> decide

variable {GivesBack : UInt64 -> Prop}

theorem effect_fail (error : Error) (library : Library) :
    Effect GivesBack library (fail error library).2 where
  files_eq := rfl
  freeAddress_le := Nat.le_refl _
  registry := Or.inl rfl

theorem Effect.refl (library : Library) : Effect GivesBack library library where
  files_eq := rfl
  freeAddress_le := Nat.le_refl _
  registry := Or.inl rfl

/-- Of a call that answers to the outcome of a session, only what is done after a success
has to be looked at, if the session changes no file and a failure is only reported. -/
theorem effect_attempting {Value Result : Type} {session : Session Value}
    {answer : Except Error Value -> Call Result} {library : Library}
    (keeps : session.KeepsFiles)
    (reports : forall error between, (answer (.error error) between).2.host = between.host ∧
      (answer (.error error) between).2.registry = between.registry)
    (succeeds : forall value host, session library.host = (.ok value, host) ->
      Effect GivesBack library (answer (.ok value) { library with host }).2) :
    Effect GivesBack library ((attempting session >>= answer) library).2 := by
  have kept := keeps library.host
  rw [Call.bind_apply, attempting_apply]
  cases ran : session library.host with
  | mk outcome host =>
      rw [ran] at kept
      cases outcome with
      | ok value => exact succeeds value host ran
      | error error =>
          rcases reports error { library with host } with ⟨here, registry⟩
          refine ⟨?_, ?_, Or.inl registry⟩
          · rw [here]
            exact kept.1
          · rw [here]
            exact kept.2

/-! ## Mapping -/

theorem mapNumbered_keepsFiles (number : Int) : (mapNumbered number).KeepsFiles := by
  unfold mapNumbered
  by_cases negative : number < 0
  · simp only [negative, if_true]
    exact fun _ => ⟨rfl, Nat.le_refl _⟩
  · simp only [negative, if_false]
    apply Session.KeepsFiles.bind Session.KeepsFiles.get
    intro host
    cases host.opened? number.toNat with
    | none => exact Session.KeepsFiles.throw _
    | some target =>
        apply Session.KeepsFiles.bind (Session.KeepsFiles.openDescriptor _)
        intro duplicate
        apply Session.KeepsFiles.bind
        · exact Session.KeepsFiles.closingOnFailure (SegmentDescriptor.map_keepsFiles _) _
        · intro mapping
          exact fun _ => ⟨rfl, Nat.le_refl _⟩

/-- What mapping a descriptor of the caller does. -/
theorem mapNumbered_eq_ok {number : Int} {before after : Host} {mapping : Mapping}
    (mapped : mapNumbered number before = (.ok mapping, after)) :
    exists id, before.opened? number.toNat = some (.file id) ∧ before.Maps id mapping after := by
  unfold mapNumbered at mapped
  by_cases negative : number < 0
  · simp only [negative, if_true] at mapped
    cases mapped
  · simp only [negative, if_false] at mapped
    rcases Session.bind_eq_ok_iff.mp mapped with ⟨_, _, read, rest⟩
    rcases Session.get_eq_ok_iff.mp read with ⟨rfl, rfl⟩
    cases stands : before.opened? number.toNat with
    | none =>
        simp only [stands] at rest
        cases rest
    | some target =>
        simp only [stands] at rest
        rcases Session.bind_eq_ok_iff.mp rest with ⟨duplicate, between, numbered, rest⟩
        rw [Session.modifyGet_eq_ok_iff] at numbered
        rcases Session.bind_eq_ok_iff.mp rest with ⟨mapping', mappedHost, made, rest⟩
        rcases SegmentDescriptor.map_eq_ok (Session.undoingOnFailure_eq_ok_iff.mp made) with
          ⟨id, opened, maps⟩
        rcases Session.bind_eq_ok_iff.mp rest with ⟨_, closed, closing, rest⟩
        rw [Session.modify_eq_ok_iff] at closing
        rcases Session.pure_eq_ok_iff.mp rest with ⟨rfl, rfl⟩
        have first : duplicate = before.freeDescriptor := (congrArg Prod.fst numbered).symm
        have second : between = (before.openDescriptor target).2 :=
          (congrArg Prod.snd numbered).symm
        have same : target = .file id := by
          rw [second, first, Host.opened?_openDescriptor, if_pos rfl] at opened
          exact Option.some.inj opened
        rw [second] at maps
        replace maps := maps.of_openDescriptor
        rw [same]
        refine ⟨id, rfl, maps.mapping_eq, ?_, ?_, ?_⟩
        · rw [<- closing]
          exact maps.files_eq
        · rw [<- closing]
          exact maps.freeAddress_lt
        · rw [<- closing]
          exact maps.opens

/-- The library after a mapping was handed out. -/
theorem effect_register {session : Host} {before : Library} {id : FileId} {mapping : Mapping}
    (maps : before.host.Maps id mapping session) :
    Effect GivesBack before (({ before with host := session } : Library).register mapping) where
  files_eq := maps.files_eq
  freeAddress_le := Nat.le_of_lt maps.freeAddress_lt
  registry := Or.inr (Or.inr ⟨mapping, by rw [maps.mapping_eq], rfl⟩)

theorem effect_mapDescriptor (number : Int) (library : Library) :
    Effect GivesBack library (mapDescriptor number library).2 := by
  apply effect_attempting (mapNumbered_keepsFiles number)
  · intro error between
    exact ⟨rfl, rfl⟩
  · intro mapping host ran
    rcases mapNumbered_eq_ok ran with ⟨id, _, maps⟩
    exact effect_register maps

theorem attachSegment_keepsFiles (config : SegmentConfig) :
    (attachSegment config).KeepsFiles := by
  apply Session.KeepsFiles.bind Session.KeepsFiles.get
  intro host
  have rest : (do
      let handle ← SegmentHandle.openAndMap config
      Session.record (.attached config.name none)
      return handle : Session SegmentHandle).KeepsFiles := by
    apply Session.KeepsFiles.bind (SegmentHandle.openAndMap_keepsFiles config)
    intro handle
    apply Session.KeepsFiles.bind (Session.KeepsFiles.record _)
    intro _
    exact Session.KeepsFiles.pure _
  by_cases missing : !config.isAvailable host.files
  · simp only [missing, if_true]
    apply Session.KeepsFiles.bind (Session.KeepsFiles.record _)
    intro _
    exact fun _ => ⟨rfl, Nat.le_refl _⟩
  · simp only [missing]
    exact rest

/-- What attaching a segment does. -/
theorem attachSegment_eq_ok {config : SegmentConfig} {before after : Host}
    {handle : SegmentHandle} (attached : attachSegment config before = (.ok handle, after)) :
    exists id mapping, before.files.find config.objectPath = .ok (.file id) ∧
      before.Maps id mapping after ∧ handle.mapping? = some mapping := by
  rcases Session.bind_eq_ok_iff.mp attached with ⟨_, _, read, rest⟩
  rcases Session.get_eq_ok_iff.mp read with ⟨rfl, rfl⟩
  by_cases missing : !config.isAvailable before.files
  · simp only [missing, if_true] at rest
    cases rest
  · simp only [missing] at rest
    rcases Session.bind_eq_ok_iff.mp rest with ⟨opened, between, first, rest⟩
    rcases Session.bind_eq_ok_iff.mp rest with ⟨_, noted, recorded, rest⟩
    rcases Session.record_eq_ok_iff.mp recorded with rfl
    rcases Session.pure_eq_ok_iff.mp rest with ⟨rfl, rfl⟩
    rcases SegmentHandle.openAndMap_eq_ok first with ⟨id, mapping, found, maps, same⟩
    refine ⟨id, mapping, found, ?_, same⟩
    exact ⟨maps.mapping_eq, maps.files_eq, maps.freeAddress_lt, maps.opens⟩

theorem effect_attach (cells : Option Attachment) (name : TextArgument) (library : Library) :
    Effect GivesBack library (attach cells name library).2 := by
  cases cells with
  | none => exact effect_fail _ library
  | some cells =>
      have keeps : (do attachSegment (← Session.ofExcept (configOf name)) :
          Session SegmentHandle).KeepsFiles := by
        apply Session.KeepsFiles.bind (Session.KeepsFiles.ofExcept _)
        intro config
        exact attachSegment_keepsFiles config
      apply effect_attempting keeps
      · intro error between
        exact ⟨rfl, rfl⟩
      · intro handle host ran
        rcases Session.bind_eq_ok_iff.mp ran with ⟨config, _, named, attached⟩
        rcases Session.ofExcept_eq_ok_iff.mp named with ⟨_, rfl⟩
        rcases attachSegment_eq_ok attached with ⟨id, mapping, _, maps, same⟩
        simp only [same]
        exact effect_register maps

/-! ## Giving back -/

theorem giveBack_apply (container : UInt64) (library : Library) :
    giveBack container library =
      if container = nullAddress then (success, library)
      else if library.isRegistered container = true then (success, library.unregister container)
      else fail (.invalidParameter .foreignPointer) library := by
  by_cases null : container = nullAddress
  · rw [giveBack, if_pos null, if_pos null]
    rfl
  · rw [giveBack, if_neg null, if_neg null]
    change (if library.isRegistered container then do
        modify (·.unregister container)
        return success
      else fail (.invalidParameter .foreignPointer) : Call Nat) library = _
    by_cases registered : library.isRegistered container = true
    · rw [if_pos registered, if_pos registered]
      rfl
    · rw [if_neg registered, if_neg registered]

theorem closeNumbered_apply (number : Int) (status : Nat) (library : Library) :
    closeNumbered number status library =
      if number < 0 then (status, library)
      else if (library.host.opened? number.toNat).isSome = true then
        (status, { library with host := library.host.closeDescriptor number.toNat })
      else fail (.io .closingDescriptor (.os .badDescriptor)) library := by
  by_cases negative : number < 0
  · rw [closeNumbered, if_pos negative, if_pos negative]
    rfl
  · rw [closeNumbered, if_neg negative, if_neg negative]
    change (if (library.host.opened? number.toNat).isSome then do
        onHost (modify (·.closeDescriptor number.toNat))
        return status
      else fail (.io .closingDescriptor (.os .badDescriptor)) : Call Nat) library = _
    by_cases opened : (library.host.opened? number.toNat).isSome = true
    · rw [if_pos opened, if_pos opened]
      rfl
    · rw [if_neg opened, if_neg opened]

theorem effect_giveBack (container : UInt64) (given : GivesBack container)
    (library : Library) : Effect GivesBack library (giveBack container library).2 := by
  rw [giveBack_apply]
  by_cases null : container = nullAddress
  · rw [if_pos null]
    exact Effect.refl library
  · rw [if_neg null]
    by_cases registered : library.isRegistered container = true
    · rw [if_pos registered]
      exact ⟨rfl, Nat.le_refl _, Or.inr (Or.inl ⟨container, given, rfl⟩)⟩
    · rw [if_neg registered]
      exact effect_fail _ library

/-- Closing a descriptor touches neither files nor mappings. -/
theorem closeNumbered_keeps (number : Int) (status : Nat) (library : Library) :
    (closeNumbered number status library).2.host.files = library.host.files ∧
      (closeNumbered number status library).2.host.freeAddress = library.host.freeAddress ∧
      (closeNumbered number status library).2.registry = library.registry := by
  rw [closeNumbered_apply]
  by_cases negative : number < 0
  · rw [if_pos negative]
    exact ⟨rfl, rfl, rfl⟩
  · rw [if_neg negative]
    by_cases opened : (library.host.opened? number.toNat).isSome = true
    · rw [if_pos opened]
      exact ⟨rfl, rfl, rfl⟩
    · rw [if_neg opened]
      exact ⟨rfl, rfl, rfl⟩

theorem effect_disconnect (container : UInt64) (number : Int) (given : GivesBack container)
    (library : Library) : Effect GivesBack library (disconnect container number library).2 := by
  have effect := effect_giveBack container given library
  rw [disconnect, Call.bind_apply]
  rcases closeNumbered_keeps number (giveBack container library).1
    (giveBack container library).2 with ⟨files, freeAddress, registry⟩
  constructor
  · rw [files]
    exact effect.files_eq
  · rw [freeAddress]
    exact effect.freeAddress_le
  · rw [registry]
    exact effect.registry

theorem effect_detach (cells : Option Attachment)
    (given : forall before, cells = some before -> GivesBack before.container)
    (library : Library) : Effect GivesBack library (detach cells library).2 := by
  cases cells with
  | none => exact effect_fail _ library
  | some before =>
      exact effect_disconnect before.container before.descriptor (given before rfl) library

/-! ## Other requests -/

theorem effect_check (name : TextArgument) (library : Library) :
    Effect GivesBack library (check name library).2 := by
  rw [check]
  cases configOf name with
  | error error => exact effect_fail error library
  | ok config =>
      change Effect GivesBack library ((if config.isAvailable library.host.files then
        return success else fail (.notFound config.name) : Call Nat) library).2
      by_cases available : config.isAvailable library.host.files = true
      · rw [if_pos available]
        exact Effect.refl library
      · rw [if_neg available]
        exact effect_fail _ library

theorem effect_connect (name : TextArgument) (library : Library) :
    Effect GivesBack library (connect name library).2 := by
  have keeps : (do
      let config ← Session.ofExcept (configOf name)
      config.openForReading : Session SegmentDescriptor).KeepsFiles := by
    apply Session.KeepsFiles.bind (Session.KeepsFiles.ofExcept _)
    intro config
    exact config.openForReading_keepsFiles
  apply effect_attempting keeps
  · intro error between
    exact ⟨rfl, rfl⟩
  · intro descriptor host ran
    have kept := keeps library.host
    rw [ran] at kept
    exact ⟨kept.1, kept.2, Or.inl rfl⟩

theorem effect_versionOfFile (kind : VersionedFile) (path : TextArgument) (library : Library) :
    Effect GivesBack library (versionOfFile kind path library).2 := by
  rw [versionOfFile]
  cases textOf path with
  | error error => exact Effect.refl library
  | ok path =>
      change Effect GivesBack library
        { library with host := (kind.versionShown path library.host).2 }
      unfold VersionedFile.versionShown
      cases kind.versionAt library.host.files path with
      | ok tag => exact Effect.refl library
      | error error => exact ⟨rfl, Nat.le_refl _, Or.inl rfl⟩

/-- All that a request can do. -/
theorem Request.effect (request : Request) (library : Library) :
    Effect request.GivesBack library (request.after library) := by
  cases request with
  | check name => exact effect_check name library
  | connect name => exact effect_connect name library
  | mapDescriptor number => exact effect_mapDescriptor number library
  | disconnect container number => exact effect_disconnect container number rfl library
  | attach cells name => exact effect_attach cells name library
  | detach cells =>
      apply effect_detach
      rintro before rfl
      rfl
  | versionOfFile kind path => exact effect_versionOfFile kind path library

end Foreign
end MappedTables
