import Mathlib.Data.List.TakeWhile
import MappedTables.Proofs.Error.Plain
import MappedTables.Proofs.Foreign.Requests
import MappedTables.Proofs.Text.Utf8

namespace MappedTables

/-!
The failures of calls from other languages.

What can go wrong in a call is known before the call is made, from the argument
and from the library as it is.  Nothing that goes wrong has a NUL in its wording,
because a name has ended at its first NUL; so every wording can be kept for the
caller, and the one that is kept is that of the last failure.
-/

open Outcome (FailsWith)

namespace Foreign

/-! ## Arguments -/

/-- A text argument ends at its first NUL. -/
theorem nulFree_of_textOf {argument : TextArgument} {text : String}
    (given : textOf argument = .ok text) : NulFree text := by
  cases argument with
  | none => cases given
  | some octets =>
      unfold textOf at given
      cases decoded : Utf8.decode? (untilNul octets) with
      | none =>
          simp only [decoded] at given
          cases given
      | some other =>
          simp only [decoded] at given
          cases given
          have terminator : UInt8.ofNat (Char.ofNat 0).toNat = columnTerminator := by decide
          unfold NulFree
          rw [<- Utf8.mem_encode_iff (by decide), terminator]
          change columnTerminator ∉ Utf8.ofString text
          rw [<- Utf8.decode?_eq_some_iff.mp decoded, untilNul, Array.mem_def,
            Array.toList_takeWhile]
          intro member
          have kept := List.mem_takeWhile_imp member
          exact of_decide_eq_true kept rfl

theorem configOf_fails (argument : TextArgument) :
    FailsWith Error.IsPlain (configOf argument) := by
  have given : FailsWith Error.IsPlain (textOf argument) := by
    unfold textOf
    cases argument with
    | none => exact .error (Error.isPlain_of_nil rfl)
    | some octets =>
        cases decoded : Utf8.decode? (untilNul octets) with
        | none =>
            simp only [decoded]
            exact .error (Error.isPlain_of_nil rfl)
        | some text =>
            simp only [decoded]
            exact .ok text
  exact .bind given fun text => .bind (SegmentConfig.validate_fails _) fun _ => .ok _

/-- What a text argument says is the name of a shared memory segment. -/
theorem configOf_eq_ok {argument : TextArgument} {config : SegmentConfig}
    (named : configOf argument = .ok config) :
    exists name, textOf argument = .ok name ∧ config = SegmentConfig.named name ∧
      config.validate = .ok () := by
  rcases Outcome.bind_eq_ok_iff.mp named with ⟨name, given, rest⟩
  rcases Outcome.bind_eq_ok_iff.mp rest with ⟨_, valid, same⟩
  cases same
  exact ⟨name, given, rfl, valid⟩

/-! ## What comes of a call -/

theorem attachSegment_of_unavailable {config : SegmentConfig} {host : Host}
    (missing : config.isAvailable host.files = false) :
    attachSegment config host =
      (.error (.notFound config.name), host.record (.unavailable config.name)) := by
  have read : (get : Session Host) host = (.ok host, host) := rfl
  rw [attachSegment, Outcome.bind_apply, read]
  simp only [missing, Bool.not_false, if_true]
  rfl

theorem attachSegment_of_available {config : SegmentConfig} {host : Host}
    (present : config.isAvailable host.files = true) :
    attachSegment config host =
      (SegmentHandle.openAndMap config >>= fun handle => do
        Session.record (.attached config.name none)
        return handle) host := by
  have read : (get : Session Host) host = (.ok host, host) := rfl
  rw [attachSegment, Outcome.bind_apply, read]
  simp only [present, Bool.not_true, Bool.false_eq_true, if_false]

/-- What attaching a segment comes to for a caller in another language. -/
theorem attachSegment_fst (config : SegmentConfig) (host : Host) :
    (attachSegment config host).1 = config.attachmentIn host := by
  unfold SegmentConfig.attachmentIn
  cases available : config.isAvailable host.files with
  | false =>
      rw [attachSegment_of_unavailable available]
      rfl
  | true =>
      rw [attachSegment_of_available available,
        (SegmentHandle.attached_recorded config _ host).1, SegmentHandle.openAndMap_fst]
      rfl

theorem attached_attachSegment (config : SegmentConfig) (host : Host) :
    config.Attached host (attachSegment config host).1 (attachSegment config host).2 := by
  cases available : config.isAvailable host.files with
  | false =>
      rw [attachSegment_of_unavailable available]
      exact .error _ _ ((Host.Restores.refl host).record _)
  | true =>
      rw [attachSegment_of_available available]
      exact (SegmentHandle.attached_recorded config _ host).2

/-- The mapping that is made of what a descriptor of the caller stands for. -/
def mappingBehind (number : Int) (host : Host) : Except Error Mapping :=
  if number < 0 then .error (.invalidParameter .negativeDescriptor)
  else
    match host.opened? number.toNat with
    | none => .error (.io .duplicatingDescriptor (.os .badDescriptor))
    | some target => host.mappingOf target

/-- Mapping a descriptor of the caller leaves no other descriptor open, whatever comes of it. -/
theorem mapNumbered_apply (number : Int) (host : Host) :
    (mapNumbered number host).1 = mappingBehind number host ∧
      host.Restores (mapNumbered number host).2 := by
  unfold mapNumbered mappingBehind
  by_cases negative : number < 0
  · simp only [negative, if_true]
    exact ⟨rfl, Host.Restores.refl host⟩
  · have read : (get : Session Host) host = (.ok host, host) := rfl
    simp only [negative, if_false, Outcome.bind_apply, read]
    cases stands : host.opened? number.toNat with
    | none => exact ⟨rfl, Host.Restores.refl host⟩
    | some target =>
        let descriptor : SegmentDescriptor := ⟨host.freeDescriptor, s!"fd {number}"⟩
        let rest : Session Mapping := do
          let mapping ← Session.undoingOnFailure descriptor.map descriptor.close
          modify descriptor.close
          return mapping
        have outcome : (descriptor.map (host.openDescriptor target).2).1 =
            host.mappingOf target :=
          SegmentDescriptor.map_fst ((host.opened?_openDescriptor _ _).trans (if_pos rfl))
        have restores := descriptor.map_restores (host.openDescriptor target).2
        change (rest (host.openDescriptor target).2).1 = host.mappingOf target ∧
          host.Restores (rest (host.openDescriptor target).2).2
        have run : rest (host.openDescriptor target).2 = _ := Outcome.bind_apply _ _ _
        rw [run, Session.undoingOnFailure, <- outcome]
        cases ran : descriptor.map (host.openDescriptor target).2 with
        | mk result after =>
            rw [ran] at restores
            cases result with
            | error error => exact ⟨rfl, restores.of_openDescriptor⟩
            | ok mapping => exact ⟨rfl, restores.of_openDescriptor⟩

/-! ## Failures of a call -/

/-- Whether the segment of that name is available, and why not. -/
def availability (name : TextArgument) (files : FileSystem) : Except Error Unit := do
  let config ← configOf name
  if !config.isAvailable files then
    throw (.notFound config.name)

/-- What is opened by a caller who connects to the segment of that name. -/
def objectNamed (name : TextArgument) (files : FileSystem) : Except Error OpenFile := do
  (← configOf name).objectIn files

/-- What a caller gets who attaches the segment of that name. -/
def attachmentNamed (name : TextArgument) (host : Host) : Except Error SegmentHandle := do
  (← configOf name).attachmentIn host

/-- The failure that came of a computation, if one did. -/
def failureOf {Value : Type} : Except Error Value -> List Error
  | .ok _ => []
  | .error error => [error]

/-- What goes wrong in taking back a container. -/
def Library.containerRefusals (library : Library) (container : UInt64) : List Error :=
  if container = nullAddress ∨ library.isRegistered container = true then []
  else [.invalidParameter .foreignPointer]

/-- What goes wrong in closing a descriptor. -/
def Library.descriptorRefusals (library : Library) (number : Int) : List Error :=
  if number < 0 ∨ (library.host.opened? number.toNat).isSome = true then []
  else [.io .closingDescriptor (.os .badDescriptor)]

/-- What goes wrong in taking back a container and closing a descriptor. -/
def Library.refusals (library : Library) (container : UInt64) (number : Int) : List Error :=
  library.containerRefusals container ++ library.descriptorRefusals number

/-- What goes wrong in a call, in the order in which it does. -/
def Request.failures (library : Library) : Request -> List Error
  | .check name => failureOf (availability name library.host.files)
  | .connect name => failureOf (objectNamed name library.host.files)
  | .mapDescriptor number => failureOf (mappingBehind number library.host)
  | .disconnect container number => library.refusals container number
  | .attach none _ => [.invalidParameter .nullOutput]
  | .attach (some _) name => failureOf (attachmentNamed name library.host)
  | .detach none => [.invalidParameter .nullHandle]
  | .detach (some cells) => library.refusals cells.container cells.descriptor
  | .versionOfFile _ _ => []

theorem nulFree_objectName {name : String} (plain : NulFree name) :
    NulFree (SegmentConfig.named name).objectName := by
  change NulFree (if name.toList.head? = some '/' then name else "/" ++ name)
  by_cases slash : name.toList.head? = some '/'
  · rw [if_pos slash]
    exact plain
  · rw [if_neg slash, nulFree_append]
    exact ⟨nulFree_ofList (by decide), plain⟩

theorem objectNamed_fails (name : TextArgument) (files : FileSystem) :
    FailsWith Error.IsPlain (objectNamed name files) := by
  intro error failed
  rcases Outcome.bind_eq_error_iff.mp failed with refused | ⟨config, named, missing⟩
  · exact configOf_fails name error refused
  · rcases configOf_eq_ok named with ⟨text, given, rfl, _⟩
    exact SegmentConfig.objectIn_fails (nulFree_objectName (nulFree_of_textOf given)) files error
      missing

/-- A segment that is not available is called by its name. -/
theorem unavailable_isPlain {name : TextArgument} {config : SegmentConfig}
    (named : configOf name = .ok config) : (Error.notFound config.name).IsPlain := by
  rcases configOf_eq_ok named with ⟨text, given, rfl, _⟩
  exact Error.isPlain_of_singleton rfl (nulFree_of_textOf given)

theorem availability_fails (name : TextArgument) (files : FileSystem) :
    FailsWith Error.IsPlain (availability name files) := by
  intro error failed
  rcases Outcome.bind_eq_error_iff.mp failed with refused | ⟨config, named, missing⟩
  · exact configOf_fails name error refused
  · refine FailsWith.ite (.error (unavailable_isPlain named)) (.ok _) error missing

theorem attachmentNamed_fails (name : TextArgument) (host : Host) :
    FailsWith Error.IsPlain (attachmentNamed name host) := by
  intro error failed
  rcases Outcome.bind_eq_error_iff.mp failed with refused | ⟨config, named, missing⟩
  · exact configOf_fails name error refused
  · refine FailsWith.ite (.error (unavailable_isPlain named)) (FailsWith.bind ?_ ?_) error missing
    · intro other absent
      apply objectNamed_fails name host.files
      rw [objectNamed, named]
      exact absent
    · exact fun target => .bind (host.mappingOf_fails target) fun _ => .ok _

theorem mappingBehind_fails (number : Int) (host : Host) :
    FailsWith Error.IsPlain (mappingBehind number host) := by
  refine .ite (.error (Error.isPlain_of_nil rfl)) ?_
  cases host.opened? number.toNat with
  | none => exact .error (Error.isPlain_of_nil rfl)
  | some target => exact host.mappingOf_fails target

/-! ## Calls, by what comes of them -/

/-- A wording without a NUL is kept. -/
theorem fail_of_isPlain {error : Error} (plain : error.IsPlain) (library : Library) :
    fail error library =
      (statusOf error.kind, { library with lastError := some error.message }) := by
  have octets : octetsOf? error.message = some (Utf8.ofString error.message) := by
    unfold octetsOf?
    apply if_neg
    have terminator : UInt8.ofNat (Char.ofNat 0).toNat = columnTerminator := by decide
    have absent := error.nulFree_message plain
    unfold NulFree at absent
    rw [<- Utf8.mem_encode_iff (by decide), terminator] at absent
    rw [Array.contains_iff_mem]
    exact absent
  have kept : fail error library = (statusOf error.kind,
    { library with lastError := (octetsOf? error.message).map fun _ => error.message }) := rfl
  rw [kept, octets]
  rfl

theorem check_apply (name : TextArgument) (library : Library) :
    check name library =
      match availability name library.host.files with
      | .ok () => (success, library)
      | .error error => fail error library := by
  unfold check availability
  cases configOf name with
  | error error => rfl
  | ok config =>
      change (if config.isAvailable library.host.files then return success
        else fail (.notFound config.name) : Call Nat) library = _
      rw [Outcome.ok_bind]
      cases config.isAvailable library.host.files with
      | true => rfl
      | false => rfl

variable {library : Library} {name : TextArgument}

theorem connect_of_ok {target : OpenFile}
    (found : objectNamed name library.host.files = .ok target) :
    connect name library =
      ((library.host.freeDescriptor : Int),
        { library with host := (library.host.openDescriptor target).2 }) := by
  rcases Outcome.bind_eq_ok_iff.mp found with ⟨config, named, present⟩
  have ran : (do
      let config ← Session.ofExcept (configOf name)
      config.openForReading : Session SegmentDescriptor) library.host =
        (.ok ⟨library.host.freeDescriptor, config.name⟩,
          (library.host.openDescriptor target).2) :=
    Session.bind_eq_ok_iff.mpr ⟨config, _, Session.ofExcept_eq_ok_iff.mpr ⟨named, rfl⟩,
      SegmentConfig.openForReading_of_ok present⟩
  rw [connect, Call.bind_apply, attempting_apply, ran]
  rfl

theorem connect_of_error {error : Error}
    (missing : objectNamed name library.host.files = .error error) :
    exists host, library.host.Restores host ∧
      connect name library = (noDescriptor, (fail error { library with host }).2) := by
  have ran : exists host, library.host.Restores host ∧ (do
      let config ← Session.ofExcept (configOf name)
      config.openForReading : Session SegmentDescriptor) library.host =
        (.error error, host) := by
    rcases Outcome.bind_eq_error_iff.mp missing with refused | ⟨config, named, absent⟩
    · exact ⟨_, Host.Restores.refl _, Session.bind_eq_error_iff.mpr
        (Or.inl (Session.ofExcept_eq_error_iff.mpr ⟨refused, rfl⟩))⟩
    · exact ⟨_, (Host.Restores.refl _).record _, Session.bind_eq_error_iff.mpr
        (Or.inr ⟨config, _, Session.ofExcept_eq_ok_iff.mpr ⟨named, rfl⟩,
          SegmentConfig.openForReading_of_error absent⟩)⟩
  rcases ran with ⟨host, restores, ran⟩
  refine ⟨host, restores, ?_⟩
  rw [connect, Call.bind_apply, attempting_apply, ran]
  rfl

theorem mapDescriptor_of_ok {number : Int} {mapping : Mapping}
    (found : mappingBehind number library.host = .ok mapping) :
    exists id host, library.host.Maps id mapping host ∧ library.host.Restores host ∧
      mapDescriptor number library =
        (mapping.base, ({ library with host } : Library).register mapping) := by
  rcases mapNumbered_apply number library.host with ⟨outcome, restores⟩
  rw [mapDescriptor, Call.bind_apply, attempting_apply]
  cases ran : mapNumbered number library.host with
  | mk result host =>
      rw [ran, found] at outcome
      rw [ran] at restores
      cases outcome
      rcases mapNumbered_eq_ok ran with ⟨id, _, maps⟩
      exact ⟨id, host, maps, restores, rfl⟩

theorem mapDescriptor_of_error {number : Int} {error : Error}
    (missing : mappingBehind number library.host = .error error) :
    exists host, library.host.Restores host ∧
      mapDescriptor number library = (nullAddress, (fail error { library with host }).2) := by
  rcases mapNumbered_apply number library.host with ⟨outcome, restores⟩
  refine ⟨_, restores, ?_⟩
  rw [mapDescriptor, Call.bind_apply, attempting_apply, outcome, missing]
  rfl

theorem attach_of_ok {handle : SegmentHandle} (before : Attachment)
    (found : attachmentNamed name library.host = .ok handle) :
    exists id mapping host, handle.mapping? = some mapping ∧ library.host.Maps id mapping host ∧
      host.descriptors = (library.host.openDescriptor (.file id)).2.descriptors ∧
      attach (some before) name library =
        ((success, some ⟨mapping.base, library.host.freeDescriptor⟩),
          ({ library with host } : Library).register mapping) := by
  rcases Outcome.bind_eq_ok_iff.mp found with ⟨config, named, attaches⟩
  rw [<- attachSegment_fst] at attaches
  have attached := attached_attachSegment config library.host
  have ran : (do attachSegment (← Session.ofExcept (configOf name)) : Session SegmentHandle)
      library.host = attachSegment config library.host := by
    rw [Outcome.bind_apply, named]
    rfl
  rw [attach, Call.bind_apply, attempting_apply, ran]
  cases reached : attachSegment config library.host with
  | mk outcome host =>
      rw [reached] at attached attaches
      cases attached with
      | error => cases attaches
      | ok id mapping after opens maps =>
          cases attaches
          exact ⟨id, mapping, _, rfl, maps, opens, rfl⟩

theorem attach_of_error {error : Error} (before : Attachment)
    (missing : attachmentNamed name library.host = .error error) :
    exists host, library.host.Restores host ∧
      attach (some before) name library =
        ((statusOf error.kind, some before), (fail error { library with host }).2) := by
  have ran : exists host, library.host.Restores host ∧
      (do attachSegment (← Session.ofExcept (configOf name)) : Session SegmentHandle)
        library.host = (.error error, host) := by
    rcases Outcome.bind_eq_error_iff.mp missing with refused | ⟨config, named, absent⟩
    · exact ⟨_, Host.Restores.refl _, Session.bind_eq_error_iff.mpr
        (Or.inl (Session.ofExcept_eq_error_iff.mpr ⟨refused, rfl⟩))⟩
    · rw [<- attachSegment_fst] at absent
      have attached := attached_attachSegment config library.host
      cases reached : attachSegment config library.host with
      | mk outcome host =>
          rw [reached] at attached absent
          cases attached with
          | ok => cases absent
          | error other after restores =>
              cases absent
              exact ⟨_, restores, Session.bind_eq_error_iff.mpr (Or.inr
                ⟨config, _, Session.ofExcept_eq_ok_iff.mpr ⟨named, rfl⟩, reached⟩)⟩
  rcases ran with ⟨host, restores, ran⟩
  refine ⟨host, restores, ?_⟩
  rw [attach, Call.bind_apply, attempting_apply, ran]
  rfl

end Foreign
end MappedTables
