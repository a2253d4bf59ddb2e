import MappedTables.Proofs.Foreign.Ledger
import MappedTables.Proofs.Foreign.Pointers

namespace MappedTables
namespace Foreign

/-!
Two ways to a container.

A caller may attach a segment in one call, or check that it is available, connect
to it and map the descriptor.  Both ways come to the same decision, because both
look at the same things in the same order; and when they fail they fail for the
same reason.  What differs is who cleans up: after a failure `attach` leaves
nothing open, while a caller of the split surface still holds what it was given.
-/

/-! ## The split surface -/

namespace Split

variable (name : TextArgument) (library : Library)

/-- The first call: is the segment available? -/
def checked : Nat × Library :=
  check name library

/-- The second call: connect to the segment. -/
def connected : Int × Library :=
  connect name (checked name library).2

/-- The third call: map the descriptor. -/
def mapped : UInt64 × Library :=
  mapDescriptor (connected name library).1 (connected name library).2

/-- Each of the calls succeeds after those before it. -/
def Succeeds : Prop :=
  (checked name library).1 = success ∧ 0 <= (connected name library).1 ∧
    (mapped name library).1 ≠ nullAddress

/-- What goes wrong in the first of the calls that fails. -/
def failures : List Error :=
  if (checked name library).1 ≠ success then (Request.check name).failures library
  else if (connected name library).1 < 0 then
    (Request.connect name).failures (checked name library).2
  else (Request.mapDescriptor (connected name library).1).failures (connected name library).2

/-- The wording that is kept by the first of the calls that fails. -/
def lastError : Option String :=
  if (checked name library).1 ≠ success then (checked name library).2.lastError
  else if (connected name library).1 < 0 then (connected name library).2.lastError
  else (mapped name library).2.lastError

end Split

/-! ## The decision -/

section Decision

variable {name : TextArgument} {host : Host} {error : Error}

/-- What is not available is not attached, for the same reason. -/
theorem attachmentNamed_of_unavailable
    (missing : availability name host.files = .error error) :
    attachmentNamed name host = .error error := by
  unfold attachmentNamed SegmentConfig.attachmentIn
  rcases Outcome.bind_eq_error_iff.mp missing with refused | ⟨config, named, absent⟩
  · rw [refused]
    rfl
  · rw [named, Outcome.ok_bind]
    cases available : config.isAvailable host.files with
    | true =>
        rw [available] at absent
        cases absent
    | false =>
        rw [available] at absent
        cases absent
        rfl

/-- What is available is opened and mapped. -/
theorem attachmentNamed_of_available (present : availability name host.files = .ok ()) :
    exists text, attachmentNamed name host = do
      let target ← objectNamed name host.files
      let mapping ← host.mappingOf target
      return SegmentHandle.ofParts mapping ⟨host.freeDescriptor, text⟩ := by
  unfold attachmentNamed objectNamed SegmentConfig.attachmentIn
  rcases Outcome.bind_eq_ok_iff.mp present with ⟨config, named, available⟩
  refine ⟨config.name, ?_⟩
  rw [named, Outcome.ok_bind]
  cases available' : config.isAvailable host.files with
  | true => rfl
  | false =>
      rw [available'] at available
      cases available

/-- What is attached is available, and it is the object that was found that is mapped. -/
theorem parts_of_attachmentNamed {handle : SegmentHandle} {mapping : Mapping}
    (found : attachmentNamed name host = .ok handle) (shown : handle.mapping? = some mapping) :
    availability name host.files = .ok () ∧
      objectNamed name host.files = .ok (.file mapping.file) ∧
      host.mappingOf (.file mapping.file) = .ok mapping := by
  cases present : availability name host.files with
  | error error =>
      rw [attachmentNamed_of_unavailable present] at found
      cases found
  | ok =>
      rcases attachmentNamed_of_available present with ⟨text, whole⟩
      rw [whole] at found
      rcases Outcome.bind_eq_ok_iff.mp found with ⟨target, opened, rest⟩
      rcases Outcome.bind_eq_ok_iff.mp rest with ⟨other, made, same⟩
      cases same
      cases shown
      rw [Host.eq_file_of_mappingOf made] at opened made
      exact ⟨rfl, opened, made⟩

/-- The object that is found for a name is the one that its path leads to. -/
theorem find_of_objectNamed {id : FileId} (found : objectNamed name host.files = .ok (.file id)) :
    exists text, textOf name = .ok text ∧
      host.files.find (SegmentConfig.named text).objectPath = .ok (.file id) := by
  rcases Outcome.bind_eq_ok_iff.mp found with ⟨config, named, object⟩
  rcases configOf_eq_ok named with ⟨text, given, rfl, _⟩
  exact ⟨text, given, SegmentConfig.find_of_objectIn object⟩

theorem mappingBehind_openDescriptor (host : Host) (target : OpenFile) :
    mappingBehind host.freeDescriptor (host.openDescriptor target).2 = host.mappingOf target := by
  have counted : ¬ (host.freeDescriptor : Int) < 0 := by omega
  have stands : (host.openDescriptor target).2.opened? (host.freeDescriptor : Int).toNat =
      some target := by
    rw [Int.toNat_natCast]
    exact (host.opened?_openDescriptor _ _).trans (if_pos rfl)
  rw [mappingBehind, if_neg counted, stands]
  exact host.mappingOf_openDescriptor target target

end Decision

/-! ## The course of the split calls -/

namespace Split

variable {name : TextArgument} {library : Library}

theorem checked_of_available (present : availability name library.host.files = .ok ()) :
    checked name library = (success, library) := by
  rw [checked, check_apply, present]

theorem connected_of_available (present : availability name library.host.files = .ok ()) :
    connected name library = connect name library := by
  rw [connected, checked_of_available present]

theorem connected_of_found (present : availability name library.host.files = .ok ())
    {target : OpenFile} (found : objectNamed name library.host.files = .ok target) :
    connected name library = ((library.host.freeDescriptor : Int),
      { library with host := (library.host.openDescriptor target).2 }) := by
  rw [connected_of_available present]
  exact connect_of_ok found

theorem mappingBehind_connected (present : availability name library.host.files = .ok ())
    {target : OpenFile} (found : objectNamed name library.host.files = .ok target) :
    mappingBehind (connected name library).1 (connected name library).2.host =
      library.host.mappingOf target := by
  rw [connected_of_found present found]
  exact mappingBehind_openDescriptor _ _

/-- One of the split calls fails, and the wording of its failure is kept. -/
def FailsFor (name : TextArgument) (library : Library) (error : Error) : Prop :=
  ¬ Succeeds name library ∧ failures name library = [error] ∧
    lastError name library = some error.message

theorem failsFor_of_unavailable {error : Error}
    (missing : availability name library.host.files = .error error) :
    FailsFor name library error := by
  have run : checked name library =
      (statusOf error.kind, { library with lastError := some error.message }) := by
    rw [checked, check_apply, missing]
    exact fail_of_isPlain (availability_fails name _ error missing) library
  have refused : (checked name library).1 ≠ success := by
    rw [run]
    exact statusOf_ne_success error.kind
  refine ⟨fun succeeds => refused succeeds.1, ?_, ?_⟩
  · rw [failures, if_pos refused, Request.failures, missing]
    rfl
  · rw [lastError, if_pos refused, run]

theorem failsFor_of_missing {error : Error}
    (present : availability name library.host.files = .ok ())
    (missing : objectNamed name library.host.files = .error error) :
    FailsFor name library error := by
  have passed : ¬ (checked name library).1 ≠ success := by
    rw [checked_of_available present]
    exact fun other => other rfl
  rcases connect_of_error missing with ⟨host, _, run⟩
  rw [fail_of_isPlain (objectNamed_fails name _ error missing),
    <- connected_of_available present] at run
  have refused : (connected name library).1 < 0 := by
    rw [run]
    exact (by decide : noDescriptor < 0)
  refine ⟨fun succeeds => absurd succeeds.2.1 (Int.not_le.mpr refused), ?_, ?_⟩
  · rw [failures, if_neg passed, if_pos refused, checked_of_available present, Request.failures,
      missing]
    rfl
  · rw [lastError, if_neg passed, if_pos refused, run]

theorem failsFor_of_unmapped {error : Error}
    (present : availability name library.host.files = .ok ()) {target : OpenFile}
    (found : objectNamed name library.host.files = .ok target)
    (missing : library.host.mappingOf target = .error error) :
    FailsFor name library error := by
  have passed : ¬ (checked name library).1 ≠ success := by
    rw [checked_of_available present]
    exact fun other => other rfl
  have counted : ¬ (connected name library).1 < 0 := by
    rw [connected_of_found present found]
    exact Int.not_lt.mpr (Int.natCast_nonneg _)
  have behind : mappingBehind (connected name library).1 (connected name library).2.host =
      .error error := (mappingBehind_connected present found).trans missing
  rcases mapDescriptor_of_error behind with ⟨host, _, run⟩
  rw [fail_of_isPlain (mappingBehind_fails _ _ error behind)] at run
  refine ⟨fun succeeds => absurd (congrArg Prod.fst run) succeeds.2.2, ?_, ?_⟩
  · rw [failures, if_neg passed, if_neg counted, Request.failures, behind]
    rfl
  · rw [lastError, if_neg passed, if_neg counted, mapped, run]

/-- Where attaching fails, one of the split calls fails, and for the same reason. -/
theorem failsFor_of_error {error : Error}
    (missing : attachmentNamed name library.host = .error error) :
    FailsFor name library error := by
  cases present : availability name library.host.files with
  | error other =>
      rw [attachmentNamed_of_unavailable present] at missing
      cases missing
      exact failsFor_of_unavailable present
  | ok =>
      rcases attachmentNamed_of_available present with ⟨text, whole⟩
      rw [whole] at missing
      rcases Outcome.bind_eq_error_iff.mp missing with absent | ⟨target, found, rest⟩
      · exact failsFor_of_missing present absent
      · rcases Outcome.bind_eq_error_iff.mp rest with unmapped | ⟨mapping, _, impossible⟩
        · exact failsFor_of_unmapped present found unmapped
        · cases impossible

end Split

/-! ## What both ways expose -/

/-- One container and one descriptor were handed out that nobody had before, and the octets from
the pointer on are those of the content. -/
structure Exposes (content : Bytes) (pointer : UInt64) (number : Int) (before after : Library) :
    Prop where
  shown : spanFrom? after.memory pointer = some ⟨pointer, content⟩
  containers : after.containers = pointer :: before.containers
  numbers : after.numbers = number :: before.numbers
  pointer_notMem : pointer ∉ before.containers
  number_notMem : number ∉ before.numbers

theorem exposes_of_maps {library : Library} {host : Host} {id : FileId} {mapping : Mapping}
    (maps : library.host.Maps id mapping host)
    (opens : host.descriptors = (library.host.openDescriptor (.file id)).2.descriptors)
    (unused : UInt64.ofNat library.host.freeAddress ∉ library.containers) :
    Exposes (library.host.files.file id).content mapping.base library.host.freeDescriptor library
      (({ library with host } : Library).register mapping) where
  shown := by
    have memory := maps.memory_eq
    rcases maps.opens with ⟨container, opened⟩
    rw [memory] at opened
    have whole : (({ library with host } : Library).register mapping).memory =
        host.memory mapping :: library.registry.map fun entry => host.memory entry.2 := rfl
    have base : mapping.base = UInt64.ofNat library.host.freeAddress := by rw [maps.mapping_eq]
    have long := (aligned_of_ofRelocated opened).2
    have nonempty : 0 < (host.memory mapping).size := by
      rw [memory]
      exact Nat.lt_of_lt_of_le (by decide) long
    have front := spanFrom?_cons_self nonempty (library.registry.map fun entry =>
      host.memory entry.2)
    rw [whole, base]
    rw [memory] at front ⊢
    exact front
  containers := rfl
  numbers := by
    change host.descriptors.map _ = _
    rw [opens]
    rfl
  pointer_notMem := by
    rw [maps.mapping_eq]
    exact unused
  number_notMem := by
    rw [Library.mem_numbers_iff, Int.toNat_natCast, library.host.opened?_freeDescriptor]
    exact fun member => Bool.noConfusion member.2

/-- Where attaching succeeds, the split calls succeed, and the container shows the same file. -/
theorem Split.exposes_of_ok {name : TextArgument} {library : Library} {handle : SegmentHandle}
    {mapping : Mapping} (found : attachmentNamed name library.host = .ok handle)
    (shown : handle.mapping? = some mapping)
    (nonnull : UInt64.ofNat library.host.freeAddress ≠ nullAddress)
    (unused : UInt64.ofNat library.host.freeAddress ∉ library.containers) :
    Succeeds name library ∧
      (exists text, textOf name = .ok text ∧
        library.host.files.find (SegmentConfig.named text).objectPath =
          .ok (.file mapping.file)) ∧
      Exposes (library.host.files.file mapping.file).content (mapped name library).1
        (connected name library).1 library (mapped name library).2 := by
  rcases parts_of_attachmentNamed found shown with ⟨present, opened, made⟩
  have connects := connected_of_found present opened
  have behind := (mappingBehind_connected present opened).trans made
  rcases mapDescriptor_of_ok behind with ⟨id, host, maps, restores, run⟩
  have run' : mapped name library = _ := run
  rw [connects] at maps restores run'
  have file : mapping.file = id := by rw [maps.mapping_eq]
  rw [<- file] at maps
  refine ⟨⟨?_, ?_, ?_⟩, find_of_objectNamed opened, ?_⟩
  · rw [checked_of_available present]
  · rw [connects]
    exact Int.natCast_nonneg _
  · rw [run', maps.mapping_eq]
    exact nonnull
  · rw [run', connects]
    exact exposes_of_maps maps.of_openDescriptor restores.descriptors_eq unused

/-! ## Agreement -/

/-- Nothing was handed out, and nothing is open that was not open before. -/
structure Untouched (before after : Library) : Prop where
  registry_eq : after.registry = before.registry
  descriptors_eq : after.host.descriptors = before.host.descriptors

/-- Attaching a segment decides as the split calls do, and as a native caller finds. -/
structure Agrees (name : TextArgument) (cells : Attachment) (library : Library) : Prop where
  succeeds_iff : (attach (some cells) name library).1.1 = success <-> Split.Succeeds name library
  /-- Both ways expose the content of the same file. -/
  succeeds : Split.Succeeds name library -> exists id filled,
    (exists text, textOf name = .ok text ∧
      library.host.files.find (SegmentConfig.named text).objectPath = .ok (.file id)) ∧
    (attach (some cells) name library).1 = (success, some filled) ∧
    Exposes (library.host.files.file id).content filled.container filled.descriptor library
      (attach (some cells) name library).2 ∧
    Exposes (library.host.files.file id).content (Split.mapped name library).1
      (Split.connected name library).1 library (Split.mapped name library).2
  /-- Otherwise nothing is left of the attempt but the reason. -/
  fails : ¬ Split.Succeeds name library -> exists error,
    Split.failures name library = [error] ∧
    (attach (some cells) name library).1 = (statusOf error.kind, some cells) ∧
    Untouched library (attach (some cells) name library).2 ∧
    (attach (some cells) name library).2.lastError = Split.lastError name library ∧
    Split.lastError name library = some error.message
  native_iff : forall text, textOf name = .ok text ->
    ((exists handle,
        (SegmentHandle.attach (SegmentConfig.named text) library.host).1 = .ok handle) <->
      (attach (some cells) name library).1.1 = success)

/-- A native caller who gives the same name attaches the same segment. -/
theorem native_attach_iff {name : TextArgument} {text : String} (given : textOf name = .ok text)
    (host : Host) :
    (exists handle, (SegmentHandle.attach (SegmentConfig.named text) host).1 = .ok handle) <->
      exists handle, attachmentNamed name host = .ok handle := by
  have whole : attachmentNamed name host =
      ((SegmentConfig.named text).validate >>= fun _ =>
        (SegmentConfig.named text).attachmentIn host) := by
    unfold attachmentNamed configOf
    rw [given, Outcome.ok_bind]
    change ((SegmentConfig.named text).validate >>= fun _ => pure (SegmentConfig.named text)) >>=
      (fun config => config.attachmentIn host) = _
    cases (SegmentConfig.named text).validate with
    | ok => rfl
    | error error => rfl
  rw [SegmentHandle.attach_fst, whole]
  cases valid : (SegmentConfig.named text).validate with
  | ok => exact Iff.rfl
  | error error =>
      have missing : (SegmentConfig.named text).isAvailable host.files = false := by
        rw [SegmentConfig.isAvailable, valid]
      unfold SegmentConfig.attachmentIn
      rw [missing]
      constructor
      · rintro ⟨handle, impossible⟩
        cases impossible
      · rintro ⟨handle, impossible⟩
        cases impossible

/-- Whatever the files and the argument are, `attach` refines the split calls: as long as the
system maps at an address that is not null and not in use, it does in one step what they do in
three, and nothing if one of them fails. -/
theorem attach_refines_split (name : TextArgument) (cells : Attachment) {library : Library}
    (nonnull : UInt64.ofNat library.host.freeAddress ≠ nullAddress)
    (unused : library.isRegistered (UInt64.ofNat library.host.freeAddress) = false) :
    Agrees name cells library := by
  have absent : UInt64.ofNat library.host.freeAddress ∉ library.containers := by
    rw [<- library.isRegistered_iff, unused]
    exact Bool.false_ne_true
  cases decided : attachmentNamed name library.host with
  | ok handle =>
      rcases attach_of_ok cells decided with ⟨id, mapping, host, shown, maps, opens, run⟩
      rcases Split.exposes_of_ok decided shown nonnull absent with ⟨succeeds, found, exposes⟩
      have file : mapping.file = id := by rw [maps.mapping_eq]
      rw [file] at found exposes
      have status : (attach (some cells) name library).1.1 = success := by rw [run]
      refine ⟨iff_of_true status succeeds, fun _ => ?_, fun fails => absurd succeeds fails, ?_⟩
      · refine ⟨id, _, found, by rw [run], ?_, exposes⟩
        rw [run]
        exact exposes_of_maps maps opens absent
      · intro text given
        rw [native_attach_iff given]
        exact iff_of_true ⟨handle, decided⟩ status
  | error error =>
      rcases attach_of_error cells decided with ⟨host, restores, run⟩
      rcases Split.failsFor_of_error decided with ⟨fails, failures, lastError⟩
      rw [fail_of_isPlain (attachmentNamed_fails name _ error decided)] at run
      have status : (attach (some cells) name library).1.1 ≠ success := by
        rw [run]
        exact statusOf_ne_success error.kind
      refine ⟨iff_of_false status fails, fun succeeds => absurd succeeds fails, fun _ => ?_, ?_⟩
      · refine ⟨error, failures, by rw [run], ?_, ?_, lastError⟩
        · rw [run]
          exact ⟨rfl, restores.descriptors_eq⟩
        · rw [run, lastError]
      · intro text given
        rw [native_attach_iff given]
        refine iff_of_false ?_ status
        rintro ⟨handle, impossible⟩
        rw [decided] at impossible
        cases impossible

theorem attach_refines_split_published :
    UInt64.ofNat publishedHost.freeAddress ≠ nullAddress ∧
      ({ host := publishedHost } : Library).isRegistered
        (UInt64.ofNat publishedHost.freeAddress) = false ∧
      (attach (some Attachment.cleared) (some (Utf8.ofString "kb"))
        { host := publishedHost }).1.1 = success ∧
      Agrees (some (Utf8.ofString "kb")) Attachment.cleared { host := publishedHost } := by
  have nonnull : UInt64.ofNat publishedHost.freeAddress ≠ nullAddress := by decide +kernel
  have unused : ({ host := publishedHost } : Library).isRegistered
      (UInt64.ofNat publishedHost.freeAddress) = false := rfl
  exact ⟨nonnull, unused, by decide +kernel, attach_refines_split _ _ nonnull unused⟩

end Foreign
end MappedTables
