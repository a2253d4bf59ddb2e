import MappedTables.Proofs.Foreign.Failures
import MappedTables.Release

namespace MappedTables
namespace Foreign

/-!
Calls and their answers.

An exchange is a call together with what its caller sees of it.  From that alone
one can tell which containers and which descriptors were handed out or given
back: a pointer other than null and a number that is not negative were handed
out, and what is passed to `disconnect` or `detach` is given back, whatever they
answer.  The balance of a call says that the library and the process have seen
the same exchange as the caller.
-/

/-! ## What callers may ask for -/

/-- A call of the interface. -/
inductive Operation where
  | request (asked : Request)
  | columnAt (container : UInt64) (kind : TableKind) (line : UInt32) (column : UInt16)
  | headFor (container : UInt64) (mark : Int8) (column : UInt16) (line : Option UInt32)
  | version (container : UInt64)
  | rowCount (container : UInt64) (kind : TableKind)
  | lastError
  | libraryVersion

/-- What a call answers. -/
inductive Answer where
  | status (code : Nat)
  | descriptor (number : Int)
  | container (address : UInt64)
  | attachment (code : Nat) (cells : Option Attachment)
  | column (found : Except Abort (Option UInt64))
  | head (found : Except Abort (Option UInt64 × Option UInt32))
  | rows (count : Nat)
  | text (content : Option String)

/-- The call fails, as its caller sees it.  A lookup that finds nothing has not failed. -/
def Answer.Fails : Answer -> Prop
  | .status code => code ≠ success
  | .descriptor number => number < 0
  | .container address => address = nullAddress
  | .attachment code _ => code ≠ success
  | _ => False

/-- Carry a request out. -/
def Request.perform : Request -> Call Answer
  | .check name => do return .status (← Foreign.check name)
  | .connect name => do return .descriptor (← Foreign.connect name)
  | .mapDescriptor number => do return .container (← Foreign.mapDescriptor number)
  | .disconnect container number => do return .status (← Foreign.disconnect container number)
  | .attach cells name => do
      let (code, filled) ← Foreign.attach cells name
      return .attachment code filled
  | .detach cells => do
      let (code, cleared) ← Foreign.detach cells
      return .attachment code cleared
  | .versionOfFile kind path => do return .text (some (← Foreign.versionOfFile kind path))

theorem Request.perform_snd (request : Request) (library : Library) :
    (request.perform library).2 = request.after library := by
  cases request <;> rfl

namespace Operation

/-- Carry a call out. -/
def perform : Operation -> Call Answer
  | .request asked => asked.perform
  | .columnAt container kind line column => do
      return .column (Foreign.columnAt (← get).memory container kind line column)
  | .headFor container mark column line => do
      return .head (Foreign.headFor (← get).memory container mark column line)
  | .version container => do return .text (version? (← get).memory container)
  | .rowCount container kind => do return .rows (Foreign.rowCount (← get).memory container kind)
  | .lastError => do return .text (← get).lastError
  | .libraryVersion => do return .text (some currentRelease.text)

/-- What goes wrong in a call, in the order in which it does. -/
def failures (library : Library) : Operation -> List Error
  | .request asked => asked.failures library
  | _ => []

end Operation

/-! ## What changes hands -/

/-- A call, what its caller sees of it, and what went wrong behind the answer. -/
structure Exchange where
  operation : Operation
  answer : Answer
  failures : List Error

/-- The exchange that a call leads to. -/
def Operation.exchange (operation : Operation) (library : Library) : Exchange where
  operation := operation
  answer := (operation.perform library).1
  failures := operation.failures library

namespace Exchange

/-- The containers that a caller is handed. -/
def containersGiven (exchange : Exchange) : List UInt64 :=
  match exchange.operation, exchange.answer with
  | .request (.mapDescriptor _), .container address =>
      if address = nullAddress then [] else [address]
  | .request (.attach _ _), .attachment code (some cells) =>
      if code = success then [cells.container] else []
  | _, _ => []

/-- The containers that a caller gives back. -/
def containersTaken (exchange : Exchange) : List UInt64 :=
  match exchange.operation with
  | .request (.disconnect container _) => [container]
  | .request (.detach (some cells)) => [cells.container]
  | _ => []

/-- The descriptors that a caller is handed. -/
def descriptorsGiven (exchange : Exchange) : List Int :=
  match exchange.operation, exchange.answer with
  | .request (.connect _), .descriptor number => if number < 0 then [] else [number]
  | .request (.attach _ _), .attachment code (some cells) =>
      if code = success then [cells.descriptor] else []
  | _, _ => []

/-- The descriptors that a caller has closed. -/
def descriptorsTaken (exchange : Exchange) : List Int :=
  match exchange.operation with
  | .request (.disconnect _ number) => [number]
  | .request (.detach (some cells)) => [cells.descriptor]
  | _ => []

end Exchange

/-! ## The library beside the exchange -/

/-- The containers that are handed out. -/
def Library.containers (library : Library) : List UInt64 :=
  library.registry.map Prod.fst

/-- The numbers of the open descriptors, as callers have them. -/
def Library.numbers (library : Library) : List Int :=
  library.host.descriptors.map fun entry => (entry.1 : Int)

theorem Library.isRegistered_iff (library : Library) (address : UInt64) :
    library.isRegistered address = true <-> address ∈ library.containers := by
  exact isSome_lookup_iff

/-- Every container lies at an address of its own, which is not null. -/
structure Library.Placed (library : Library) : Prop where
  distinct : library.containers.Nodup
  nonnull_of_mem : forall address, address ∈ library.containers -> address ≠ nullAddress

/-- The address of the next mapping is not null and no container's.  It may have been a
container's before. -/
structure Library.Vacant (library : Library) : Prop where
  nonnull : UInt64.ofNat library.host.freeAddress ≠ nullAddress
  unused : UInt64.ofNat library.host.freeAddress ∉ library.containers

/-- If a call makes a mapping, there is an address for it. -/
def Operation.Fits (operation : Operation) (library : Library) : Prop :=
  library.host.freeAddress < (operation.perform library).2.host.freeAddress -> library.Vacant

/-- Before and after a call the library, the process and the caller agree on what has changed
hands, and the wording that is kept is that of the last failure. -/
structure Exchange.Balances (exchange : Exchange) (before after : Library) : Prop where
  containers : after.containers =
    exchange.containersGiven ++ before.containers.filter (· ∉ exchange.containersTaken)
  numbers : after.numbers =
    exchange.descriptorsGiven ++ before.numbers.filter (· ∉ exchange.descriptorsTaken)
  lastError : after.lastError =
    (exchange.failures.getLast?.map Error.message).or before.lastError
  fails_iff : exchange.answer.Fails <-> exchange.failures ≠ []
  placed : after.Placed

theorem Operation.Fits.vacant {operation : Operation} {library : Library}
    (fits : operation.Fits library) {host : Host} {id : FileId} {mapping : Mapping}
    (maps : library.host.Maps id mapping host)
    (left : (operation.perform library).2.host = host) : library.Vacant := by
  apply fits
  rw [left]
  exact maps.freeAddress_lt

/-- Containers may be taken out. -/
theorem Library.Placed.of_sublist {before after : Library} (placed : before.Placed)
    (fewer : after.containers.Sublist before.containers) : after.Placed where
  distinct := placed.distinct.sublist fewer
  nonnull_of_mem address member := placed.nonnull_of_mem address (fewer.subset member)

/-- A mapping that was made at a vacant address may be handed out. -/
theorem Library.Placed.register {library : Library} (placed : library.Placed)
    (vacant : library.Vacant) {host : Host} {id : FileId} {mapping : Mapping}
    (maps : library.host.Maps id mapping host) :
    (({ library with host } : Library).register mapping).Placed := by
  have base : mapping.base = UInt64.ofNat library.host.freeAddress := by rw [maps.mapping_eq]
  have containers : (({ library with host } : Library).register mapping).containers =
      UInt64.ofNat library.host.freeAddress :: library.containers := by
    rw [<- base]
    rfl
  constructor
  · rw [containers]
    exact List.nodup_cons.mpr ⟨vacant.unused, placed.distinct⟩
  · rw [containers]
    exact List.forall_mem_cons.mpr ⟨vacant.nonnull, placed.nonnull_of_mem⟩

/-- A call that succeeds may hand things out and leaves everything else where it was. -/
theorem Exchange.balances_of_given {exchange : Exchange} {before after : Library}
    {containers : List UInt64} {numbers : List Int}
    (containersGiven : exchange.containersGiven = containers)
    (containersTaken : exchange.containersTaken = [])
    (descriptorsGiven : exchange.descriptorsGiven = numbers)
    (descriptorsTaken : exchange.descriptorsTaken = [])
    (registered : after.containers = containers ++ before.containers)
    (opened : after.numbers = numbers ++ before.numbers)
    (kept : after.lastError = before.lastError)
    (fine : exchange.failures = []) (succeeds : ¬ exchange.answer.Fails)
    (placed : after.Placed) : exchange.Balances before after where
  containers := by
    rw [registered, containersGiven, containersTaken]
    simp
  numbers := by
    rw [opened, descriptorsGiven, descriptorsTaken]
    simp
  lastError := by
    rw [fine]
    exact kept
  fails_iff := by
    rw [fine]
    exact iff_of_false succeeds fun other => other rfl
  placed := placed

/-! ## Calls by which nothing changes hands -/

/-- Nothing is handed out and nothing is given back. -/
structure Exchange.Idle (exchange : Exchange) : Prop where
  containersGiven : exchange.containersGiven = []
  containersTaken : exchange.containersTaken = []
  descriptorsGiven : exchange.descriptorsGiven = []
  descriptorsTaken : exchange.descriptorsTaken = []

namespace Exchange.Idle

variable {exchange : Exchange} {before after : Library}

theorem balances (idle : exchange.Idle) (placed : before.Placed)
    (registry : after.registry = before.registry) (restores : before.host.Restores after.host)
    (lastError : after.lastError =
      (exchange.failures.getLast?.map Error.message).or before.lastError)
    (fails_iff : exchange.answer.Fails <-> exchange.failures ≠ []) :
    exchange.Balances before after where
  containers := by
    rw [idle.containersGiven, idle.containersTaken, Library.containers, registry]
    simp [Library.containers]
  numbers := by
    rw [idle.descriptorsGiven, idle.descriptorsTaken, Library.numbers, restores.descriptors_eq]
    simp [Library.numbers]
  lastError := lastError
  fails_iff := fails_iff
  placed := by
    apply placed.of_sublist
    rw [Library.containers, registry]
    exact List.Sublist.refl _

/-- A call that succeeds leaves the wording of the last failure as it is. -/
theorem balances_of_success (idle : exchange.Idle) (placed : before.Placed)
    (registry : after.registry = before.registry) (restores : before.host.Restores after.host)
    (kept : after.lastError = before.lastError)
    (fine : exchange.failures = []) (succeeds : ¬ exchange.answer.Fails) :
    exchange.Balances before after := by
  refine idle.balances placed registry restores ?_ ?_
  · rw [fine]
    exact kept
  · rw [fine]
    exact ⟨fun fails => absurd fails succeeds, fun other => absurd rfl other⟩

/-- Of a call that fails the wording is kept. -/
theorem balances_of_failure (idle : exchange.Idle) (placed : before.Placed) {host : Host}
    (restores : before.host.Restores host) {error : Error} (plain : error.IsPlain)
    (failed : exchange.failures = [error]) (fails : exchange.answer.Fails) :
    exchange.Balances before (fail error { before with host }).2 := by
  rw [fail_of_isPlain plain]
  refine idle.balances placed rfl restores ?_ ?_
  · rw [failed]
    rfl
  · rw [failed]
    exact ⟨fun _ => List.cons_ne_nil _ _, fun _ => fails⟩

end Exchange.Idle

/-! ## Single calls -/

variable {library : Library}

theorem balances_check (placed : library.Placed) (name : TextArgument) :
    ((Operation.request (.check name)).exchange library).Balances library
      (check name library).2 := by
  let exchange := (Operation.request (.check name)).exchange library
  have idle : exchange.Idle := ⟨rfl, rfl, rfl, rfl⟩
  have answer : exchange.answer = .status (check name library).1 := rfl
  have failures : exchange.failures = failureOf (availability name library.host.files) := rfl
  have restores := Host.Restores.refl library.host
  rw [check_apply] at answer ⊢
  cases outcome : availability name library.host.files with
  | ok =>
      rw [outcome] at answer failures
      refine idle.balances_of_success placed rfl restores rfl failures ?_
      rw [answer]
      exact fun fails => fails rfl
  | error error =>
      rw [outcome] at answer failures
      refine idle.balances_of_failure placed restores (availability_fails name _ error outcome)
        failures ?_
      rw [answer]
      exact statusOf_ne_success error.kind

theorem balances_connect (placed : library.Placed) (name : TextArgument) :
    ((Operation.request (.connect name)).exchange library).Balances library
      (connect name library).2 := by
  let exchange := (Operation.request (.connect name)).exchange library
  have answer : exchange.answer = .descriptor (connect name library).1 := rfl
  have failures : exchange.failures = failureOf (objectNamed name library.host.files) := rfl
  have given : exchange.descriptorsGiven =
      if (connect name library).1 < 0 then [] else [(connect name library).1] := rfl
  cases outcome : objectNamed name library.host.files with
  | error error =>
      rcases connect_of_error outcome with ⟨host, restores, run⟩
      rw [outcome] at failures
      rw [run] at answer given ⊢
      have idle : exchange.Idle := ⟨rfl, rfl, given, rfl⟩
      refine idle.balances_of_failure placed restores (objectNamed_fails name _ error outcome)
        failures ?_
      rw [answer]
      exact (by decide : noDescriptor < 0)
  | ok target =>
      rw [outcome] at failures
      rw [connect_of_ok outcome] at answer given ⊢
      have counted : ¬ (library.host.freeDescriptor : Int) < 0 := by omega
      rw [if_neg counted] at given
      refine Exchange.balances_of_given rfl rfl given rfl rfl rfl rfl failures ?_ ?_
      · change ¬ exchange.answer.Fails
        rw [answer]
        exact counted
      · exact placed.of_sublist (List.Sublist.refl _)

theorem balances_mapDescriptor (placed : library.Placed) (number : Int)
    (fits : (Operation.request (.mapDescriptor number)).Fits library) :
    ((Operation.request (.mapDescriptor number)).exchange library).Balances library
      (mapDescriptor number library).2 := by
  let exchange := (Operation.request (.mapDescriptor number)).exchange library
  have answer : exchange.answer = .container (mapDescriptor number library).1 := rfl
  have failures : exchange.failures = failureOf (mappingBehind number library.host) := rfl
  have given : exchange.containersGiven =
      if (mapDescriptor number library).1 = nullAddress then []
      else [(mapDescriptor number library).1] := rfl
  cases outcome : mappingBehind number library.host with
  | error error =>
      rcases mapDescriptor_of_error outcome with ⟨host, restores, run⟩
      rw [outcome] at failures
      rw [run] at answer given ⊢
      have idle : exchange.Idle := ⟨given, rfl, rfl, rfl⟩
      refine idle.balances_of_failure placed restores (mappingBehind_fails number _ error outcome)
        failures ?_
      rw [answer]
      rfl
  | ok mapping =>
      rcases mapDescriptor_of_ok outcome with ⟨id, host, maps, restores, run⟩
      have vacant := fits.vacant maps (congrArg (fun made => made.2.host) run)
      rw [outcome] at failures
      rw [run] at answer given ⊢
      have nonnull : mapping.base ≠ nullAddress := by
        rw [maps.mapping_eq]
        exact vacant.nonnull
      rw [if_neg nonnull] at given
      refine Exchange.balances_of_given given rfl rfl rfl rfl ?_ rfl failures ?_
        (placed.register vacant maps)
      · exact congrArg (List.map _) restores.descriptors_eq
      · change ¬ exchange.answer.Fails
        rw [answer]
        exact nonnull

theorem balances_attach (placed : library.Placed) (cells : Option Attachment)
    (name : TextArgument) (fits : (Operation.request (.attach cells name)).Fits library) :
    ((Operation.request (.attach cells name)).exchange library).Balances library
      (attach cells name library).2 := by
  let exchange := (Operation.request (.attach cells name)).exchange library
  have answer : exchange.answer =
      .attachment (attach cells name library).1.1 (attach cells name library).1.2 := rfl
  cases cells with
  | none =>
      have idle : exchange.Idle := ⟨rfl, rfl, rfl, rfl⟩
      exact idle.balances_of_failure placed (Host.Restores.refl _) (Error.isPlain_of_nil rfl) rfl
        (statusOf_ne_success _)
  | some before =>
      have failures : exchange.failures = failureOf (attachmentNamed name library.host) := rfl
      cases outcome : attachmentNamed name library.host with
      | error error =>
          rcases attach_of_error before outcome with ⟨host, restores, run⟩
          rw [outcome] at failures
          rw [run] at answer ⊢
          have refused : ¬ statusOf error.kind = success := statusOf_ne_success error.kind
          have idle : exchange.Idle := by
            refine ⟨?_, rfl, ?_, rfl⟩
            · rw [Exchange.containersGiven, answer]
              exact if_neg refused
            · rw [Exchange.descriptorsGiven, answer]
              exact if_neg refused
          refine idle.balances_of_failure placed restores
            (attachmentNamed_fails name _ error outcome) failures ?_
          rw [answer]
          exact refused
      | ok handle =>
          rcases attach_of_ok before outcome with ⟨id, mapping, host, _, maps, opens, run⟩
          have vacant := fits.vacant maps (congrArg (fun made => made.2.host) run)
          rw [outcome] at failures
          rw [run] at answer ⊢
          have containersGiven : exchange.containersGiven = [mapping.base] := by
            rw [Exchange.containersGiven, answer]
            exact if_pos rfl
          have descriptorsGiven :
              exchange.descriptorsGiven = [(library.host.freeDescriptor : Int)] := by
            rw [Exchange.descriptorsGiven, answer]
            exact if_pos rfl
          refine Exchange.balances_of_given containersGiven rfl descriptorsGiven rfl rfl ?_ rfl
            failures ?_ (placed.register vacant maps)
          · exact congrArg (List.map _) opens
          · change ¬ exchange.answer.Fails
            rw [answer]
            exact fun fails => fails rfl

theorem balances_versionOfFile (placed : library.Placed) (kind : VersionedFile)
    (path : TextArgument) :
    ((Operation.request (.versionOfFile kind path)).exchange library).Balances library
      (versionOfFile kind path library).2 := by
  let exchange := (Operation.request (.versionOfFile kind path)).exchange library
  have idle : exchange.Idle := ⟨rfl, rfl, rfl, rfl⟩
  have kept : exists host, library.host.Restores host ∧
      (versionOfFile kind path library).2 = { library with host } := by
    rw [versionOfFile]
    cases textOf path with
    | error error => exact ⟨_, Host.Restores.refl _, rfl⟩
    | ok path =>
        refine ⟨(kind.versionShown path library.host).2, ?_, rfl⟩
        unfold VersionedFile.versionShown
        cases kind.versionAt library.host.files path with
        | ok tag => exact Host.Restores.refl _
        | error error => exact (Host.Restores.refl _).record _
  rcases kept with ⟨host, restores, run⟩
  rw [run]
  exact idle.balances_of_success placed rfl restores rfl rfl id

/-! ## Giving back -/

theorem filter_of_notMem {Item : Type} [DecidableEq Item] {items : List Item} {item : Item}
    (absent : item ∉ items) : items.filter (· ∉ [item]) = items := by
  rw [List.filter_eq_self]
  intro other member
  apply decide_eq_true
  rw [List.mem_singleton]
  rintro rfl
  exact absent member

/-- Taking a container back leaves all others where they were. -/
theorem giveBack_balances (placed : library.Placed) (container : UInt64) :
    (giveBack container library).2.host = library.host ∧
      (giveBack container library).2.containers =
        library.containers.filter (· ∉ [container]) ∧
      (giveBack container library).2.lastError =
        ((library.containerRefusals container).getLast?.map Error.message).or
          library.lastError ∧
      ((giveBack container library).1 ≠ success <->
        library.containerRefusals container ≠ []) := by
  rw [giveBack_apply, Library.containerRefusals]
  by_cases null : container = nullAddress
  · rw [if_pos null, if_pos (Or.inl null)]
    refine ⟨rfl, ?_, rfl, by simp⟩
    exact (filter_of_notMem fun member => placed.nonnull_of_mem _ member null).symm
  · rw [if_neg null]
    by_cases registered : library.isRegistered container = true
    · rw [if_pos registered, if_pos (Or.inr registered)]
      refine ⟨rfl, ?_, rfl, by simp⟩
      change (library.registry.filter (·.1 ≠ container)).map Prod.fst = _
      rw [Library.containers, List.filter_map]
      simp [Function.comp_def]
    · have foreign : ¬ (container = nullAddress ∨ library.isRegistered container = true) :=
        not_or.mpr ⟨null, registered⟩
      rw [if_neg registered, if_neg foreign, fail_of_isPlain (Error.isPlain_of_nil rfl)]
      refine ⟨rfl, (filter_of_notMem fun member => ?_).symm, rfl, ?_⟩
      · exact registered ((library.isRegistered_iff container).mpr member)
      · exact ⟨fun _ => List.cons_ne_nil _ _, fun _ => statusOf_ne_success .invalidParameter⟩

theorem Library.mem_numbers_iff {library : Library} {number : Int} :
    number ∈ library.numbers <->
      0 <= number ∧ (library.host.opened? number.toNat).isSome = true := by
  rw [numbers, Host.opened?, isSome_lookup_iff, List.mem_map, List.mem_map]
  constructor
  · rintro ⟨entry, present, rfl⟩
    exact ⟨Int.natCast_nonneg _, entry, present, (Int.toNat_natCast _).symm⟩
  · rintro ⟨counted, entry, present, same⟩
    refine ⟨entry, present, ?_⟩
    rw [same]
    exact Int.toNat_of_nonneg counted

/-- Closing a descriptor leaves all others open. -/
theorem closeNumbered_balances (number : Int) (status : Nat) (library : Library) :
    (closeNumbered number status library).2.numbers =
        library.numbers.filter (· ∉ [number]) ∧
      (closeNumbered number status library).2.lastError =
        ((library.descriptorRefusals number).getLast?.map Error.message).or
          library.lastError ∧
      ((closeNumbered number status library).1 ≠ success <->
        status ≠ success ∨ library.descriptorRefusals number ≠ []) := by
  rw [closeNumbered_apply, Library.descriptorRefusals]
  by_cases negative : number < 0
  · rw [if_pos negative, if_pos (Or.inl negative)]
    refine ⟨(filter_of_notMem fun member => ?_).symm, rfl, by simp⟩
    exact absurd (Library.mem_numbers_iff.mp member).1 (Int.not_le.mpr negative)
  · rw [if_neg negative]
    by_cases opened : (library.host.opened? number.toNat).isSome = true
    · rw [if_pos opened, if_pos (Or.inr opened)]
      refine ⟨?_, rfl, by simp⟩
      change (library.host.descriptors.filter (·.1 ≠ number.toNat)).map _ = _
      rw [Library.numbers, List.filter_map]
      apply congrArg
      apply List.filter_congr
      intro entry member
      simp only [Function.comp_apply, List.mem_singleton]
      exact decide_eq_decide.mpr (not_congr ⟨fun same => by omega, fun same => by omega⟩)
    · have unopened : ¬ (number < 0 ∨ (library.host.opened? number.toNat).isSome = true) :=
        not_or.mpr ⟨negative, opened⟩
      rw [if_neg opened, if_neg unopened, fail_of_isPlain (Error.isPlain_of_nil rfl)]
      refine ⟨(filter_of_notMem fun member => ?_).symm, rfl, ?_⟩
      · exact opened (Library.mem_numbers_iff.mp member).2
      · exact ⟨fun _ => Or.inr (List.cons_ne_nil _ _), fun _ => statusOf_ne_success .io⟩

/-- Both parts of a disconnection are carried out, whatever comes of them. -/
theorem disconnect_balances (placed : library.Placed) (container : UInt64) (number : Int)
    {exchange : Exchange} (containersGiven : exchange.containersGiven = [])
    (containersTaken : exchange.containersTaken = [container])
    (descriptorsGiven : exchange.descriptorsGiven = [])
    (descriptorsTaken : exchange.descriptorsTaken = [number])
    (failures : exchange.failures = library.refusals container number)
    (fails : exchange.answer.Fails <-> (disconnect container number library).1 ≠ success) :
    exchange.Balances library (disconnect container number library).2 := by
  rcases giveBack_balances placed container with ⟨host, containers, lastError, refused⟩
  let between := (giveBack container library).2
  let status := (giveBack container library).1
  have refusals : between.descriptorRefusals number = library.descriptorRefusals number := by
    unfold Library.descriptorRefusals
    rw [host]
  rcases closeNumbered_balances number status between with ⟨numbers, lastError', refused'⟩
  rcases closeNumbered_keeps number status between with ⟨_, _, registry⟩
  have run : disconnect container number library = closeNumbered number status between := rfl
  have same : (closeNumbered number status between).2.containers =
      library.containers.filter (· ∉ [container]) := by
    rw [Library.containers, registry]
    exact containers
  rw [run] at fails ⊢
  rw [refusals] at lastError' refused'
  refine ⟨?_, ?_, ?_, ?_, placed.of_sublist ?_⟩
  · rw [containersGiven, containersTaken]
    exact same
  · have kept : between.numbers = library.numbers := by
      unfold Library.numbers
      rw [host]
    rw [descriptorsGiven, descriptorsTaken, numbers, kept]
    rfl
  · rw [failures, Library.refusals, List.getLast?_append, Option.map_or, Option.or_assoc,
      <- lastError]
    exact lastError'
  · rw [fails, failures, refused', refused, Library.refusals, ne_eq, ne_eq, ne_eq,
      List.append_eq_nil_iff, not_and_or]
  · rw [same]
    exact List.filter_sublist

/-! ## All calls -/

theorem Request.balances (placed : library.Placed) (request : Request)
    (fits : (Operation.request request).Fits library) :
    ((Operation.request request).exchange library).Balances library (request.after library) := by
  cases request with
  | check name => exact balances_check placed name
  | connect name => exact balances_connect placed name
  | mapDescriptor number => exact balances_mapDescriptor placed number fits
  | attach cells name => exact balances_attach placed cells name fits
  | versionOfFile kind path => exact balances_versionOfFile placed kind path
  | disconnect container number =>
      exact disconnect_balances placed container number rfl rfl rfl rfl rfl Iff.rfl
  | detach cells =>
      cases cells with
      | none =>
          have idle : ((Operation.request (.detach none)).exchange library).Idle :=
            ⟨rfl, rfl, rfl, rfl⟩
          exact idle.balances_of_failure placed (Host.Restores.refl _)
            (Error.isPlain_of_nil rfl) rfl (statusOf_ne_success _)
      | some cells =>
          exact disconnect_balances placed cells.container cells.descriptor rfl rfl rfl rfl rfl
            Iff.rfl

/-- Every call balances that has an address for its mapping. -/
theorem Operation.balances (placed : library.Placed) (operation : Operation)
    (fits : operation.Fits library) :
    (operation.exchange library).Balances library (operation.perform library).2 := by
  have looks {exchange : Exchange} (idle : exchange.Idle) (fine : exchange.failures = [])
      (succeeds : ¬ exchange.answer.Fails) : exchange.Balances library library :=
    idle.balances_of_success placed rfl (Host.Restores.refl _) rfl fine succeeds
  cases operation with
  | request asked =>
      have after : ((Operation.request asked).perform library).2 = asked.after library :=
        asked.perform_snd library
      rw [after]
      exact asked.balances placed fits
  | _ => exact looks ⟨rfl, rfl, rfl, rfl⟩ rfl id

end Foreign
end MappedTables
