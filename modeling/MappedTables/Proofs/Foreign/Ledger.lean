import MappedTables.Proofs.Foreign.Exchanges
import MappedTables.Proofs.Image.Loaded
import MappedTables.Segment.Publish

namespace MappedTables
namespace Foreign

/-!
The books of callers in other languages.

From the calls and their answers a caller can tell what is in its hands: what was
handed out and not given back since.  At every point of a run the registry holds
these containers and no others, and the process has these descriptors open
beside those that it started with and those that others have opened.

Between the calls others may do as they like.  They change files, take and leave
memory, and open and close descriptors, those of callers included.  Of the system
it is assumed that a mapping does not get an address at which a container is
still handed out; an address that was given back may be used again.  Nothing is
assumed of what callers give back: a pointer that is not theirs is refused, and a
number that is not theirs counts as given back.
-/

/-! ## What books are kept of -/

/-- A call, or something that others did to the descriptors of the process. -/
inductive Deed where
  | call (exchange : Exchange)
  | opening (number : Nat)
  | closing (number : Nat)

namespace Deed

/-- The containers that are handed out. -/
def containersGiven : Deed -> List UInt64
  | .call exchange => exchange.containersGiven
  | _ => []

/-- The containers that are given back. -/
def containersTaken : Deed -> List UInt64
  | .call exchange => exchange.containersTaken
  | _ => []

/-- The descriptors that are opened, for callers or for others. -/
def descriptorsGiven : Deed -> List Int
  | .call exchange => exchange.descriptorsGiven
  | .opening number => [(number : Int)]
  | .closing _ => []

/-- The descriptors that are closed, whoever had them. -/
def descriptorsTaken : Deed -> List Int
  | .call exchange => exchange.descriptorsTaken
  | .opening _ => []
  | .closing number => [(number : Int)]

/-- What goes wrong in calls. -/
def failures : Deed -> List Error
  | .call exchange => exchange.failures
  | _ => []

end Deed

/-- Something was handed out in the course of a history and not given back after that. -/
def Outstanding {Item : Type} (given taken : Deed -> List Item) (history : List Deed)
    (item : Item) : Prop :=
  exists earlier deed later, history = earlier ++ deed :: later ∧
    item ∈ given deed ∧ forall other, other ∈ later -> item ∉ taken other

section Outstanding

variable {Item : Type} {given taken : Deed -> List Item} {item : Item}

theorem not_outstanding_nil : ¬ Outstanding given taken [] item := by
  rintro ⟨earlier, deed, later, split, _⟩
  cases earlier with
  | nil => cases split
  | cons first rest => cases split

/-- The newest deed decides, unless it does not touch what is in question. -/
theorem outstanding_append_iff {history : List Deed} {newest : Deed} :
    Outstanding given taken (history ++ [newest]) item <->
      item ∈ given newest ∨ (Outstanding given taken history item ∧ item ∉ taken newest) := by
  constructor
  · rintro ⟨earlier, deed, later, split, handed, kept⟩
    rcases List.eq_nil_or_concat' later with rfl | ⟨front, last, rfl⟩
    · rcases List.append_inj' split rfl with ⟨_, same⟩
      cases same
      exact Or.inl handed
    · have whole : history ++ [newest] = (earlier ++ deed :: front) ++ [last] := by
        rw [split]
        simp
      rcases List.append_inj' whole rfl with ⟨rfl, same⟩
      cases same
      refine Or.inr ⟨⟨earlier, deed, front, rfl, handed, fun other member => ?_⟩, ?_⟩
      · exact kept other (List.mem_append_left _ member)
      · exact kept newest (List.mem_append_right _ (List.mem_singleton.mpr rfl))
  · rintro (handed | ⟨⟨earlier, deed, later, rfl, handed, kept⟩, untouched⟩)
    · refine ⟨history, newest, [], rfl, handed, fun other member => ?_⟩
      exact absurd member List.not_mem_nil
    · refine ⟨earlier, deed, later ++ [newest], by simp, handed, ?_⟩
      intro other member
      rcases List.mem_append.mp member with before | last
      · exact kept other before
      · rw [List.mem_singleton.mp last]
        exact untouched

end Outstanding

/-! ## Runs -/

/-- A run from a library on: what happened in its order, and the library after it.  Every call
that makes a mapping finds an address for it. -/
inductive Run (start : Library) : List Deed -> Library -> Prop where
  | start : Run start [] start
  | call {history : List Deed} {library : Library} (run : Run start history library)
      (operation : Operation) (fits : operation.Fits library) :
      Run start (history ++ [.call (operation.exchange library)]) (operation.perform library).2
  /-- Others do anything except to the descriptors. -/
  | elsewhere {history : List Deed} {library : Library} (run : Run start history library)
      (host : Host) (same : host.descriptors = library.host.descriptors) :
      Run start history { library with host }
  /-- Others let a number stand for something. -/
  | opening {history : List Deed} {library : Library} (run : Run start history library)
      (number : Nat) (target : OpenFile) :
      Run start (history ++ [.opening number])
        { library with
          host := { library.host with
            descriptors := (number, target) :: library.host.descriptors } }
  | closing {history : List Deed} {library : Library} (run : Run start history library)
      (number : Nat) :
      Run start (history ++ [.closing number])
        { library with host := library.host.closeDescriptor number }

/-- The cells of a caller who holds nothing. -/
def Attachment.cleared : Attachment where
  container := nullAddress
  descriptor := noDescriptor

/-- The library and the process agree with what the history says. -/
structure Library.Bookkept (start : Host) (history : List Deed) (library : Library) :
    Prop where
  /-- No container is in the registry twice. -/
  distinct : library.containers.Nodup
  /-- The registry holds the containers that are in the hands of callers. -/
  containers : forall address, library.isRegistered address = true <->
    Outstanding Deed.containersGiven Deed.containersTaken history address
  /-- The open descriptors are those that callers were handed or others have opened, and those of
  before, as far as they were not closed since. -/
  descriptors : forall number : Nat, (library.host.opened? number).isSome = true <->
    Outstanding Deed.descriptorsGiven Deed.descriptorsTaken history number ∨
      ((start.opened? number).isSome = true ∧ forall deed, deed ∈ history ->
        (number : Int) ∉ deed.descriptorsTaken)
  /-- The message is that of the last thing that went wrong. -/
  lastError : library.lastError =
    (history.flatMap Deed.failures).getLast?.map Error.message
  /-- Something went wrong in a call exactly if its caller is told so. -/
  fails_iff : forall exchange, Deed.call exchange ∈ history ->
    (exchange.answer.Fails <-> exchange.failures ≠ [])
  /-- The descriptor is closed whatever becomes of the container. -/
  disconnect_closes : forall (container : UInt64) (number : Nat),
    (disconnect container number library).2.host.opened? number = none
  /-- After cells have been cleared there is nothing left to do. -/
  detach_clears : forall cells, exists status after,
    detach (some cells) library = ((status, some Attachment.cleared), after) ∧
      detach (some Attachment.cleared) after = ((success, some Attachment.cleared), after)

theorem opened?_disconnect (container : UInt64) (number : Nat) (library : Library) :
    (disconnect container number library).2.host.opened? number = none := by
  have run : disconnect container number library = closeNumbered number
      (giveBack container library).1 (giveBack container library).2 := rfl
  have absent : (number : Int) ∉ (disconnect container number library).2.numbers := by
    rw [run, (closeNumbered_balances _ _ _).1, List.mem_filter]
    exact fun member => of_decide_eq_true member.2 (List.mem_singleton.mpr rfl)
  rw [Library.mem_numbers_iff, Int.toNat_natCast] at absent
  rw [<- Option.not_isSome_iff_eq_none]
  exact fun opened => absent ⟨Int.natCast_nonneg _, opened⟩

theorem detach_cleared (library : Library) :
    detach (some Attachment.cleared) library = ((success, some Attachment.cleared), library) :=
  rfl

/-! ## One step -/

/-- Before and after it happens the library and the process agree with a deed. -/
structure Deed.Balances (deed : Deed) (before after : Library) : Prop where
  containers : after.containers =
    deed.containersGiven ++ before.containers.filter (· ∉ deed.containersTaken)
  numbers : after.numbers =
    deed.descriptorsGiven ++ before.numbers.filter (· ∉ deed.descriptorsTaken)
  lastError : after.lastError =
    (deed.failures.getLast?.map Error.message).or before.lastError
  fails_iff : forall exchange, deed = .call exchange ->
    (exchange.answer.Fails <-> exchange.failures ≠ [])
  placed : after.Placed

theorem Exchange.Balances.deed {exchange : Exchange} {before after : Library}
    (balances : exchange.Balances before after) :
    (Deed.call exchange).Balances before after where
  containers := balances.containers
  numbers := balances.numbers
  lastError := balances.lastError
  fails_iff other same := by
    cases same
    exact balances.fails_iff
  placed := balances.placed

theorem balances_opening {library : Library} (placed : library.Placed) (number : Nat)
    (target : OpenFile) :
    (Deed.opening number).Balances library { library with
      host := { library.host with descriptors := (number, target) :: library.host.descriptors } }
    where
  containers := by simp [Library.containers, Deed.containersGiven, Deed.containersTaken]
  numbers := by simp [Library.numbers, Deed.descriptorsGiven, Deed.descriptorsTaken]
  lastError := rfl
  fails_iff := nofun
  placed := placed.of_sublist (List.Sublist.refl _)

theorem Library.numbers_closeDescriptor (library : Library) (number : Nat) :
    ({ library with host := library.host.closeDescriptor number } : Library).numbers =
      library.numbers.filter (· ∉ [(number : Int)]) := by
  change (library.host.descriptors.filter (·.1 ≠ number)).map _ = _
  rw [Library.numbers, List.filter_map]
  apply congrArg
  apply List.filter_congr
  intro entry member
  simp only [Function.comp_apply, List.mem_singleton]
  exact decide_eq_decide.mpr (not_congr Int.ofNat_inj.symm)

theorem balances_closing {library : Library} (placed : library.Placed) (number : Nat) :
    (Deed.closing number).Balances library
      { library with host := library.host.closeDescriptor number } where
  containers := by simp [Library.containers, Deed.containersGiven, Deed.containersTaken]
  numbers := library.numbers_closeDescriptor number
  lastError := rfl
  fails_iff := nofun
  placed := placed.of_sublist (List.Sublist.refl _)

/-! ## Whole runs -/

/-- What the run has kept, as far as single steps can tell. -/
structure Run.Kept (start : Host) (history : List Deed) (library : Library) : Prop where
  placed : library.Placed
  containers : forall address, address ∈ library.containers <->
    Outstanding Deed.containersGiven Deed.containersTaken history address
  numbers : forall number, number ∈ library.numbers <->
    Outstanding Deed.descriptorsGiven Deed.descriptorsTaken history number ∨
      (number ∈ ({ host := start } : Library).numbers ∧ forall deed, deed ∈ history ->
        number ∉ deed.descriptorsTaken)
  lastError : library.lastError =
    (history.flatMap Deed.failures).getLast?.map Error.message
  fails_iff : forall exchange, Deed.call exchange ∈ history ->
    (exchange.answer.Fails <-> exchange.failures ≠ [])

theorem Run.Kept.start (host : Host) : Run.Kept host [] { host } := by
  have bare : ({ host } : Library).containers = [] := rfl
  have unseen (number : Int) (deed : Deed) (member : deed ∈ []) :
      number ∉ deed.descriptorsTaken := absurd member List.not_mem_nil
  refine ⟨⟨?_, ?_⟩, fun address => ?_, fun number => ?_, rfl, ?_⟩
  · rw [bare]
    exact List.nodup_nil
  · rw [bare]
    exact fun address member => absurd member List.not_mem_nil
  · rw [bare]
    exact iff_of_false List.not_mem_nil not_outstanding_nil
  · rw [or_iff_right not_outstanding_nil]
    exact (and_iff_left (unseen number)).symm
  · exact fun exchange member => absurd member List.not_mem_nil

/-- A deed that balances keeps the books. -/
theorem Run.Kept.step {start : Host} {history : List Deed} {before after : Library}
    (kept : Run.Kept start history before) {deed : Deed}
    (balances : deed.Balances before after) :
    Run.Kept start (history ++ [deed]) after where
  placed := balances.placed
  containers address := by
    rw [outstanding_append_iff, <- kept.containers, balances.containers, List.mem_append,
      List.mem_filter, decide_eq_true_iff]
  numbers number := by
    rw [outstanding_append_iff, balances.numbers, List.mem_append, List.mem_filter,
      decide_eq_true_iff, kept.numbers, List.forall_mem_append, List.forall_mem_singleton]
    tauto
  lastError := by
    rw [balances.lastError, kept.lastError, List.flatMap_append, List.getLast?_append,
      Option.map_or, List.flatMap_singleton]
  fails_iff exchange member := by
    rcases List.mem_append.mp member with before | newest
    · exact kept.fails_iff exchange before
    · exact balances.fails_iff exchange (List.mem_singleton.mp newest).symm

theorem Run.kept {host : Host} {history : List Deed} {library : Library}
    (run : Run { host } history library) : Run.Kept host history library := by
  induction run with
  | start => exact Run.Kept.start host
  | call run operation fits ih => exact ih.step (operation.balances ih.placed fits).deed
  | elsewhere run other same ih =>
      refine ⟨⟨ih.placed.distinct, ih.placed.nonnull_of_mem⟩, ih.containers, fun number => ?_,
        ih.lastError, ih.fails_iff⟩
      rw [<- ih.numbers, Library.numbers, Library.numbers, same]
  | opening run number target ih => exact ih.step (balances_opening ih.placed number target)
  | closing run number ih => exact ih.step (balances_closing ih.placed number)

/-- The books are kept in every run of a library that was just loaded. -/
theorem Run.bookkept {host : Host} {history : List Deed} {library : Library}
    (run : Run { host } history library) : library.Bookkept host history where
  distinct := run.kept.placed.distinct
  containers address := by
    rw [library.isRegistered_iff]
    exact run.kept.containers address
  descriptors number := by
    have counted := run.kept.numbers number
    rw [Library.mem_numbers_iff, Library.mem_numbers_iff, Int.toNat_natCast] at counted
    simpa only [Int.natCast_nonneg, true_and] using counted
  lastError := run.kept.lastError
  fails_iff := run.kept.fails_iff
  disconnect_closes container number := opened?_disconnect container number library
  detach_clears cells :=
    ⟨_, _, rfl, detach_cleared _⟩

/-- A system in which a container without rows was published under the name `kb`. -/
def publishedHost : Host :=
  ((SegmentConfig.named "kb").publish bareImage { files := FileSystem.initial ["home"] }).2

/-- The same address is handed out twice, others having opened a descriptor in between. -/
theorem Run.bookkept_published :
    exists address history library, Run { host := publishedHost } history library ∧
      library.Bookkept publishedHost history ∧
      history.flatMap Deed.containersGiven = [address, address] ∧
      library.containers = [address] ∧ library.numbers = [3, 4] ∧
      library.lastError = some "Invalid parameter: string - Null pointer" := by
  let address := UInt64.ofNat publishedHost.freeAddress
  let attaching : Operation :=
    .request (.attach (some Attachment.cleared) (some (Utf8.ofString "kb")))
  have first : Run { host := publishedHost } _ _ := Run.start.call attaching
    fun _ => ⟨by decide +kernel, by decide +kernel⟩
  have second := first.opening 4 .directory
  have third := second.call
    (.request (.detach (some { container := address, descriptor := 3 })))
    fun rises => absurd rises (by decide +kernel)
  have fourth := third.elsewhere { publishedHost with descriptors := [(4, .directory)] }
    (by decide +kernel)
  have fifth := fourth.call attaching fun _ => ⟨by decide +kernel, by decide +kernel⟩
  have sixth := fifth.call (.request (.connect none))
    fun rises => absurd rises (by decide +kernel)
  refine ⟨address, _, _, sixth, sixth.bookkept, ?_⟩
  decide +kernel

end Foreign
end MappedTables
