import MappedTables.Proofs.Outcome
import MappedTables.Storage.Host

namespace MappedTables
namespace Session

/-!
Sessions step by step.

A session that succeeds is taken apart into its steps, each of which succeeded
on the host that the step before it left.  What records or undoes something
after a failure is transparent for a session that succeeds.
-/

variable {Value Result : Type}

/-- A session succeeds if its first part does and the rest succeeds from the host that this leaves.
-/
theorem bind_eq_ok_iff {session : Session Value} {next : Value -> Session Result}
    {host after : Host} {result : Result} :
    (session >>= next) host = (.ok result, after) <->
      exists value between, session host = (.ok value, between) ∧
        next value between = (.ok result, after) := by
  rw [Outcome.bind_apply]
  rcases session host with ⟨outcome, between⟩
  cases outcome with
  | error error =>
      constructor
      · intro same
        cases same
      · rintro ⟨_, _, same, _⟩
        cases same
  | ok value =>
      constructor
      · intro rest
        exact ⟨value, between, rfl, rest⟩
      · rintro ⟨_, _, same, rest⟩
        cases same
        exact rest

theorem pure_eq_ok_iff {value result : Value} {host after : Host} :
    (pure value : Session Value) host = (.ok result, after) <->
      value = result ∧ host = after := by
  constructor
  · intro same
    cases same
    exact ⟨rfl, rfl⟩
  · rintro ⟨rfl, rfl⟩
    rfl

theorem ofExcept_eq_ok_iff {outcome : Except Error Value} {result : Value}
    {host after : Host} :
    ofExcept outcome host = (.ok result, after) <-> outcome = .ok result ∧ host = after := by
  constructor
  · intro same
    cases same
    exact ⟨rfl, rfl⟩
  · rintro ⟨rfl, rfl⟩
    rfl

/-- Outcomes may be taken over one after the other. -/
theorem ofExcept_bind (outcome : Except Error Value) (next : Value -> Except Error Result)
    {Last : Type} (rest : Result -> Session Last) :
    Session.ofExcept (outcome >>= next) >>= rest =
      Session.ofExcept outcome >>= fun value => Session.ofExcept (next value) >>= rest := by
  cases outcome with
  | error error => rfl
  | ok value => rfl

theorem get_eq_ok_iff {host after result : Host} :
    (get : Session Host) host = (.ok result, after) <-> host = result ∧ host = after := by
  constructor
  · intro same
    cases same
    exact ⟨rfl, rfl⟩
  · rintro ⟨rfl, rfl⟩
    rfl

theorem modify_eq_ok_iff {change : Host -> Host} {host after : Host} {result : PUnit} :
    (modify change : Session PUnit) host = (.ok result, after) <-> change host = after := by
  constructor
  · intro same
    cases same
    rfl
  · rintro rfl
    rfl

theorem modifyGet_eq_ok_iff {change : Host -> Value × Host} {host after : Host}
    {result : Value} :
    (modifyGet change : Session Value) host = (.ok result, after) <->
      change host = (result, after) := by
  constructor
  · intro same
    cases same
    rfl
  · intro same
    change (Except.ok (change host).1, (change host).2) = _
    rw [same]

theorem record_eq_ok_iff {event : Event} {host after : Host} {result : Unit} :
    record event host = (.ok result, after) <-> host.record event = after :=
  modify_eq_ok_iff

/-- A success is passed on as it is. -/
theorem reporting_eq_ok_iff {operation : SegmentOperation} {segment : String}
    {session : Session Value} {host after : Host} {result : Value} :
    reporting operation segment session host = (.ok result, after) <->
      session host = (.ok result, after) := by
  have observed : session.outcome host = (.ok (session host).1, (session host).2) := rfl
  rw [reporting, Outcome.bind_apply, observed]
  rcases session host with ⟨outcome, between⟩
  cases outcome with
  | ok value => rfl
  | error error =>
      constructor
      · intro same
        rcases bind_eq_ok_iff.mp same with ⟨_, _, _, impossible⟩
        cases impossible
      · intro same
        cases same

/-- Recording a failure does not change the outcome. -/
theorem reporting_fst (operation : SegmentOperation) (segment : String)
    (session : Session Value) (host : Host) :
    (reporting operation segment session host).1 = (session host).1 := by
  have observed : session.outcome host = (.ok (session host).1, (session host).2) := rfl
  rw [reporting, Outcome.bind_apply, observed]
  rcases session host with ⟨outcome, between⟩
  cases outcome with
  | ok value => rfl
  | error error => rfl

/-- Nothing is undone after a success. -/
theorem undoingOnFailure_eq_ok_iff {session : Session Value} {undo : Host -> Host}
    {host after : Host} {result : Value} :
    undoingOnFailure session undo host = (.ok result, after) <->
      session host = (.ok result, after) := by
  unfold undoingOnFailure
  rcases session host with ⟨outcome, between⟩
  cases outcome with
  | error error =>
      constructor
      · intro same
        cases same
      · intro same
        cases same
  | ok value => rfl

/-! ## Failures

A session that fails has failed in one of its steps, on the host that the steps
before it left.
-/

/-- A session fails where its first part fails, or where the rest fails on the host that the first
part leaves. -/
theorem bind_eq_error_iff {session : Session Value} {next : Value -> Session Result}
    {host after : Host} {error : Error} :
    (session >>= next) host = (.error error, after) <->
      session host = (.error error, after) ∨
        exists value between, session host = (.ok value, between) ∧
          next value between = (.error error, after) := by
  rw [Outcome.bind_apply]
  rcases session host with ⟨outcome, between⟩
  cases outcome with
  | error other =>
      constructor
      · intro same
        cases same
        exact Or.inl rfl
      · rintro (same | ⟨_, _, same, _⟩)
        · cases same
          rfl
        · cases same
  | ok value =>
      constructor
      · intro rest
        exact Or.inr ⟨value, between, rfl, rest⟩
      · rintro (same | ⟨_, _, same, rest⟩)
        · cases same
        · cases same
          exact rest

theorem ofExcept_eq_error_iff {outcome : Except Error Value} {error : Error}
    {host after : Host} :
    ofExcept outcome host = (.error error, after) <-> outcome = .error error ∧ host = after := by
  constructor
  · intro same
    cases same
    exact ⟨rfl, rfl⟩
  · rintro ⟨rfl, rfl⟩
    rfl

theorem modify_ne_error {change : Host -> Host} {host after : Host} {error : Error} :
    (modify change : Session PUnit) host ≠ (.error error, after) := by
  intro same
  cases same

/-- A failure is passed on after it has been recorded. -/
theorem reporting_eq_error_iff {operation : SegmentOperation} {segment : String}
    {session : Session Value} {host after : Host} {error : Error} :
    reporting operation segment session host = (.error error, after) <->
      exists between, session host = (.error error, between) ∧
        between.record (.failed operation segment error) = after := by
  have observed : session.outcome host = (.ok (session host).1, (session host).2) := rfl
  rw [reporting, Outcome.bind_apply, observed]
  rcases session host with ⟨outcome, between⟩
  cases outcome with
  | ok value =>
      constructor
      · intro same
        cases same
      · rintro ⟨_, same, _⟩
        cases same
  | error other =>
      constructor
      · intro same
        cases same
        exact ⟨between, rfl, rfl⟩
      · rintro ⟨_, same, rfl⟩
        cases same
        rfl

/-- A failure is passed on after the undoing. -/
theorem undoingOnFailure_eq_error_iff {session : Session Value} {undo : Host -> Host}
    {host after : Host} {error : Error} :
    undoingOnFailure session undo host = (.error error, after) <->
      exists between, session host = (.error error, between) ∧ undo between = after := by
  unfold undoingOnFailure
  rcases session host with ⟨outcome, between⟩
  cases outcome with
  | ok value =>
      constructor
      · intro same
        cases same
      · rintro ⟨_, same, _⟩
        cases same
  | error other =>
      constructor
      · intro same
        cases same
        exact ⟨between, rfl, rfl⟩
      · rintro ⟨_, same, rfl⟩
        cases same
        rfl

/-! ## Operations on files -/

/-- An operation succeeds if the system does not refuse it and the files admit it. -/
theorem unlessRefused_eq_ok_iff {host : Host} {operation : FileOperation}
    {outcome : Except IoFault Value} {value : Value} :
    host.unlessRefused operation outcome = .ok value <->
      host.refusal? operation = none ∧ outcome = .ok value := by
  unfold Host.unlessRefused
  cases host.refusal? operation with
  | none => simp
  | some reason => simp

/-- An operation replaces the files and nothing else, or fails and changes nothing. -/
theorem performing_apply (operation : FileOperation)
    (change : Host -> Except IoFault FileSystem) (host : Host) :
    performing operation change host =
      match host.unlessRefused operation (change host) with
      | .error fault => (.error (.io operation fault), host)
      | .ok files => (.ok (), { host with files }) := by
  unfold performing
  have read : (get : Session Host) host = (.ok host, host) := rfl
  rw [Outcome.bind_apply, read]
  cases outcome : host.unlessRefused operation (change host) with
  | error fault =>
      simp only [outcome]
      rfl
  | ok files =>
      simp only [outcome]
      rfl

/-- An operation that succeeds leaves new files in an otherwise unchanged host. -/
theorem performing_eq_ok_iff {operation : FileOperation}
    {change : Host -> Except IoFault FileSystem} {host after : Host} {result : Unit} :
    performing operation change host = (.ok result, after) <->
      exists files, host.unlessRefused operation (change host) = .ok files ∧
        { host with files } = after := by
  rw [performing_apply]
  cases host.unlessRefused operation (change host) with
  | error fault =>
      constructor
      · intro same
        cases same
      · rintro ⟨_, same, _⟩
        cases same
  | ok files =>
      constructor
      · intro same
        cases same
        exact ⟨files, rfl, rfl⟩
      · rintro ⟨_, same, rfl⟩
        cases same
        rfl

/-- An operation that fails leaves the host as it was. -/
theorem eq_of_performing_eq_error {operation : FileOperation}
    {change : Host -> Except IoFault FileSystem} {host after : Host} {error : Error}
    (failed : performing operation change host = (.error error, after)) : host = after := by
  rw [performing_apply] at failed
  cases outcome : host.unlessRefused operation (change host) with
  | error fault =>
      rw [outcome] at failed
      exact congrArg Prod.snd failed
  | ok files =>
      rw [outcome] at failed
      cases failed

/-! ## Sessions that preserve a property -/

/-- Whatever its outcome, the session leaves a host of which the property holds. -/
def Preserves (Holds : Host -> Prop) (session : Session Value) : Prop :=
  forall host, Holds host -> Holds (session host).2

namespace Preserves

variable {Holds : Host -> Prop}

/-- What comes second may rely on the first part having succeeded. -/
theorem bind_of_eq_ok {session : Session Value} {next : Value -> Session Result}
    (first : session.Preserves Holds)
    (second : forall host value after, Holds host -> session host = (.ok value, after) ->
      Holds (next value after).2) : (session >>= next).Preserves Holds := by
  intro host before
  have between := first host before
  rw [Outcome.bind_apply]
  cases ran : session host with
  | mk outcome middle =>
      rw [ran] at between
      cases outcome with
      | error error => exact between
      | ok value => exact second host value middle before ran

theorem bind {session : Session Value} {next : Value -> Session Result}
    (first : session.Preserves Holds) (second : forall value, (next value).Preserves Holds) :
    (session >>= next).Preserves Holds := by
  refine first.bind_of_eq_ok fun host value after before ran => second value after ?_
  have between := first host before
  rw [ran] at between
  exact between

theorem pure (value : Value) : (pure value : Session Value).Preserves Holds :=
  fun _ before => before

theorem throw (error : Error) : (throw error : Session Value).Preserves Holds :=
  fun _ before => before

theorem ofExcept (outcome : Except Error Value) : (Session.ofExcept outcome).Preserves Holds :=
  fun _ before => before

theorem get : (get : Session Host).Preserves Holds :=
  fun _ before => before

theorem modifyGet {change : Host -> Value × Host}
    (kept : forall host, Holds host -> Holds (change host).2) :
    (modifyGet change : Session Value).Preserves Holds :=
  fun host before => kept host before

/-- It is enough that the property survives the change of files that succeeds. -/
theorem performing {operation : FileOperation} {change : Host -> Except IoFault FileSystem}
    (kept : forall host files, Holds host -> change host = .ok files ->
      Holds { host with files }) : (Session.performing operation change).Preserves Holds := by
  intro host before
  rw [performing_apply]
  cases outcome : host.unlessRefused operation (change host) with
  | error fault => exact before
  | ok files => exact kept host files before (unlessRefused_eq_ok_iff.mp outcome).2

theorem record (recorded : forall host event, Holds host -> Holds (host.record event))
    (event : Event) : (Session.record event).Preserves Holds :=
  fun host before => recorded host event before

/-- The host that a failure leaves is reported on, so the property has to survive a new event. -/
theorem reporting (recorded : forall host event, Holds host -> Holds (host.record event))
    {operation : SegmentOperation} {segment : String} {session : Session Value}
    (preserves : session.Preserves Holds) :
    (reporting operation segment session).Preserves Holds := by
  intro host before
  have observed : session.outcome host = (.ok (session host).1, (session host).2) := rfl
  have kept := preserves host before
  rw [Session.reporting, Outcome.bind_apply, observed]
  cases ran : session host with
  | mk outcome between =>
      rw [ran] at kept
      cases outcome with
      | ok value => exact kept
      | error error => exact recorded between _ kept

/-- What is undone after a failure must not undo the property. -/
theorem undoingOnFailure {session : Session Value} (preserves : session.Preserves Holds)
    {undo : Host -> Host} (undone : forall host, Holds host -> Holds (undo host)) :
    (session.undoingOnFailure undo).Preserves Holds := by
  intro host before
  have kept := preserves host before
  unfold Session.undoingOnFailure
  cases ran : session host with
  | mk outcome between =>
      rw [ran] at kept
      cases outcome with
      | ok value => exact kept
      | error error => exact undone between kept

end Preserves

/-! ## Sessions that change no file -/

/-- Whatever its outcome, the session leaves the files alone and gives no addresses back. -/
def KeepsFiles (session : Session Value) : Prop :=
  forall host, (session host).2.files = host.files ∧
    host.freeAddress <= (session host).2.freeAddress

namespace KeepsFiles

/-- Nothing has changed for the files since an earlier host. -/
def Since (start host : Host) : Prop :=
  host.files = start.files ∧ start.freeAddress <= host.freeAddress

/-- Leaving the files alone is a preserved property, taken relative to an earlier host. -/
theorem iff_preserves {session : Session Value} :
    session.KeepsFiles <-> forall start, session.Preserves (Since start) := by
  constructor
  · rintro keeps start host ⟨files, addresses⟩
    have kept := keeps host
    exact ⟨kept.1.trans files, Nat.le_trans addresses kept.2⟩
  · intro preserves host
    exact preserves host host ⟨rfl, Nat.le_refl _⟩

theorem bind {session : Session Value} {next : Value -> Session Result}
    (first : session.KeepsFiles) (second : forall value, (next value).KeepsFiles) :
    (session >>= next).KeepsFiles :=
  iff_preserves.mpr fun start =>
    Preserves.bind (iff_preserves.mp first start) fun value =>
      iff_preserves.mp (second value) start

theorem pure (value : Value) : (pure value : Session Value).KeepsFiles :=
  fun _ => ⟨rfl, Nat.le_refl _⟩

theorem throw (error : Error) : (throw error : Session Value).KeepsFiles :=
  fun _ => ⟨rfl, Nat.le_refl _⟩

theorem ofExcept (outcome : Except Error Value) : (Session.ofExcept outcome).KeepsFiles :=
  fun _ => ⟨rfl, Nat.le_refl _⟩

theorem get : (get : Session Host).KeepsFiles :=
  fun _ => ⟨rfl, Nat.le_refl _⟩

theorem record (event : Event) : (Session.record event).KeepsFiles :=
  fun _ => ⟨rfl, Nat.le_refl _⟩

theorem openDescriptor (target : OpenFile) :
    (modifyGet (·.openDescriptor target) : Session Nat).KeepsFiles :=
  fun _ => ⟨rfl, Nat.le_refl _⟩

theorem closingOnFailure {session : Session Value} (keeps : session.KeepsFiles)
    (number : Nat) : (session.undoingOnFailure (·.closeDescriptor number)).KeepsFiles :=
  iff_preserves.mpr fun start =>
    Preserves.undoingOnFailure (iff_preserves.mp keeps start) fun _ before => before

end KeepsFiles
end Session
end MappedTables
