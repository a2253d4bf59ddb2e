import MappedTables.Fault

namespace MappedTables
namespace Outcome

/-!
Outcomes of computations that may fail.

A computation is a sequence of parts, each of which may end it.  It succeeds
exactly if every part does, and it fails with the failure of the first part that
does not.  Where reported failures and stops can occur together, a part that can
only report keeps its outcome, and `attempt` forgets reported failures only.
-/

variable {Failure Value Result : Type}

@[simp] theorem ok_bind (value : Value) (next : Value -> Except Failure Result) :
    (Except.ok value >>= next) = next value := rfl

@[simp] theorem error_bind (failure : Failure) (next : Value -> Except Failure Result) :
    (Except.error failure >>= next) = .error failure := rfl

@[simp] theorem pure_eq_ok (value : Value) :
    (pure value : Except Failure Value) = .ok value := rfl

@[simp] theorem throw_eq_error (failure : Failure) :
    (throw failure : Except Failure Value) = .error failure := rfl

/-- A computation succeeds exactly if its first part does and the rest does with its value. -/
theorem bind_eq_ok_iff {outcome : Except Failure Value}
    {next : Value -> Except Failure Result} {result : Result} :
    (outcome >>= next) = .ok result <->
      exists value, outcome = .ok value ∧ next value = .ok result := by
  cases outcome with
  | error failure => simp
  | ok value => simp

/-- A computation fails with the failure of its first part, or with one of the rest if the first
part succeeds. -/
theorem bind_eq_error_iff {outcome : Except Failure Value}
    {next : Value -> Except Failure Result} {failure : Failure} :
    (outcome >>= next) = .error failure <->
      outcome = .error failure ∨
        exists value, outcome = .ok value ∧ next value = .error failure := by
  cases outcome with
  | error failure => simp
  | ok value => simp

/-- Of an action on a state, the next part starts from what the part before it has left. -/
theorem bind_apply {State : Type} (action : ExceptT Failure (StateM State) Value)
    (next : Value -> ExceptT Failure (StateM State) Result) (state : State) :
    (action >>= next) state =
      match action state with
      | (.ok value, between) => next value between
      | (.error failure, between) => (.error failure, between) := by
  have step : (action >>= next) state =
      ExceptT.bindCont next (action state).1 (action state).2 := rfl
  rw [step]
  rcases action state with ⟨outcome, between⟩
  cases outcome with
  | error failure => rfl
  | ok value => rfl

/-! ## Reported failures beside stops -/

@[simp] theorem lift_ok (value : Value) :
    (liftM (Except.ok value : Except Error Value) : Except Fault Value) = .ok value := rfl

@[simp] theorem lift_error (error : Error) :
    (liftM (Except.error error : Except Error Value) : Except Fault Value) =
      .error (.error error) := rfl

@[simp] theorem liftAbort_ok (value : Value) :
    (liftM (Except.ok value : Except Abort Value) : Except Fault Value) = .ok value := rfl

@[simp] theorem liftAbort_error (reason : Abort) :
    (liftM (Except.error reason : Except Abort Value) : Except Fault Value) =
      .error (.abort reason) := rfl

/-- Parts that can only report may be lifted together or one by one. -/
theorem lift_bind (outcome : Except Error Value) (next : Value -> Except Error Result) :
    (liftM (outcome >>= next) : Except Fault Result) =
      (liftM outcome >>= fun value => liftM (next value)) := by
  cases outcome with
  | error error => rfl
  | ok value => rfl

theorem lift_bind_eq_ok_iff {outcome : Except Error Value}
    {next : Value -> Except Fault Result} {result : Result} :
    (liftM outcome >>= next) = .ok result <->
      exists value, outcome = .ok value ∧ next value = .ok result := by
  cases outcome with
  | error error => simp
  | ok value => simp

/-- What can only report does not stop; a stop comes from what follows it. -/
theorem lift_bind_eq_abort_iff {outcome : Except Error Value}
    {next : Value -> Except Fault Result} {reason : Abort} :
    (liftM outcome >>= next) = .error (.abort reason) <->
      exists value, outcome = .ok value ∧ next value = .error (.abort reason) := by
  cases outcome with
  | error error => simp
  | ok value => simp

theorem mapError_eq_ok_iff {Kind : Type} {outcome : Except Failure Value}
    {kind : Failure -> Kind} {value : Value} :
    outcome.mapError kind = .ok value <-> outcome = .ok value := by
  cases outcome with
  | error failure =>
      constructor
      · intro same
        cases same
      · intro same
        cases same
  | ok other =>
      constructor
      · intro same
        exact congrArg Except.ok (Except.ok.inj same)
      · intro same
        exact congrArg Except.ok (Except.ok.inj same)

/-- Renaming failures makes none and hides none. -/
theorem mapError_eq_error_iff {Kind : Type} {outcome : Except Failure Value}
    {kind : Failure -> Kind} {found : Kind} :
    outcome.mapError kind = .error found <->
      exists failure, outcome = .error failure ∧ kind failure = found := by
  cases outcome with
  | error failure =>
      constructor
      · intro same
        exact ⟨failure, rfl, Except.error.inj same⟩
      · rintro ⟨other, same, rfl⟩
        cases same
        rfl
  | ok value =>
      constructor
      · intro same
        cases same
      · rintro ⟨_, same, _⟩
        cases same

/-- If every part gives its result, so does the whole list. -/
theorem mapM_eq_ok {values : List Value} {compute : Value -> Except Failure Result}
    {result : Value -> Result}
    (each : forall value, value ∈ values -> compute value = .ok (result value)) :
    values.mapM compute = .ok (values.map result) := by
  induction values with
  | nil => rfl
  | cons value rest ih =>
      have first := each value List.mem_cons_self
      have others := ih fun other member => each other (List.mem_cons_of_mem _ member)
      rw [List.mapM_cons, first, ok_bind, others]
      rfl

/-- A failure of a fold is a failure of one of its steps. -/
theorem exists_of_foldlM_eq_error {step : Result -> Value -> Except Failure Result}
    {values : List Value} {start : Result} {failure : Failure}
    (failed : values.foldlM step start = .error failure) :
    exists state value, step state value = .error failure := by
  induction values generalizing start with
  | nil => cases failed
  | cons value rest ih =>
      rw [List.foldlM_cons] at failed
      rcases bind_eq_error_iff.mp failed with first | ⟨next, _, later⟩
      · exact ⟨start, value, first⟩
      · exact ih later

@[simp] theorem attempt_ok (value : Value) :
    attempt (.ok value) = .ok (some value) := rfl

@[simp] theorem attempt_error (error : Error) :
    attempt (.error (.error error) : Except Fault Value) = .ok none := rfl

@[simp] theorem attempt_abort (reason : Abort) :
    attempt (.error (.abort reason) : Except Fault Value) = .error reason := rfl

theorem attempt_eq_some_iff {outcome : Except Fault Value} {value : Value} :
    attempt outcome = .ok (some value) <-> outcome = .ok value := by
  cases outcome with
  | ok other => simp
  | error fault =>
      cases fault with
      | error error => simp
      | abort reason => simp

/-- An attempt stops exactly where the computation does; reported failures do not stop it. -/
theorem attempt_eq_error_iff {outcome : Except Fault Value} {reason : Abort} :
    attempt outcome = .error reason <-> outcome = .error (.abort reason) := by
  cases outcome with
  | ok value => simp
  | error fault =>
      cases fault with
      | error error => simp
      | abort other => simp

theorem attempt_bind_eq_error_iff {outcome : Except Fault Value}
    {next : Option Value -> Except Abort Result} {reason : Abort} :
    (attempt outcome >>= next) = .error reason <->
      outcome = .error (.abort reason) ∨
        exists value, attempt outcome = .ok value ∧ next value = .error reason := by
  rw [bind_eq_error_iff, attempt_eq_error_iff]

end Outcome
end MappedTables
