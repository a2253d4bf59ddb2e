import MappedTables.Error

namespace MappedTables

/-!
Failures that are reported and computations that stop.

Most operations either succeed or report an `Error`.  A few use arithmetic or
slicing without a check of their own; where the checked value would leave the
machine word or the slice, the computation stops, and no caller can treat that
as an ordinary failure.  `Fault` keeps the two apart, and `attempt` is the one
way to turn a reported failure into a miss.
-/

/-- Why a computation stops without a result. -/
inductive Abort where
  | overflow
  | outOfRange
  /-- Two references that form one header are in different modes. -/
  | mixedModes
  deriving DecidableEq, Repr

/-- What ends a computation early: a failure that is reported to the caller, or a stop that the
caller cannot handle. -/
inductive Fault where
  | error (error : Error)
  | abort (reason : Abort)
  deriving DecidableEq, Repr

instance : MonadLift (Except Error) (Except Fault) where
  monadLift result := result.mapError .error

instance : MonadLift (Except Abort) (Except Fault) where
  monadLift result := result.mapError .abort

/-- Treat a reported failure as the absence of a result; a stop remains one. -/
def attempt (result : Except Fault α) : Except Abort (Option α) :=
  match result with
  | .ok value => .ok (some value)
  | .error (.error _) => .ok none
  | .error (.abort reason) => .error reason

end MappedTables
