import MappedTables.Error.Message
import MappedTables.Segment.Config

namespace MappedTables

/-!
The diagnostic record.

Beside its result an operation may leave events for the people who run the
system.  An event is a value; its severity and its wording are functions of it.
-/

/-- The operations on segments whose failures are recorded. -/
inductive SegmentOperation where
  | opening
  | mapping
  | attaching
  | publishing
  | unlinking
  deriving DecidableEq, Repr

def SegmentOperation.name : SegmentOperation -> String
  | .opening => "open"
  | .mapping => "map"
  | .attaching => "attach"
  | .publishing => "publish"
  | .unlinking => "unlink"

/-- Something worth recording. -/
inductive Event where
  | failed (operation : SegmentOperation) (segment : String) (error : Error)
  | unavailable (segment : String)
  /-- A partly written segment could not be removed. -/
  | leftBehind (segment : String) (error : Error)
  | published (segment : String) (backing : Backing) (size : Nat)
  | unlinked (segment : String)
  /-- A segment was attached; its size is recorded for native callers. -/
  | attached (segment : String) (size : Option Nat)
  | noVersion (path : String) (error : Error)
  deriving DecidableEq, Repr

/-- How much an event matters. -/
inductive Severity where
  | error
  | warning
  | information
  | detail
  deriving DecidableEq, Repr

def Severity.name : Severity -> String
  | .error => "ERROR"
  | .warning => "WARN"
  | .information => "INFO"
  | .detail => "DEBUG"

namespace Event

def severity : Event -> Severity
  | .failed _ _ _ => .error
  | .unavailable _ => .error
  | .leftBehind _ _ => .warning
  | .published _ _ _ => .information
  | .unlinked _ => .information
  | .attached _ _ => .information
  | .noVersion _ _ => .detail

def text : Event -> String
  | .failed operation segment error =>
      s!"{operation.name} of segment '{segment}' failed: {error.message}"
  | .unavailable segment => s!"attach of segment '{segment}' failed: not available"
  | .leftBehind segment error =>
      s!"could not remove partial segment '{segment}': {error.message}"
  | .published segment backing size =>
      s!"published segment '{segment}' ({backing.name}, {size} bytes)"
  | .unlinked segment => s!"unlinked segment '{segment}'"
  | .attached segment (some size) => s!"attached segment '{segment}' ({size} bytes)"
  | .attached segment none => s!"attached segment '{segment}'"
  | .noVersion path error => s!"no version in {path}: {error.message}"

/-- The event as a line of a log. -/
def line (event : Event) : String :=
  event.severity.name ++ " " ++ event.text

end Event
end MappedTables
