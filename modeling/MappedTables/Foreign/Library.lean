import MappedTables.Container
import MappedTables.Error.Message
import MappedTables.Storage.Host
import MappedTables.Text.Utf8

namespace MappedTables
namespace Foreign

/-!
The library as callers in other languages see it.

Such callers hold machine words only: addresses of containers, numbers of
descriptors, and addresses of texts that end in a NUL.  An operation answers
with a status number; the failure behind it is kept as text until the next
failure.  Which addresses are containers is known from a registry of all
mappings that were handed out and not given back.
-/

/-- What the library keeps between calls: the mappings handed out, by the address of the container,
and the wording of the last failure. -/
structure Library where
  host : Host
  registry : List (UInt64 × Mapping) := []
  lastError : Option String := none

abbrev Call := StateM Library

/-- An address where a text is; `none` is the null address. -/
abbrev TextArgument := Option Bytes

def success : Nat := 0

def statusOf : ErrorKind -> Nat
  | .invalidParameter => 1
  | .notFound => 2
  | .alreadyExists => 3
  | .malformed => 4
  | .outOfBounds => 5
  | .modeViolation => 6
  | .io => 7
  | .alignment => 8
  | .platform => 9

/-- The octets of a text up to its first NUL. -/
def untilNul (octets : Bytes) : Bytes :=
  octets.takeWhile (· ≠ columnTerminator)

def textOf : TextArgument -> Except Error String
  | none => .error (.invalidParameter .nullText)
  | some octets =>
      match Utf8.decode? (untilNul octets) with
      | none => .error (.invalidParameter .textNotUtf8)
      | some text => .ok text

/-- The octets of a text for a caller, without the NUL that follows them; a text
with a NUL in it has none. -/
def octetsOf? (text : String) : Option Bytes :=
  let octets := Utf8.ofString text
  if octets.contains columnTerminator then none else some octets

/-- Keep the wording of a failure and answer with its status.  A wording with a
NUL in it cannot be kept, and takes the previous one with it. -/
def fail (error : Error) : Call Nat := do
  let message := error.message
  let kept := (octetsOf? message).map fun _ => message
  modify fun library => { library with lastError := kept }
  return statusOf error.kind

/-- Take part in the host. -/
def onHost (session : StateM Host α) : Call α := fun library =>
  let (result, host) := session library.host
  (result, { library with host })

/-- Take part in the host in a way that may fail. -/
def attempting (session : Session α) : Call (Except Error α) :=
  onHost session.run

namespace Library

/-- Whether an address is that of a container handed out and not given back. -/
def isRegistered (library : Library) (address : UInt64) : Bool :=
  (library.registry.lookup address).isSome

def register (library : Library) (mapping : Mapping) : Library :=
  { library with registry := (mapping.base, mapping) :: library.registry }

def unregister (library : Library) (address : UInt64) : Library :=
  { library with registry := library.registry.filter (·.1 ≠ address) }

/-- The memory behind the mappings handed out. -/
def memory (library : Library) : List Span :=
  library.registry.map fun entry => library.host.memory entry.2

end Library
end Foreign
end MappedTables
