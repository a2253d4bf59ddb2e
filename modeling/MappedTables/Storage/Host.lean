import MappedTables.LeastNumber
import MappedTables.Segment.Event
import MappedTables.Span
import MappedTables.Storage.FileSystem

namespace MappedTables

/-!
The process and the system around it.

A host is everything that segments are made of and found in: the files, the
open descriptors of the process, the addresses at which it has mapped files, and
the events it has recorded.  A descriptor gets the lowest free number; a mapping
is made at the free address, which then moves past it, and shows the file as it
is.

Opening for reading, duplicating a descriptor and mapping are granted whenever
the files admit them: a process that has as many descriptors or mappings as the
system allows is not described.
-/

/-- What an open descriptor stands for. -/
inductive OpenFile where
  | directory
  | file (id : FileId)
  deriving DecidableEq, Repr

structure Mapping where
  base : UInt64
  file : FileId
  length : Nat
  deriving DecidableEq, Repr

/-- A process and its surroundings. -/
structure Host where
  files : FileSystem
  descriptors : List (Nat × OpenFile) := []
  /-- Where the next mapping will be made. -/
  freeAddress : Nat := 1 <<< 46
  /-- The size past which files cannot grow at the moment. -/
  sizeLimit : Option Nat := none
  /-- The size that the system reports for directories; file systems differ in it. -/
  directorySize : Nat := 4096
  /-- What the system refuses at the moment of the operations by which objects are
  made, filled and removed, for reasons that do not lie in the files. -/
  refusal? : FileOperation -> Option OsError := fun _ => none
  journal : List Event := []

/-- A computation on a host that may fail.  The host after a failure is part of
the outcome, for a failure undoes nothing by itself. -/
abbrev Session := ExceptT Error (StateM Host)

namespace Host

/-- The first number that a descriptor can have; lower ones are always taken. -/
def firstDescriptor : Nat := 3

/-- Octets of a page; mappings start at multiples of it. -/
def pageSize : Nat := 4096

/-- What the descriptor with a number stands for, if it is open. -/
def opened? (host : Host) (number : Nat) : Option OpenFile :=
  host.descriptors.lookup number

/-- The lowest number that no open descriptor has. -/
def freeDescriptor (host : Host) : Nat :=
  (leastFrom (fun number => (host.opened? number).isNone)
    (host.descriptors.length + 1) firstDescriptor).getD firstDescriptor

def openDescriptor (host : Host) (target : OpenFile) : Nat × Host :=
  let number := host.freeDescriptor
  (number, { host with descriptors := (number, target) :: host.descriptors })

def closeDescriptor (host : Host) (number : Nat) : Host :=
  { host with descriptors := host.descriptors.filter (·.1 ≠ number) }

/-- A closed descriptor stands for nothing, and no other descriptor is touched. -/
theorem opened?_closeDescriptor (host : Host) (closed number : Nat) :
    (host.closeDescriptor closed).opened? number =
      if number = closed then none else host.opened? number := by
  simp only [closeDescriptor, opened?]
  induction host.descriptors with
  | nil => simp
  | cons entry rest ih =>
      obtain ⟨first, target⟩ := entry
      by_cases gone : first = closed
      · by_cases same : number = closed
        · simpa [gone, same] using ih
        · have apart : (number == closed) = false := beq_eq_false_iff_ne.mpr same
          simpa [gone, same, List.lookup_cons, apart] using ih
      · by_cases found : number = first
        · simp [gone, found]
        · have apart : (number == first) = false := beq_eq_false_iff_ne.mpr found
          simpa [gone, List.lookup_cons, apart] using ih

/-- An open descriptor stands for what it was opened for, and every other number
for what it stood for before. -/
theorem opened?_openDescriptor (host : Host) (target : OpenFile) (number : Nat) :
    (host.openDescriptor target).2.opened? number =
      if number = host.freeDescriptor then some target else host.opened? number := by
  by_cases same : number = host.freeDescriptor
  · simp [openDescriptor, opened?, same]
  · have apart : (number == host.freeDescriptor) = false := beq_eq_false_iff_ne.mpr same
    simp [openDescriptor, opened?, List.lookup_cons, same, apart]

def map (host : Host) (file : FileId) (length : Nat) : Mapping × Host :=
  let mapping : Mapping :=
    { base := UInt64.ofNat host.freeAddress, file, length }
  let pages := length / pageSize + 1
  (mapping, { host with freeAddress := host.freeAddress + pages * pageSize })

def memory (host : Host) (mapping : Mapping) : Span where
  base := mapping.base
  bytes := (host.files.file mapping.file).content.resize mapping.length

/-- The outcome of an operation, unless the system refuses to carry it out. -/
def unlessRefused (host : Host) (operation : FileOperation) (outcome : Except IoFault α) :
    Except IoFault α :=
  match host.refusal? operation with
  | none => outcome
  | some reason => .error (.os reason)

def record (host : Host) (event : Event) : Host :=
  { host with journal := host.journal ++ [event] }

end Host

namespace Session

/-- Take over an outcome that does not depend on the host. -/
def ofExcept (outcome : Except Error α) : Session α :=
  ExceptT.mk (pure outcome)

def record (event : Event) : Session Unit :=
  modify (·.record event)

/-- Change the files by an operation that may fail or be refused. -/
def performing (operation : FileOperation) (change : Host -> Except IoFault FileSystem) :
    Session Unit := do
  let host ← get
  match host.unlessRefused operation (change host) with
  | .error fault => throw (.io operation fault)
  | .ok files => set { host with files }

/-- The outcome of a computation as a value, so that it can be looked at before
it is passed on. -/
def outcome (session : Session α) : Session (Except Error α) := fun host =>
  let (result, after) := session host
  (.ok result, after)

/-- Record the failure of an operation on a segment, and pass it on. -/
def reporting (operation : SegmentOperation) (segment : String) (session : Session α) :
    Session α := do
  match ← session.outcome with
  | .ok value => return value
  | .error error =>
      record (.failed operation segment error)
      throw error

/-- Pass a failure on after undoing something of what came before it. -/
def undoingOnFailure (session : Session α) (undo : Host -> Host) : Session α := fun host =>
  match session host with
  | (.ok value, after) => (.ok value, after)
  | (.error error, after) => (.error error, undo after)

end Session
end MappedTables
