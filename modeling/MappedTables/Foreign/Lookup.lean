import MappedTables.Foreign.Library
import MappedTables.VersionTag.File

namespace MappedTables
namespace Foreign

/-!
Lookups for callers in other languages.

A lookup is given the address of a container and answers with the address of a
column, which is a text that ends in a NUL, or with nothing.  Misses and
failures look the same here and leave no message.
-/

/-- The octets from an address on, if the address is in one of the given pieces
of memory. -/
def spanFrom? (memory : List Span) (address : UInt64) : Option Span :=
  memory.findSome? fun span =>
    if span.base <= address ∧ (address - span.base).toNat < span.size then
      let offset := (address - span.base).toNat
      some { base := address, bytes := span.bytes.extract offset span.size }
    else none

def containerAt? (memory : List Span) (address : UInt64) : Option Container := do
  let span ← spanFrom? memory address
  let header ← (span.headerAt ContainerHeader 0).toOption
  if header.magic = containerMagic
      ∧ leastContainerSize <= header.capacity.toNat
      ∧ header.capacity.toNat <= span.size then
    (Container.ofRelocated (span.take header.capacity.toNat)).toOption
  else none

/-- The text at an address in a container: the octets up to the next NUL or the
end of the container. -/
def textAt (container : Container) (address : UInt64) : Bytes :=
  untilNul (container.span.bytes.extract (address - container.base).toNat container.capacity)

def columnAt (memory : List Span) (address : UInt64) (kind : TableKind) (line : UInt32)
    (column : UInt16) : Except Abort (Option UInt64) :=
  match containerAt? memory address with
  | none => .ok none
  | some container => attempt (container.columnAddressAt kind line column)

/-- The address of a column of the first head row with a mark, and the content
of the caller's cell for the line of that row.  A caller may have failed to
provide the cell, and it changes only when there is such a row. -/
def headFor (memory : List Span) (address : UInt64) (mark : Int8) (column : UInt16)
    (line : Option UInt32) : Except Abort (Option UInt64 × Option UInt32) :=
  match containerAt? memory address with
  | none => .ok (none, line)
  | some container => do
      match ← container.findHead mark.toUInt8 column with
      | none => return (none, line)
      | some hit => return (some hit.text.address, line.map fun _ => hit.line)

/-- A text that is given for a version tag. -/
inductive TagText where
  | within (address : UInt64)
  /-- The empty text of the library, which stands in no container. -/
  | empty
  deriving DecidableEq, Repr

/-- What a caller reads who is given a text for the version tag of a container. -/
def TagText.read? (container : Container) : TagText -> Option String
  | .within address => Utf8.decode? (textAt container address)
  | .empty => some ""

/-- The text that is given for the version tag of a container. -/
def tagText (container : Container) : TagText :=
  match container.versionAddress with
  | .error _ => .empty
  | .ok address => if container.version = "" then .empty else .within address

/-- The text that is given for the version tag of the container at an address. -/
def tagTextAt? (memory : List Span) (address : UInt64) : Option TagText :=
  (containerAt? memory address).map tagText

/-- The version tag of the container at an address, as a caller reads it. -/
def version? (memory : List Span) (address : UInt64) : Option String := do
  let container ← containerAt? memory address
  (tagText container).read? container

/-- The number of rows of a table of the container at an address. -/
def rowCount (memory : List Span) (address : UInt64) (kind : TableKind) : Nat :=
  ((containerAt? memory address).map (·.length kind)).getD 0

/-- The version tag of the file with the path that an argument gives, and the
empty text if there is none. -/
def versionOfFile (kind : VersionedFile) (argument : TextArgument) : Call String := do
  match textOf argument with
  | .error _ => return ""
  | .ok path => onHost (kind.versionShown path)

end Foreign
end MappedTables
