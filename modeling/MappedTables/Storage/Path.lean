import MappedTables.Error
import MappedTables.Text.Lines

namespace MappedTables

/-!
Paths as texts.

A path is a sequence of names divided by slashes; repeated slashes count as one.
It is taken from the root if it starts with a slash and from the working
directory otherwise, and a slash at its end asks for a directory.  A path or a
name in it may be too long, and a path with a NUL in it cannot be handed to the
operating system at all.
-/

/-- A directory or file by the names that lead to it from the root. -/
abbrev Place := List String

/-- The names of a path and how they are to be followed. -/
structure Path where
  absolute : Bool
  names : List String
  trailingSlash : Bool
  deriving DecidableEq, Repr

namespace Path

/-- The greatest number of octets in a name. -/
def nameLimit : Nat := 255

/-- The greatest number of octets in a path. -/
def textLimit : Nat := 4095

/-- The parts of a text between its slashes, empty ones left out. -/
def namesOf (text : List Char) : List String :=
  ((pieces '/' text).filter (· ≠ [])).map String.ofList

def ofText (text : String) : Except IoFault Path :=
  let characters := text.toList
  if characters.contains (Char.ofNat 0) then .error .nulInPath
  else if characters.isEmpty then .error (.os .noEntry)
  else if textLimit < text.utf8ByteSize then .error (.os .nameTooLong)
  else
    .ok
      { absolute := characters.head? = some '/'
        names := namesOf characters
        trailingSlash := characters.getLast? = some '/' }

end Path
end MappedTables
