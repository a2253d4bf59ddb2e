import MappedTables.Span
import MappedTables.Storage.Host
import MappedTables.Text.Utf8
import MappedTables.VersionTag

namespace MappedTables

/-!
The version tag of a file that is not loaded.

A text source gives its tag on the first line, of which only the first octets
are looked at.  A binary file gives it in the version area that its header
refers to; the place is taken as a position in the file, and no more than the
octets of one version area are read from there.  Callers that only want to show
the tag get the empty text instead of a failure, and the reason goes into the
journal.
-/

/-- The number of octets of a text source that are looked at for its tag. -/
def versionLineLimit : Nat := 256

/-- File positions from this number on are refused by the operating system. -/
def filePositionLimit : Nat := 1 <<< 63

/-- The octets up to and including the first line feed. -/
def firstLine (octets : Bytes) : Bytes :=
  match octets.findIdx? (· = 10) with
  | none => octets
  | some stop => octets.extract 0 (stop + 1)

/-- A line without the line feeds and carriage returns at its end. -/
def dropLineEnd (line : List Char) : List Char :=
  (line.reverse.dropWhile fun character => character = '\n' || character = '\r').reverse

def versionOfSource (octets : Bytes) : Except Error String :=
  match Utf8.characters? (firstLine (octets.extract 0 versionLineLimit)) with
  | none => .error (.io .unspecified .notUtf8)
  | some line =>
      match versionOfLine? (dropLineEnd line) with
      | none => .error (.malformed .noVersionToken)
      | some tag => .ok tag

/-- The tag at the front of the octets read from a version area. -/
def versionOfArea (area : Bytes) : Except Error String :=
  match area.findIdx? (· = 0) with
  | none => .error (.malformed .versionUnterminated)
  | some stop =>
      match Utf8.characters? (area.extract 0 stop) with
      | none => .error (.malformed .versionNotUtf8)
      | some tag =>
          if isVersionTag tag then .ok (String.ofList tag)
          else .error (.malformed .versionNotPrintable)

def versionOfBinary (octets : Bytes) : Except Error String := do
  if octets.size < leastContainerSize then
    throw (.io .unspecified .shortRead)
  let header : ContainerHeader := StoredHeader.decode (octets.extract 0 leastContainerSize)
  header.validate octets.size
  if (← header.mode) ≠ .relocatable then
    throw (.modeViolation .binaryFileLive)
  let position := (← header.versionReference).word.toNat
  if filePositionLimit <= position then
    throw (.io .unspecified (.os .invalidArgument))
  versionOfArea (octets.slice position versionAreaSize)

/-- The two kinds of file that carry a tag. -/
inductive VersionedFile where
  | source
  | binary
  deriving DecidableEq, Repr

namespace VersionedFile

/-- The tag in the octets of a file of the given kind. -/
def versionOf : VersionedFile -> Bytes -> Except Error String
  | .source => versionOfSource
  | .binary => versionOfBinary

def versionAt (kind : VersionedFile) (files : FileSystem) (path : String) :
    Except Error String :=
  match files.read path with
  | .error fault => .error (.io .unspecified fault)
  | .ok stored => kind.versionOf stored.content

/-- The tag of the file at `path`, or the empty text and a record of why there
is none. -/
def versionShown (kind : VersionedFile) (path : String) (host : Host) : String × Host :=
  match kind.versionAt host.files path with
  | .ok tag => (tag, host)
  | .error error => ("", host.record (.noVersion path error))

end VersionedFile
end MappedTables
