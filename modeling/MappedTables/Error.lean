import MappedTables.AddressMode

namespace MappedTables

/-!
What can go wrong, by cause.

Every failure of the library is one of nine kinds, and a caller may depend on
the kind.  Inside a kind the value says what was found, so that a statement
about a failure can name its reason and the numbers in it; a reason that is
`described` is one that a caller gave in words.  The wording of each reason is a
matter of `MappedTables.Error.Message` alone.
-/

/-- A refusal of the operating system, by its conventional number. -/
structure OsError where
  number : Int
  deriving DecidableEq, Repr

namespace OsError

def noEntry : OsError := ⟨2⟩

/-- No open descriptor has that number. -/
def badDescriptor : OsError := ⟨9⟩

/-- The permissions do not grant the right that is asked for. -/
def accessDenied : OsError := ⟨13⟩

def fileExists : OsError := ⟨17⟩

/-- What is to be mapped cannot be mapped. -/
def noDevice : OsError := ⟨19⟩

def notDirectory : OsError := ⟨20⟩

/-- What is to be read or written is a directory. -/
def isDirectory : OsError := ⟨21⟩

/-- The operation does not take that argument. -/
def invalidArgument : OsError := ⟨22⟩

def fileTooLarge : OsError := ⟨27⟩

def nameTooLong : OsError := ⟨36⟩

end OsError

/-- Why reading or writing a file came to nothing. -/
inductive IoFault where
  | os (reason : OsError)
  | notUtf8
  | shortRead
  /-- A path contains a NUL, so the operating system cannot be asked. -/
  | nulInPath
  | described (text : String)
  deriving DecidableEq, Repr

/-- What was being attempted when an `IoFault` occurred. -/
inductive FileOperation where
  | unspecified
  | reading (path : String)
  | writing (path : String)
  | statingSegment
  | sizingSegment
  | openingSegment
  | creatingSegment
  | removingSegment
  | mappingSegment
  | flushingSegment
  | duplicatingDescriptor
  | closingDescriptor
  | described (text : String)
  deriving DecidableEq, Repr

/-- The kinds of thing that are counted and looked up by number. -/
inductive Coordinate where
  | line
  | row
  | column
  | named (text : String)
  deriving DecidableEq, Repr

/-- The two tables of a container: rows that are searched by the first octet of their text, and
rows that are addressed by line. -/
inductive TableKind where
  | head
  | data
  deriving DecidableEq, Repr

/-- Ways in which stored octets fail to be a container. -/
inductive Malformation where
  | modeFlag (flag : UInt8)
  | magic
  | layoutVersion (found : Nat)
  | capacity (found least most : Nat)
  | tableLength (table : String) (length capacity : Nat)
  | shortSpan (size : Nat)
  | shortSegment (size : Nat)
  | offsetOverflow (offset : Nat)
  | outsideSpan (start stop size : Nat)
  | rowArrayOverflow (offset : Nat)
  | columnPastRow (column start length : Nat)
  | columnOrder (column start previous length : Nat)
  | noVersionToken
  | versionUnterminated
  | versionNotUtf8
  | versionNotPrintable
  | described (text : String)
  deriving DecidableEq, Repr

/-- Ways in which something is in the other addressing mode than it has to be. -/
inductive ModeConflict where
  | belowBase (address base : UInt64)
  | referenceRelocated
  | rowInTable (row table : AddressMode)
  | tableInContainer (table container : AddressMode)
  | spanNotRelocated
  | imageRelocated
  | imageNotRelocated
  | loadedImageLive
  | binaryFileLive
  | described (text : String)
  deriving DecidableEq, Repr

/-- Arguments that are refused before anything is attempted. -/
inductive Refusal where
  | nulInColumn
  | rowTooLong
  | tooManyColumns
  | tooManyRows
  | versionToken
  | emptyName
  | nulInName
  | sharedMemoryName
  | detachedHandle
  | negativeDescriptor
  | foreignPointer
  | nullOutput
  | nullHandle
  | nullText
  | textNotUtf8
  | notANumber (argument numeral : String)
  | headPrefixLength
  | headLineMissing
  | dataLineMissing
  | described (parameter text : String)
  deriving DecidableEq, Repr

/-- Faults of the platform that are not faults of a file. -/
inductive PlatformFault where
  | os (reason : OsError)
  | described (text : String)
  deriving DecidableEq, Repr

inductive Error where
  | io (operation : FileOperation) (fault : IoFault)
  | notFound (name : String)
  | alreadyExists (name : String)
  | malformed (flaw : Malformation)
  | outOfBounds (what : Coordinate) (index limit : Nat)
  | modeViolation (conflict : ModeConflict)
  | invalidParameter (refusal : Refusal)
  | alignment (offset required : Nat)
  | platform (fault : PlatformFault)
  deriving DecidableEq, Repr

/-- The kinds of failure that callers tell apart. -/
inductive ErrorKind where
  | io
  | notFound
  | alreadyExists
  | malformed
  | outOfBounds
  | modeViolation
  | invalidParameter
  | alignment
  | platform
  deriving DecidableEq, Repr

namespace Error

def kind : Error -> ErrorKind
  | .io _ _ => .io
  | .notFound _ => .notFound
  | .alreadyExists _ => .alreadyExists
  | .malformed _ => .malformed
  | .outOfBounds _ _ _ => .outOfBounds
  | .modeViolation _ => .modeViolation
  | .invalidParameter _ => .invalidParameter
  | .alignment _ _ => .alignment
  | .platform _ => .platform

/-- Whether a failure only says that a line, row or column does not exist,
which callers treat as an ordinary miss. -/
def isMiss (error : Error) : Bool :=
  error.kind = .outOfBounds

end Error
end MappedTables
