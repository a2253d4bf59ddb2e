import MappedTables.Error

namespace MappedTables

/-!
The identity of a segment.

Publisher and readers agree on a name and on what backs the segment: a shared
memory object of that name, or a file.  The name of a shared memory object is
written with exactly one slash in front, whether or not the segment's name
begins with it; a file-backed segment without a path of its own has its place
in the directory for temporary files.
-/

/-- What a segment's octets are kept in. -/
inductive Backing where
  | sharedMemory
  | file
  deriving DecidableEq, Repr

def Backing.name : Backing -> String
  | .sharedMemory => "shm"
  | .file => "file-backed"

/-- The identity of a segment and how it is to be published. -/
structure SegmentConfig where
  name : String := "/sharedkb"
  backing : Backing := .sharedMemory
  /-- The file of a file-backed segment, if it is not the default one. -/
  filePath : Option String := none
  permissions : UInt32 := 420
  deriving DecidableEq, Repr

namespace SegmentConfig

/-- The greatest number of octets in the name of a shared memory object, the
slash in front not counted. -/
def nameLimit : Nat := 255

/-- The identity of the shared memory segment called `name`. -/
def named (name : String) : SegmentConfig where
  name := name

/-- The identity of the segment that is kept in the file at `path`. -/
def inFile (name path : String) : SegmentConfig where
  name := name
  backing := .file
  filePath := some path

def sharedMemoryName (config : SegmentConfig) : String :=
  if config.name.toList.head? = some '/' then config.name else "/" ++ config.name

/-- The file of a file-backed segment. -/
def path (config : SegmentConfig) : String :=
  match config.filePath with
  | some path => path
  | none =>
      "/tmp/sharedkb_" ++ String.ofList (config.name.toList.dropWhile (· = '/'))

/-- Whether a name, written with its slash, can be that of a shared memory object. -/
def isSharedMemoryName (name : String) : Bool :=
  1 < name.utf8ByteSize && name.utf8ByteSize <= nameLimit + 1
    && !(name.toList.drop 1).contains '/'

/-- Refuse a config that no segment can have. -/
def validate (config : SegmentConfig) : Except Error Unit := do
  if config.name.isEmpty then
    throw (.invalidParameter .emptyName)
  if config.name.toList.contains (Char.ofNat 0) then
    throw (.invalidParameter .nulInName)
  if config.backing = .sharedMemory ∧ ¬ isSharedMemoryName config.sharedMemoryName then
    throw (.invalidParameter .sharedMemoryName)

end SegmentConfig
end MappedTables
