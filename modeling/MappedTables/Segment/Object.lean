import MappedTables.Segment.Config

namespace MappedTables
namespace SegmentConfig

/-!
The object behind a segment.

Shared memory objects are files of one directory, so a segment is found, created
and removed by path whatever backs it.  What backs it decides how the object is
called in messages and to which kind of failure a refusal of the operating
system belongs.
-/

/-- The directory of all shared memory objects. -/
def sharedMemoryDirectory : String := "/dev/shm"

def objectPath (config : SegmentConfig) : String :=
  match config.backing with
  | .sharedMemory => sharedMemoryDirectory ++ config.sharedMemoryName
  | .file => config.path

/-- What the object is called in messages. -/
def objectName (config : SegmentConfig) : String :=
  match config.backing with
  | .sharedMemory => config.sharedMemoryName
  | .file => config.path

/-- The failure of an operation on the object. -/
def objectFailure (config : SegmentConfig) (operation : FileOperation) (fault : IoFault) :
    Error :=
  match config.backing, fault with
  | .sharedMemory, .os reason => .platform (.os reason)
  | _, fault => .io operation fault

/-- The failure of an operation on an object that has to be there. -/
def missingFailure (config : SegmentConfig) (operation : FileOperation) (fault : IoFault) :
    Error :=
  if fault = .os .noEntry then .notFound config.objectName
  else config.objectFailure operation fault

/-- The failure of an operation on an object that must not be there. -/
def presentFailure (config : SegmentConfig) (operation : FileOperation) (fault : IoFault) :
    Error :=
  if fault = .os .fileExists then .alreadyExists config.objectName
  else config.objectFailure operation fault

end SegmentConfig
end MappedTables
