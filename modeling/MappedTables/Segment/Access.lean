import MappedTables.Container
import MappedTables.Segment.Object
import MappedTables.Storage.Host

namespace MappedTables

/-!
The reader's side of a segment.

A reader finds out whether a segment is available, opens it, maps it and looks
things up in it; `SegmentHandle.attach` does the first three in one step and
leaves nothing open when it fails.  A mapping goes on showing the object that
was mapped, whatever becomes of the segment's name.
-/

structure SegmentDescriptor where
  number : Nat
  name : String
  deriving DecidableEq, Repr

namespace Host

/-- The size of what a descriptor stands for. -/
def sizeOf (host : Host) : OpenFile -> Nat
  | .directory => host.directorySize
  | .file id => (host.files.file id).content.size

/-- The container that a mapping shows. -/
def mapped (host : Host) (mapping : Mapping) : Except Error Container :=
  Container.ofRelocated (host.memory mapping)

end Host

namespace OpenFile

/-- A descriptor for what a path leads to. -/
def ofEntry : Entry -> OpenFile
  | .directory => .directory
  | .file id => .file id

end OpenFile

namespace SegmentConfig

/-- Whether the segment is available at the moment: a shared memory object can be
opened, a file is there. -/
def isAvailable (config : SegmentConfig) (files : FileSystem) : Bool :=
  match config.validate with
  | .error _ => false
  | .ok () =>
      match config.backing with
      | .sharedMemory => (files.findReadable config.objectPath).isOk
      | .file => files.isFile config.objectPath

def openForReading (config : SegmentConfig) : Session SegmentDescriptor :=
  Session.reporting .opening config.name do
    Session.ofExcept config.validate
    match (← get).files.findReadable config.objectPath with
    | .error fault => throw (config.missingFailure .openingSegment fault)
    | .ok entry =>
        let number ← modifyGet (·.openDescriptor (OpenFile.ofEntry entry))
        return { number, name := config.name }

end SegmentConfig

namespace SegmentDescriptor

/-- Open the file at `path` for reading, as something called `name`. -/
def ofFile (path name : String) : Session SegmentDescriptor := do
  match (← get).files.findReadable path with
  | .error fault => throw (.io .unspecified fault)
  | .ok entry =>
      let number ← modifyGet (·.openDescriptor (OpenFile.ofEntry entry))
      return { number, name }

def target (descriptor : SegmentDescriptor) (host : Host) : Except Error OpenFile :=
  match host.opened? descriptor.number with
  | some target => .ok target
  | none => .error (.io .statingSegment (.os .badDescriptor))

/-- The size of the object behind the descriptor. -/
def length (descriptor : SegmentDescriptor) (host : Host) : Except Error Nat := do
  return host.sizeOf (← descriptor.target host)

/-- Map the whole object and check that it holds a container. -/
def map (descriptor : SegmentDescriptor) : Session Mapping :=
  Session.reporting .mapping descriptor.name do
    let target ← Session.ofExcept (descriptor.target (← get))
    let size := (← get).sizeOf target
    if size < leastContainerSize then
      throw (.malformed (.shortSegment size))
    match target with
    | .directory => throw (.io .mappingSegment (.os .noDevice))
    | .file id =>
        let mapping ← modifyGet (·.map id size)
        let _ ← Session.ofExcept ((← get).mapped mapping)
        return mapping

def close (descriptor : SegmentDescriptor) (host : Host) : Host :=
  host.closeDescriptor descriptor.number

end SegmentDescriptor

/-- An attached segment, or what is left of it after it was detached. -/
structure SegmentHandle where
  mapping? : Option Mapping := none
  descriptor? : Option SegmentDescriptor := none
  deriving DecidableEq, Repr

namespace SegmentHandle

/-- Put together what was opened and mapped in separate steps. -/
def ofParts (mapping : Mapping) (descriptor : SegmentDescriptor) : SegmentHandle where
  mapping? := some mapping
  descriptor? := some descriptor

/-- Open and map a segment; the descriptor does not outlive a failure. -/
def openAndMap (config : SegmentConfig) : Session SegmentHandle := do
  let descriptor ← config.openForReading
  let mapping ← Session.undoingOnFailure descriptor.map descriptor.close
  return ofParts mapping descriptor

/-- Open and map a segment that is available. -/
def attach (config : SegmentConfig) : Session SegmentHandle := do
  if !config.isAvailable (← get).files then
    Session.reporting .attaching config.name (throw (.notFound config.name))
  let handle ← openAndMap config
  Session.record (.attached config.name (handle.mapping?.map (·.length)))
  return handle

/-- Whether there is something to look things up in. -/
def isAttached (handle : SegmentHandle) : Bool :=
  handle.mapping?.isSome

/-- The container that the handle gives access to. -/
def container (handle : SegmentHandle) (host : Host) : Except Error Container :=
  match handle.mapping? with
  | none => .error (.invalidParameter .detachedHandle)
  | some mapping => host.mapped mapping

/-- Give up the mapping and the descriptor.  Detaching a second time changes
nothing. -/
def detach (handle : SegmentHandle) (host : Host) : SegmentHandle × Host :=
  match handle.descriptor? with
  | none => ({}, host)
  | some descriptor => ({}, descriptor.close host)

end SegmentHandle
end MappedTables
