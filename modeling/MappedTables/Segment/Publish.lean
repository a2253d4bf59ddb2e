import MappedTables.Container
import MappedTables.Image
import MappedTables.Segment.Object
import MappedTables.Storage.Host

namespace MappedTables

/-!
The writer's side of a segment.

Publishing creates the object of a segment, which must not exist yet, and fills
it with a relocatable image that has been checked row by row.  When filling
fails the new object is removed again, so that another attempt does not meet a
truncated segment.
-/

/-- A segment that this process has published. -/
structure PublishedSegment where
  config : SegmentConfig
  capacity : Nat
  deriving DecidableEq, Repr

namespace SegmentConfig

def removeObject (config : SegmentConfig) : Session Unit := do
  Session.ofExcept config.validate
  let host ← get
  match host.unlessRefused .removingSegment (host.files.remove config.objectPath) with
  | .error fault => throw (config.missingFailure .removingSegment fault)
  | .ok files =>
      set { host with files }
      Session.record (.unlinked config.name)

/-- Remove a segment.  Whoever has it mapped keeps the mapping. -/
def unlink (config : SegmentConfig) : Session Unit :=
  Session.reporting .unlinking config.name config.removeObject

/-- Create the object of a segment, with nothing in it. -/
def createObject (config : SegmentConfig) : Session FileId := do
  let host ← get
  let made := host.files.create config.objectPath config.permissions.toNat
  match host.unlessRefused .creatingSegment made with
  | .error fault => throw (config.presentFailure .creatingSegment fault)
  | .ok (id, files) =>
      set { host with files }
      return id

/-- Store octets in a new object: give it its size, map it, copy the octets and
have the mapping written back. -/
def fillObject (id : FileId) (bytes : Bytes) : Session Unit := do
  Session.performing .sizingSegment fun host =>
    if host.sizeLimit.any (· < bytes.size) then .error (.os .fileTooLarge)
    else .ok (host.files.setContent id (Bytes.zeros bytes.size))
  Session.performing .mappingSegment fun host => .ok host.files
  modify fun host => { host with files := host.files.setOctets id bytes }
  Session.performing .flushingSegment fun host => .ok host.files

/-- Remove an object that could not be filled; that this may fail as well is
only recorded. -/
def discardObject (config : SegmentConfig) (host : Host) : Host :=
  match config.removeObject host with
  | (.ok (), after) => after
  | (.error error, after) => after.record (.leftBehind config.name error)

def publish (config : SegmentConfig) (image : Image) : Session PublishedSegment :=
  Session.reporting .publishing config.name do
    Session.ofExcept config.validate
    let bytes ← Session.ofExcept image.relocatedBytes
    let container ← Session.ofExcept (Container.ofRelocated image.span)
    Session.ofExcept container.validate
    let id ← config.createObject
    Session.undoingOnFailure (fillObject id bytes) config.discardObject
    Session.record (.published config.name config.backing bytes.size)
    return { config, capacity := bytes.size }

end SegmentConfig

namespace PublishedSegment

def unlink (published : PublishedSegment) : Session Unit :=
  published.config.unlink

end PublishedSegment
end MappedTables
