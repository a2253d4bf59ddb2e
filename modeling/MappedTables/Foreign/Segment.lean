import MappedTables.Foreign.Library
import MappedTables.Segment.Access

namespace MappedTables
namespace Foreign

/-!
Segments for callers in other languages.

There are two ways to a container.  `attach` and `detach` do everything in one
step each.  Callers that want to hold the descriptor themselves `check` that the
segment is available, `connect` to get a descriptor, map it with
`mapDescriptor`, and in the end `disconnect`.  The null address and negative
descriptor numbers stand for nothing.
-/

def nullAddress : UInt64 := 0

/-- The number that stands for no descriptor. -/
def noDescriptor : Int := -1

/-- The two cells that hold an attached segment for a caller. -/
structure Attachment where
  container : UInt64
  descriptor : Int
  deriving DecidableEq, Repr

/-- The shared memory segment with the name that an argument gives. -/
def configOf (argument : TextArgument) : Except Error SegmentConfig := do
  let config := SegmentConfig.named (← textOf argument)
  config.validate
  return config

def check (argument : TextArgument) : Call Nat := do
  match configOf argument with
  | .error error => fail error
  | .ok config =>
      if config.isAvailable (← get).host.files then return success
      else fail (.notFound config.name)

def connect (argument : TextArgument) : Call Int := do
  let opened ← attempting do
    let config ← Session.ofExcept (configOf argument)
    config.openForReading
  match opened with
  | .ok descriptor => return descriptor.number
  | .error error =>
      let _ ← fail error
      return noDescriptor

/-- Map what a descriptor of the caller stands for, by way of another descriptor
that is closed again. -/
def mapNumbered (number : Int) : Session Mapping := do
  if number < 0 then
    throw (.invalidParameter .negativeDescriptor)
  match (← get).opened? number.toNat with
  | none => throw (.io .duplicatingDescriptor (.os .badDescriptor))
  | some target =>
      let duplicate ← modifyGet (·.openDescriptor target)
      let descriptor : SegmentDescriptor := { number := duplicate, name := s!"fd {number}" }
      let mapping ← Session.undoingOnFailure descriptor.map descriptor.close
      modify descriptor.close
      return mapping

def mapDescriptor (number : Int) : Call UInt64 := do
  match ← attempting (mapNumbered number) with
  | .ok mapping =>
      modify (·.register mapping)
      return mapping.base
  | .error error =>
      let _ ← fail error
      return nullAddress

def giveBack (container : UInt64) : Call Nat := do
  if container = nullAddress then return success
  else if (← get).isRegistered container then
    modify (·.unregister container)
    return success
  else fail (.invalidParameter .foreignPointer)

/-- Close a descriptor, the calls so far having led to `status`. -/
def closeNumbered (number : Int) (status : Nat) : Call Nat := do
  if number < 0 then return status
  else if ((← get).host.opened? number.toNat).isSome then
    onHost (modify (·.closeDescriptor number.toNat))
    return status
  else fail (.io .closingDescriptor (.os .badDescriptor))

/-- Take a container back and close a descriptor.  Both are attempted; of two
failures the second counts. -/
def disconnect (container : UInt64) (number : Int) : Call Nat := do
  closeNumbered number (← giveBack container)

/-- Open and map a segment that is available. -/
def attachSegment (config : SegmentConfig) : Session SegmentHandle := do
  if !config.isAvailable (← get).files then
    Session.record (.unavailable config.name)
    throw (.notFound config.name)
  let handle ← SegmentHandle.openAndMap config
  Session.record (.attached config.name none)
  return handle

/-- The two cells that stand for a handle. -/
def attachmentOf (handle : SegmentHandle) : Attachment where
  container := (handle.mapping?.map (·.base)).getD nullAddress
  descriptor := (handle.descriptor?.map fun descriptor => (descriptor.number : Int)).getD
    noDescriptor

/-- Attach a segment and fill the cells of the caller, who may have failed to
provide them.  After a failure they are as they were. -/
def attach (cells : Option Attachment) (argument : TextArgument) :
    Call (Nat × Option Attachment) := do
  match cells with
  | none => return (← fail (.invalidParameter .nullOutput), none)
  | some before =>
      let attached ← attempting do
        attachSegment (← Session.ofExcept (configOf argument))
      match attached with
      | .error error => return (← fail error, some before)
      | .ok handle =>
          modify fun library => (handle.mapping?.map library.register).getD library
          return (success, some (attachmentOf handle))

/-- Detach what the cells of the caller hold, and clear them in any case. -/
def detach (cells : Option Attachment) : Call (Nat × Option Attachment) := do
  match cells with
  | none => return (← fail (.invalidParameter .nullHandle), none)
  | some before =>
      let status ← disconnect before.container before.descriptor
      return (status, some { container := nullAddress, descriptor := noDescriptor })

end Foreign
end MappedTables
