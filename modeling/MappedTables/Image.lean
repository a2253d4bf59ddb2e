import MappedTables.Container

namespace MappedTables

/-!
Images: containers that are owned by the process that made them.

An image holds the octets of one container and the address at which they stand.
It is live while its references are addresses and relocatable after that; only a
relocatable image may leave the process, and only relocatable octets can be
loaded as an image again.
-/

/-- An owned container. -/
structure Image where
  span : Span
  deriving DecidableEq, Repr

namespace Image

def capacity (image : Image) : Nat :=
  image.span.size

def mode (image : Image) : Except Error AddressMode := do
  (← image.span.headerAt ContainerHeader 0).mode

/-- The view through which the image is looked up. -/
def view (image : Image) : Except Error Container :=
  Container.ofSpan image.span

/-- The octets of a relocatable image. -/
def relocatedBytes (image : Image) : Except Error Bytes := do
  match ← image.mode with
  | .relocatable => return image.span.bytes
  | .live => throw (.modeViolation .imageNotRelocated)

/-- Load the container at the front of `bytes` to the address `base`.  What
follows the recorded capacity is left out. -/
def ofBytes (base : UInt64) (bytes : Bytes) : Except Error Image := do
  let span : Span := { base, bytes }
  let header ← span.headerAt ContainerHeader 0
  header.validate span.size
  if (← header.mode) ≠ .relocatable then
    throw (.modeViolation .loadedImageLive)
  return { span := span.take header.capacity.toNat }

end Image
end MappedTables
