import MappedTables.Image
import MappedTables.Relocation

namespace MappedTables
namespace Image

/-!
Relocating an image.

The references of a live image are converted once, in place.  The outcome names
the image after the attempt in either case, so that what a failure leaves behind
is part of it.
-/

/-- Turn every reference of a live image into a distance from its base. -/
def relocate (image : Image) : Except Error Unit × Image :=
  match Relocation.relocateContainer image.span with
  | .ok _ span => (.ok (), { span })
  | .error error span => (.error error, { span })

/-- The image after relocation, if that succeeds. -/
def relocated (image : Image) : Except Error Image :=
  match image.relocate with
  | (.ok (), image) => .ok image
  | (.error error, _) => .error error

end Image
end MappedTables
