import MappedTables.Image
import MappedTables.Storage.FileSystem

namespace MappedTables
namespace Image

/-!
Images in binary files.

A binary file holds the octets of one relocatable image and nothing else.
-/

/-- Load the image in the file at `path` to the address `base`. -/
def ofFile (files : FileSystem) (base : UInt64) (path : String) : Except Error Image :=
  match files.read path with
  | .error fault => .error (.io (.reading path) fault)
  | .ok stored => ofBytes base stored.content

/-- Store the image in the file at `path`, which is created or replaced.  No
file is touched for an image that is not relocatable. -/
def writeTo (image : Image) (files : FileSystem) (path : String) :
    Except Error FileSystem := do
  let bytes ← image.relocatedBytes
  match files.write path bytes with
  | .error fault => throw (.io (.writing path) fault)
  | .ok after => return after

end Image
end MappedTables
