import MappedTables.Draft.Text
import MappedTables.Storage.FileSystem

namespace MappedTables
namespace Draft

/-!
Drafts from text files.
-/

/-- The draft that the text file at `path` describes. -/
def ofFile (files : FileSystem) (path : String) : Except Error Draft :=
  match files.read path with
  | .error fault => .error (.io (.reading path) fault)
  | .ok stored =>
      match Utf8.characters? stored.content with
      | none => .error (.io (.reading path) .notUtf8)
      | some text => ofText text

end Draft
end MappedTables
