import MappedTables.Segment.Config

namespace MappedTables

/-!
Configs as structured documents.

A config can be kept in any format that has texts, whole numbers, lists and
records.  Written, it is a record of its four fields.  Read, it may also be the
list of the four values in order.  A record may leave out the path and may have
further fields, which may be repeated; of the four fields none may be given
twice.  A backing may be written as a record that gives its name an empty value.
-/

/-- A value of a structured format.  A fraction is any number that is not written as a whole
one. -/
inductive Document where
  | null
  | truth (value : Bool)
  | whole (value : Int)
  | fraction
  | text (value : String)
  | list (items : List Document)
  | record (fields : List (String × Document))
  deriving Inhabited

namespace Document

/-- The values that a record gives a field, in their order. -/
def valuesOf (fields : List (String × Document)) (name : String) : List Document :=
  (fields.filter (·.1 = name)).map (·.2)

/-- The value of a field that a record must give exactly once. -/
def field? (fields : List (String × Document)) (name : String) : Option Document :=
  match valuesOf fields name with
  | [value] => some value
  | _ => none

/-- The value of a field that a record may leave out, but not repeat. -/
def optionalField? (fields : List (String × Document)) (name : String) : Option Document :=
  match valuesOf fields name with
  | [] => some .null
  | [value] => some value
  | _ => none

def text? : Document -> Option String
  | .text value => some value
  | _ => none

def optionalText? : Document -> Option (Option String)
  | .null => some none
  | .text value => some (some value)
  | _ => none

/-- A number of thirty-two bits. -/
def word32? : Document -> Option UInt32
  | .whole value =>
      if 0 <= value ∧ value < 4294967296 then some (UInt32.ofNat value.toNat) else none
  | _ => none

end Document

namespace Backing

/-- The name of a backing in documents. -/
def documentName : Backing -> String
  | .sharedMemory => "SharedMemory"
  | .file => "FileBacked"

/-- The backing with a name. -/
def ofDocumentName? (name : String) : Option Backing :=
  if name = "SharedMemory" then some .sharedMemory
  else if name = "FileBacked" then some .file
  else none

/-- Read a backing: its name, or a record that gives its name an empty value. -/
def ofDocument? : Document -> Option Backing
  | .text name => ofDocumentName? name
  | .record [(name, .null)] => ofDocumentName? name
  | _ => none

end Backing

namespace SegmentConfig

def toDocument (config : SegmentConfig) : Document :=
  .record
    [("name", .text config.name),
      ("backing_type", .text config.backing.documentName),
      ("file_path", (config.filePath.map Document.text).getD .null),
      ("permissions", .whole config.permissions.toNat)]

/-- Read a config from the values of its fields. -/
def ofValues? (name backing filePath permissions : Document) : Option SegmentConfig := do
  return {
    name := ← name.text?
    backing := ← Backing.ofDocument? backing
    filePath := ← filePath.optionalText?
    permissions := ← permissions.word32? }

def ofDocument? : Document -> Option SegmentConfig
  | .list [name, backing, filePath, permissions] =>
      ofValues? name backing filePath permissions
  | .record fields => do
      ofValues? (← Document.field? fields "name")
        (← Document.field? fields "backing_type")
        (← Document.optionalField? fields "file_path")
        (← Document.field? fields "permissions")
  | _ => none

/-- A written config reads back as itself. -/
theorem ofDocument?_toDocument (config : SegmentConfig) :
    ofDocument? config.toDocument = some config := by
  obtain ⟨name, backing, filePath, permissions⟩ := config
  have bounded : permissions.toNat < 4294967296 := permissions.toNat_lt
  have whole : Document.word32? (.whole permissions.toNat) = some permissions := by
    simp only [Document.word32?]
    rw [if_pos ⟨by omega, by omega⟩]
    simp
  cases backing <;> cases filePath <;>
    simp [toDocument, ofDocument?, ofValues?, Document.field?, Document.optionalField?,
      Document.valuesOf, Document.text?, Document.optionalText?, Backing.ofDocument?,
      Backing.documentName, Backing.ofDocumentName?, whole]

end SegmentConfig
end MappedTables
