import MappedTables.Bytes
import MappedTables.Storage.Path

namespace MappedTables

/-!
Files and directories.

A place in the tree is free, a directory, or leads to a file.  Files have an
identity of their own: removing a place from the tree takes nothing from those
who have the file open or mapped, and a file created there later is another one.
Every operation follows a path name by name and reports the first obstacle, in
the order in which an operating system meets them.

There are no symbolic links, and no file is linked to a second place after it was
made.  The user owns every file and is not privileged, so that the permissions of
the owner decide, and the mask for new files takes the right to write from the
group and from others.
-/

abbrev FileId := Nat

structure StoredFile where
  content : Bytes := #[]
  permissions : Nat := 0
  deriving DecidableEq, Repr

namespace StoredFile

def isReadable (stored : StoredFile) : Bool :=
  stored.permissions.testBit 8

def isWritable (stored : StoredFile) : Bool :=
  stored.permissions.testBit 7

end StoredFile

/-- What a place leads to. -/
inductive Entry where
  | directory
  | file (id : FileId)
  deriving DecidableEq, Repr

/-- The tree of places and the files that it leads to. -/
structure FileSystem where
  entryAt? : Place -> Option Entry
  /-- Every file, whether a place leads to it or not. -/
  file : FileId -> StoredFile
  /-- The first identity that no file has had yet. -/
  nextFile : FileId
  workingDirectory : Place

/-- The last step of a path whose other names have been followed. -/
inductive LastStep where
  | name (name : String)
  /-- The directory itself, by way of a dot, two dots, or no name at all. -/
  | here
  deriving DecidableEq, Repr

/-- Where a path leads before its last step. -/
structure Target where
  directory : Place
  last : LastStep
  trailingSlash : Bool
  deriving DecidableEq, Repr

namespace FileSystem

/-- Permissions of a file that is created without any being asked for. -/
def plainPermissions : Nat := 0o644

/-- Permissions of a file that nobody may write to. -/
def readOnlyPermissions : Nat := 0o444

/-- What remains of requested permissions: the group and others cannot be
granted the right to write. -/
def grantedPermissions (requested : Nat) : Nat :=
  (requested &&& 0o7777) &&& (0o7777 - 0o022)

/-- What remains of permissions when a file is written to: it loses the right to
act as its owner, and, if the group may run it, the right to act as the group. -/
def permissionsAfterWriting (permissions : Nat) : Nat :=
  if permissions &&& 0o2010 = 0o2010 then permissions &&& 0o1777
  else permissions &&& 0o3777

/-- An empty working directory beside the places that every system has. -/
def initial (workingDirectory : Place) : FileSystem where
  entryAt? place :=
    if place ∈ [[], ["tmp"], ["dev"], ["dev", "shm"], workingDirectory] then some .directory
    else none
  file _ := {}
  nextFile := 0
  workingDirectory := workingDirectory

/-- What a name leads to from a directory.  Names that are too long cannot be
looked up. -/
def lookUp (files : FileSystem) (directory : Place) (name : String) :
    Except IoFault (Option Entry) :=
  if Path.nameLimit < name.utf8ByteSize then .error (.os .nameTooLong)
  else .ok (files.entryAt? (directory ++ [name]))

/-- The directory that a name leads to from a directory. -/
def enter (files : FileSystem) (directory : Place) (name : String) :
    Except IoFault Place := do
  if name = "." then return directory
  else if name = ".." then return directory.dropLast
  else
    match ← files.lookUp directory name with
    | none => throw (.os .noEntry)
    | some (.file _) => throw (.os .notDirectory)
    | some .directory => return directory ++ [name]

/-- Follow all names of a path but the last, which is not looked up yet. -/
def locate (files : FileSystem) (text : String) : Except IoFault Target := do
  let path ← Path.ofText text
  let start := if path.absolute then [] else files.workingDirectory
  let trailingSlash := path.trailingSlash
  match path.names.getLast? with
  | none => return { directory := start, last := .here, trailingSlash }
  | some last =>
      let directory ← path.names.dropLast.foldlM files.enter start
      if last = "." ∨ last = ".." then
        return { directory := ← files.enter directory last, last := .here, trailingSlash }
      else return { directory, last := .name last, trailingSlash }

/-- What a path leads to.  A file is not found under a path that asks for a
directory. -/
def find (files : FileSystem) (text : String) : Except IoFault Entry := do
  let target ← files.locate text
  match target.last with
  | .here => return .directory
  | .name name =>
      match ← files.lookUp target.directory name with
      | none => throw (.os .noEntry)
      | some .directory => return .directory
      | some (.file id) =>
          if target.trailingSlash then throw (.os .notDirectory)
          return .file id

/-- The file that a path leads to, whoever may read it. -/
def fileAt? (files : FileSystem) (text : String) : Option StoredFile :=
  match files.find text with
  | .ok (.file id) => some (files.file id)
  | _ => none

def isFile (files : FileSystem) (text : String) : Bool :=
  (files.fileAt? text).isSome

/-- What a path leads to, if it may be opened for reading. -/
def findReadable (files : FileSystem) (text : String) : Except IoFault Entry := do
  match ← files.find text with
  | .directory => return .directory
  | .file id =>
      if !(files.file id).isReadable then
        throw (.os .accessDenied)
      return .file id

/-- The file that a path leads to, for reading; reading a directory fails. -/
def read (files : FileSystem) (text : String) : Except IoFault StoredFile := do
  match ← files.findReadable text with
  | .directory => throw (.os .isDirectory)
  | .file id => return files.file id

/-- Let a place lead elsewhere or nowhere. -/
def setEntry (files : FileSystem) (place : Place) (entry : Option Entry) : FileSystem :=
  { files with entryAt? := fun other => if other = place then entry else files.entryAt? other }

/-- Replace a file, its identity remaining. -/
def setFile (files : FileSystem) (id : FileId) (stored : StoredFile) : FileSystem :=
  { files with file := fun other => if other = id then stored else files.file other }

@[simp] theorem entryAt?_setEntry_self (files : FileSystem) (place : Place)
    (entry : Option Entry) : (files.setEntry place entry).entryAt? place = entry := by
  simp [setEntry]

theorem entryAt?_setEntry_of_ne (files : FileSystem) (place other : Place)
    (entry : Option Entry) (different : other ≠ place) :
    (files.setEntry place entry).entryAt? other = files.entryAt? other := by
  simp [setEntry, different]

@[simp] theorem file_setEntry (files : FileSystem) (place : Place) (entry : Option Entry) :
    (files.setEntry place entry).file = files.file := rfl

@[simp] theorem file_setFile_self (files : FileSystem) (id : FileId) (stored : StoredFile) :
    (files.setFile id stored).file id = stored := by
  simp [setFile]

theorem file_setFile_of_ne (files : FileSystem) (id other : FileId) (stored : StoredFile)
    (different : other ≠ id) : (files.setFile id stored).file other = files.file other := by
  simp [setFile, different]

@[simp] theorem entryAt?_setFile (files : FileSystem) (id : FileId) (stored : StoredFile) :
    (files.setFile id stored).entryAt? = files.entryAt? := rfl

def setContent (files : FileSystem) (id : FileId) (content : Bytes) : FileSystem :=
  files.setFile id
    { content, permissions := permissionsAfterWriting (files.file id).permissions }

/-- Replace the content of a file by way of a mapping, which asks for no permissions. -/
def setOctets (files : FileSystem) (id : FileId) (content : Bytes) : FileSystem :=
  files.setFile id { files.file id with content }

/-- Make a new file at a free place. -/
def addFile (files : FileSystem) (place : Place) (stored : StoredFile) :
    FileId × FileSystem :=
  let id := files.nextFile
  let grown := { files with nextFile := id + 1 }
  (id, (grown.setFile id stored).setEntry place (some (.file id)))

/-- Replace the content of a file, which is created if there is none.  A path that
asks for a directory is refused before its last name is looked up. -/
def write (files : FileSystem) (text : String) (content : Bytes) :
    Except IoFault FileSystem := do
  let target ← files.locate text
  match target.last with
  | .here => throw (.os .isDirectory)
  | .name name =>
      if target.trailingSlash then
        throw (.os .isDirectory)
      match ← files.lookUp target.directory name with
      | some .directory => throw (.os .isDirectory)
      | some (.file id) =>
          if !(files.file id).isWritable then
            throw (.os .accessDenied)
          return files.setContent id content
      | none =>
          let place := target.directory ++ [name]
          return (files.addFile place { content, permissions := plainPermissions }).2

/-- Create an empty file where there is nothing yet.  A path that asks for a
directory is refused before its last name is looked up. -/
def create (files : FileSystem) (text : String) (permissions : Nat) :
    Except IoFault (FileId × FileSystem) := do
  let target ← files.locate text
  match target.last with
  | .here => throw (.os .fileExists)
  | .name name =>
      if target.trailingSlash then
        throw (.os .isDirectory)
      match ← files.lookUp target.directory name with
      | some _ => throw (.os .fileExists)
      | none =>
          let place := target.directory ++ [name]
          return files.addFile place { permissions := grantedPermissions permissions }

def remove (files : FileSystem) (text : String) : Except IoFault FileSystem := do
  let target ← files.locate text
  match target.last with
  | .here => throw (.os .isDirectory)
  | .name name =>
      match ← files.lookUp target.directory name with
      | none => throw (.os .noEntry)
      | some .directory => throw (.os .isDirectory)
      | some (.file _) =>
          if target.trailingSlash then
            throw (.os .notDirectory)
          return files.setEntry (target.directory ++ [name]) none

/-- Create a directory where there is nothing yet. -/
def makeDirectory (files : FileSystem) (text : String) : Except IoFault FileSystem := do
  let target ← files.locate text
  match target.last with
  | .here => throw (.os .fileExists)
  | .name name =>
      match ← files.lookUp target.directory name with
      | some _ => throw (.os .fileExists)
      | none => return files.setEntry (target.directory ++ [name]) (some .directory)

end FileSystem
end MappedTables
