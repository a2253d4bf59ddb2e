import MappedTables.CommandLine.Run

namespace MappedTables

/-!
The program.

A run is computed on a copy of those places in the real file system that the
arguments can lead to, and the differences are written back.  All the rest of
this module is reading and writing.
-/

/-- The paths that a command can follow. -/
def CommandLine.Command.paths : CommandLine.Command -> List String
  | .build source output => [source, output]
  | .publish input _ segment => [input, segment.objectPath]
  | .unlink segment => [segment.objectPath]
  | .check segment => [segment.objectPath]
  | .info segment => [segment.objectPath]
  | .head query => [query.segment.objectPath]
  | .data query => [query.segment.objectPath]
  | .version path _ => [path]

/-- A place as a path. -/
def pathOf (place : Place) : String :=
  "/" ++ String.intercalate "/" place

/-- The place to which a name leads from a place. -/
def stepTo (place : Place) (name : String) : Place :=
  if name = "." then place
  else if name = ".." then place.dropLast
  else place ++ [name]

/-- The places that are passed when a path is followed, the last one included. -/
def placesAlong (start : Place) : List String -> List Place
  | [] => []
  | name :: rest => stepTo start name :: placesAlong (stepTo start name) rest

/-- The places that are passed when a text is followed as a path. -/
def placesOf (workingDirectory : Place) (text : String) : List Place :=
  match Path.ofText text with
  | .error _ => []
  | .ok path => placesAlong (if path.absolute then [] else workingDirectory) path.names

/-- Permissions under which the process can do with a copy what it can do with the
real file at a path. -/
def permissionsOf (path : String) : IO Nat := do
  try
    let _ ← IO.FS.Handle.mk path .readWrite
    return FileSystem.plainPermissions
  catch _ => return FileSystem.readOnlyPermissions

/-- Copy what a real place leads to. -/
def load (files : FileSystem) (place : Place) : IO FileSystem := do
  if (files.entryAt? place).isSome then
    return files
  try
    let content ← IO.FS.readBinFile (pathOf place)
    let permissions ← permissionsOf (pathOf place)
    return (files.addFile place { content := content.data, permissions }).2
  catch
    | .noFileOrDirectory _ _ _ => return files
    | .invalidArgument _ _ _ => return files
    | .permissionDenied _ _ _ => return (files.addFile place {}).2
    | .inappropriateType _ _ _ => return files.setEntry place (some .directory)
    | .resourceExhausted _ _ _ => return files.setEntry place (some .directory)
    | .illegalOperation _ _ => return files.setEntry place (some .directory)
    | error => throw error

/-- The rights that permissions grant to one class of users. -/
def accessRight (bits : Nat) : IO.AccessRight where
  read := bits / 4 % 2 = 1
  write := bits / 2 % 2 = 1
  execution := bits % 2 = 1

/-- Make a real place lead to what it leads to after the run. -/
def save (before after : FileSystem) (place : Place) : IO Unit := do
  let path := pathOf place
  match before.entryAt? place, after.entryAt? place with
  | some (.file _), none => IO.FS.removeFile path
  | earlier, some (.file id) =>
      let stored := after.file id
      let fresh := earlier ≠ some (.file id)
      if fresh ∨ (before.file id).content ≠ stored.content then
        IO.FS.writeBinFile path ⟨stored.content⟩
      if fresh then
        let bits := stored.permissions
        IO.setAccessRights path
          { user := accessRight (bits / 64)
            group := accessRight (bits / 8)
            other := accessRight bits }
  | _, _ => return ()

/-- Compute a run on a copy of the files and carry it out. -/
def runProgram (arguments : List String) : IO CommandLine.Outcome := do
  let current := (← IO.currentDir).toString
  let workingDirectory := Path.namesOf current.toList
  let paths :=
    match CommandLine.Request.ofArguments arguments with
    | .run command => command.paths
    | _ => []
  let places := paths.flatMap (placesOf workingDirectory)
  let before ← places.foldlM load (FileSystem.initial workingDirectory)
  let (outcome, after) := CommandLine.run arguments before
  places.eraseDups.forM (save before after)
  return outcome

end MappedTables

def main (arguments : List String) : IO UInt32 := do
  let outcome ← MappedTables.runProgram arguments
  IO.print outcome.output
  IO.eprint outcome.diagnosis
  return UInt32.ofNat outcome.code
