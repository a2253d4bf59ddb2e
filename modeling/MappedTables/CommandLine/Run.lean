import MappedTables.CommandLine.Command
import MappedTables.Draft.File
import MappedTables.Fault
import MappedTables.Image.Build
import MappedTables.Image.File
import MappedTables.Image.Relocate
import MappedTables.Release
import MappedTables.Segment.Access
import MappedTables.Segment.Publish
import MappedTables.Text.Numeral

namespace MappedTables
namespace CommandLine

/-!
What the commands do.

Every command is a process of its own: it starts without open descriptors, and
only the files outlive it.  A command that succeeds prints its result; one that
fails prints the failure, and nothing else.
-/

/-- The name under which the program speaks. -/
def programName : String := "kb-shm"

/-- How a run of the program ends. -/
inductive Outcome where
  | printed (output : String)
  | failed (error : Error)
  | stopped (reason : Abort)
  | misused
  deriving DecidableEq, Repr

/-- A run of a command. -/
abbrev Run := ExceptT Fault (StateM Host)

namespace Run

/-- Take over an outcome that does not depend on the host. -/
def ofFault (outcome : Except Fault α) : Run α :=
  ExceptT.mk (pure outcome)

/-- Take over an outcome that does not depend on the host and cannot stop. -/
def ofExcept (outcome : Except Error α) : Run α :=
  ofFault (liftM outcome)

/-- Take over an outcome that can only stop. -/
def ofAbort (outcome : Except Abort α) : Run α :=
  ofFault (liftM outcome)

/-- Take over a session. -/
def ofSession (session : Session α) : Run α := fun host =>
  let (result, after) := session host
  (result.mapError .error, after)

/-- End the run with a failure. -/
def fail (error : Error) : Run α :=
  throw (.error error)

end Run

/-- A text as a line of output. -/
def line (text : String) : String :=
  text ++ "\n"

/-- The image of a text source, ready to leave the process. -/
def relocatedImage (draft : Draft) : Run Image := do
  let base := UInt64.ofNat (← get).freeAddress
  Run.ofExcept (← Run.ofFault (draft.build base)).relocated

def build (source output : String) : Run String := do
  let draft ← Run.ofExcept (Draft.ofFile (← get).files source)
  let image ← relocatedImage draft
  let host ← get
  let files ← Run.ofExcept (image.writeTo host.files output)
  set { host with files }
  let version := draft.version
  let headRows := draft.length .head
  let dataRows := draft.length .data
  let size := image.capacity
  return line
    s!"Built '{output}' (version '{version}', {headRows} head rows, {dataRows} data rows, {size} bytes)"

/-- The image that a file of the given kind holds or describes. -/
def imageOfFile (input : String) : VersionedFile -> Run Image
  | .source => do
      relocatedImage (← Run.ofExcept (Draft.ofFile (← get).files input))
  | .binary => do
      let host ← get
      Run.ofExcept (Image.ofFile host.files (UInt64.ofNat host.freeAddress) input)

def publish (input : String) (kind : VersionedFile) (segment : SegmentConfig) :
    Run String := do
  let image ← imageOfFile input kind
  let published ← Run.ofSession (segment.publish image)
  let name := published.config.name
  let backing := published.config.backing.name
  let size := published.capacity
  return line s!"Published '{name}' ({backing}, {size} bytes)"

def unlink (segment : SegmentConfig) : Run String := do
  Run.ofSession segment.unlink
  return ""

/-- Say that a segment is available, or fail. -/
def check (segment : SegmentConfig) : Run String := do
  if segment.isAvailable (← get).files then
    let name := segment.name
    return line s!"Segment '{name}' is available"
  else Run.fail (.notFound segment.name)

def attached (segment : SegmentConfig) : Run Container := do
  let handle ← Run.ofSession (SegmentHandle.attach segment)
  Run.ofExcept (handle.container (← get))

def info (segment : SegmentConfig) : Run String := do
  let stats := (← attached segment).stats
  let version := stats.version
  let capacity := stats.capacity
  let headRows := stats.headRows
  let headCapacity := stats.headCapacity
  let dataRows := stats.dataRows
  let dataCapacity := stats.dataCapacity
  let mode := stats.mode.name
  return line s!"Version:   {version}"
    ++ line s!"Capacity:  {capacity} bytes"
    ++ line s!"Head rows: {headRows} (capacity {headCapacity})"
    ++ line s!"Data rows: {dataRows} (capacity {dataCapacity})"
    ++ line s!"Mode:      {mode}"

/-- A numeral that was given for an option; only numbers below `limit` will do. -/
def number (option : OptionForm) (limit : Nat) (numeral : String) : Run Nat :=
  match numeral? limit numeral with
  | some value => return value
  | none => Run.fail (.invalidParameter (.notANumber option.long numeral))

def columnOf (query : Query) : Run UInt16 :=
  return UInt16.ofNat (← number columnOption UInt16.size query.column)

/-- The line asked for, which has to be given. -/
def lineOf (query : Query) (missing : Refusal) : Run UInt32 :=
  match query.line with
  | none => Run.fail (.invalidParameter missing)
  | some numeral => return UInt32.ofNat (← number lineOption UInt32.size numeral)

/-- The mark that a text of one octet stands for. -/
def markOf (text : String) : Run UInt8 :=
  match (Utf8.ofString text).toList with
  | [octet] => return octet
  | _ => Run.fail (.invalidParameter .headPrefixLength)

/-- A column as a line of output. -/
def columnLine (column : ColumnText) : String :=
  line (Utf8.decodeLossy column.octets)

def columnByLine (container : Container) (kind : TableKind) (query : Query)
    (column : UInt16) (missing : Refusal) : Run String := do
  let number ← lineOf query missing
  return columnLine (← Run.ofFault (container.columnAt kind number column))

/-- Look a column of a head row up by the mark of the row. -/
def columnByMark (container : Container) (text : String) (column : UInt16) :
    Run String := do
  let mark ← markOf text
  match ← Run.ofAbort (container.findHead mark column) with
  | none => Run.fail (.notFound s!"prefix '{text}'")
  | some found =>
      let number := found.line
      return line s!"line {number}" ++ columnLine found.text

def head (query : Query) : Run String := do
  let container ← attached query.segment
  let column ← columnOf query
  match query.mark with
  | some text => columnByMark container text column
  | none => columnByLine container .head query column .headLineMissing

def data (query : Query) : Run String := do
  let container ← attached query.segment
  let column ← columnOf query
  columnByLine container .data query column .dataLineMissing

def version (path : String) (kind : VersionedFile) : Run String := do
  return line (← modifyGet (kind.versionShown path))

namespace Command

def run : Command -> Run String
  | .build source output => CommandLine.build source output
  | .publish input kind segment => CommandLine.publish input kind segment
  | .unlink segment => CommandLine.unlink segment
  | .check segment => CommandLine.check segment
  | .info segment => CommandLine.info segment
  | .head query => CommandLine.head query
  | .data query => CommandLine.data query
  | .version path kind => CommandLine.version path kind

end Command

/-- What the program shows when it is asked for help. -/
def helpText : String :=
  line s!"usage: {programName} COMMAND [ARGUMENTS]"
    ++ line "commands:"
    ++ line "  build SOURCE OUTPUT"
    ++ line "  publish [--source] [-n NAME] [-f FILE] INPUT"
    ++ line "  unlink [-n NAME] [-f FILE]"
    ++ line "  check [-n NAME] [-f FILE]"
    ++ line "  info [-n NAME] [-f FILE]"
    ++ line "  head [-n NAME] [-f FILE] [-c COLUMN] (-l LINE | -p CHAR)"
    ++ line "  data [-n NAME] [-f FILE] [-c COLUMN] -l LINE"
    ++ line "  version [--bin] PATH"

/-- What the program shows when it is asked for its version. -/
def versionText : Option String -> String
  | none => line (programName ++ " " ++ currentRelease.text)
  | some command => line s!"{programName}-{command} "

/-- Run the program with the given arguments on the given files. -/
def run (arguments : List String) (files : FileSystem) : Outcome × FileSystem :=
  match Request.ofArguments arguments with
  | .refused => (.misused, files)
  | .showHelp => (.printed helpText, files)
  | .showVersion command => (.printed (versionText command), files)
  | .run command =>
      let (result, after) := command.run { files }
      match result with
      | .ok output => (.printed output, after.files)
      | .error (.error error) => (.failed error, after.files)
      | .error (.abort reason) => (.stopped reason, after.files)

namespace Outcome

def code : Outcome -> Nat
  | .printed _ => 0
  | .failed _ => 1
  | .stopped _ => 101
  | .misused => 1

/-- What the program prints. -/
def output : Outcome -> String
  | .printed output => output
  | _ => ""

/-- What the program says about a failure. -/
def diagnosis : Outcome -> String
  | .printed _ => ""
  | .failed error =>
      let message := error.message
      line s!"{programName}: {message}"
  | .stopped _ => line s!"{programName} stopped"
  | .misused => helpText

end Outcome
end CommandLine
end MappedTables
