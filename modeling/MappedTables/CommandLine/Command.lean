import MappedTables.CommandLine.Arguments
import MappedTables.Segment.Config
import MappedTables.VersionTag.File

namespace MappedTables
namespace CommandLine

/-!
The commands of the program.

The first argument names a command and the others belong to it.  Numbers and
marks are kept as the texts that were given, because whether they make sense is
looked at only after the segment has been attached.
-/

/-- What to look up in a table, as it was given. -/
structure Query where
  segment : SegmentConfig
  line : Option String
  column : String
  mark : Option String := none
  deriving DecidableEq, Repr

/-- A command with its arguments. -/
inductive Command where
  | build (source output : String)
  | publish (input : String) (kind : VersionedFile) (segment : SegmentConfig)
  | unlink (segment : SegmentConfig)
  | check (segment : SegmentConfig)
  | info (segment : SegmentConfig)
  | head (query : Query)
  | data (query : Query)
  | version (path : String) (kind : VersionedFile)
  deriving DecidableEq, Repr

/-- What the arguments of the program ask for. -/
inductive Request where
  | run (command : Command)
  | showHelp
  /-- Show the version of the program; `command` is the command asked about, if
  it was one. -/
  | showVersion (command : Option String)
  | refused
  deriving DecidableEq, Repr

/-- The segment that is meant when none is named. -/
def unnamedSegment : SegmentConfig := {}

/-- The column that is meant when none is given. -/
def firstColumn : String := "1"

/-- The option for the name of a segment. -/
def nameOption : OptionForm :=
  { long := "name", short := 'n', usual := unnamedSegment.name }

/-- The option for the file of a file-backed segment. -/
def fileOption : OptionForm := { long := "file", short := 'f' }

def lineOption : OptionForm := { long := "line", short := 'l' }

def columnOption : OptionForm :=
  { long := "column", short := 'c', usual := firstColumn }

/-- The option for the mark of a head row. -/
def markOption : OptionForm := { long := "prefix", short := 'p' }

/-- The flag that says that the input is a text source. -/
def sourceFlag : OptionName := { long := "source" }

/-- The flag that says that the file is a binary one. -/
def binaryFlag : OptionName := { long := "bin" }

/-- The options that say which segment is meant. -/
def segmentOptions : List OptionForm := [nameOption, fileOption]

/-- The options that say what to look up. -/
def lookupOptions : List OptionForm := segmentOptions ++ [lineOption, columnOption]

def segmentOf (arguments : Arguments) : SegmentConfig :=
  let name := (arguments.value? nameOption).getD unnamedSegment.name
  match arguments.value? fileOption with
  | none => SegmentConfig.named name
  | some path => SegmentConfig.inFile name path

def queryOf (arguments : Arguments) : Query where
  segment := segmentOf arguments
  line := arguments.value? lineOption
  column := (arguments.value? columnOption).getD firstColumn
  mark := arguments.value? markOption

/-- A command before its arguments are known. -/
structure CommandForm where
  name : String
  shape : Shape
  command? : Arguments -> Option Command

def commandForms : List CommandForm :=
  [ { name := "build"
      shape := { operands := 2 }
      command? arguments :=
        match arguments.operands with
        | [source, output] => some (.build source output)
        | _ => none },
    { name := "publish"
      shape := { options := segmentOptions, flags := [sourceFlag], operands := 1 }
      command? arguments :=
        match arguments.operands with
        | [input] =>
            let kind := if arguments.hasFlag sourceFlag.long then .source else .binary
            some (.publish input kind (segmentOf arguments))
        | _ => none },
    { name := "unlink"
      shape := { options := segmentOptions }
      command? arguments := some (.unlink (segmentOf arguments)) },
    { name := "check"
      shape := { options := segmentOptions }
      command? arguments := some (.check (segmentOf arguments)) },
    { name := "info"
      shape := { options := segmentOptions }
      command? arguments := some (.info (segmentOf arguments)) },
    { name := "head"
      shape := { options := lookupOptions ++ [markOption] }
      command? arguments :=
        let query := queryOf arguments
        if query.line.isSome ∧ query.mark.isSome then none else some (.head query) },
    { name := "data"
      shape := { options := lookupOptions }
      command? arguments := some (.data (queryOf arguments)) },
    { name := "version"
      shape := { flags := [binaryFlag], operands := 1 }
      command? arguments :=
        match arguments.operands with
        | [path] =>
            let kind := if arguments.hasFlag binaryFlag.long then .binary else .source
            some (.version path kind)
        | _ => none } ]

namespace CommandForm

def request (form : CommandForm) (arguments : List String) : Request :=
  match Arguments.read form.shape arguments with
  | .complete given =>
      match form.command? given with
      | some command => .run command
      | none => .refused
  | .helpWanted => .showHelp
  | .versionWanted => .showVersion (some form.name)
  | .refused => .refused

end CommandForm

namespace Request

/-- Whether help can be shown about what is named: about nothing in particular,
one of the commands, or help itself. -/
def isHelpTopic : List String -> Bool
  | [] => true
  | [topic] => topic = helpFlag.long || commandForms.any (·.name = topic)
  | _ => false

/-- Read the arguments of the program. -/
def ofArguments : List String -> Request
  | [] => .refused
  | first :: rest =>
      match commandForms.find? (·.name = first) with
      | some form => form.request rest
      | none =>
          if first = helpFlag.long then
            if isHelpTopic rest then .showHelp else .refused
          else if isDashed first then
            match Token.ofArgument {} first with
            | .help => .showHelp
            | .version => .showVersion none
            | _ => .refused
          else .refused

end Request
end CommandLine
end MappedTables
