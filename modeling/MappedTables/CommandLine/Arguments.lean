namespace MappedTables
namespace CommandLine

/-!
Arguments as options, flags and operands.

An argument that starts with two dashes names an option or flag; its value may
follow after an equals sign.  An argument that starts with one dash and is
longer than that gives an option by its letter, and what follows the letter,
equals signs in front of it left out, is the value.  An option without a value
takes it from the next argument unless that starts with a dash itself; if it
finds none there, it has its usual value, and has to have one.  After an argument
of two dashes everything is an operand, as is a single dash.

Flaws are of two kinds.  Some end the reading at once; the others, a missing
value or an option given twice, matter only when the reading has come to the
end, so that a request for help or for the version is granted in spite of them.
-/

/-- A name that options and flags go by. -/
structure OptionName where
  long : String
  short : Option Char := none
  deriving DecidableEq, Repr

/-- An option, which has a value: the usual one if none is given. -/
structure OptionForm extends OptionName where
  usual : Option String := none
  deriving DecidableEq, Repr

/-- The arguments that a command takes; no operand can be left out. -/
structure Shape where
  options : List OptionForm := []
  flags : List OptionName := []
  operands : Nat := 0
  deriving DecidableEq, Repr

/-- The arguments of a command, in the order in which they were given. -/
structure Arguments where
  options : List (String × Option String) := []
  flags : List String := []
  operands : List String := []
  deriving DecidableEq, Repr

/-- What reading the arguments has come to. -/
inductive Reading (α : Type) where
  | complete (result : α)
  | helpWanted
  | versionWanted
  | refused
  deriving DecidableEq, Repr

/-- What a single argument gives. -/
inductive Token where
  /-- An option; its value may be still to come. -/
  | option (name : String) (value : Option String)
  | flag (name : String)
  | help
  | version
  | unknown
  deriving DecidableEq, Repr

def helpFlag : OptionName := { long := "help", short := 'h' }

def versionFlag : OptionName := { long := "version", short := 'V' }

/-- A text without the equals signs in front of it. -/
def dropEquals (text : List Char) : String :=
  String.ofList (text.dropWhile (· = '='))

/-- Whether an argument gives an option or flag rather than a value. -/
def isDashed (argument : String) : Bool :=
  match argument.toList with
  | '-' :: _ :: _ => true
  | _ => false

namespace Token

/-- What the word of a dashed argument gives. -/
def ofWord (shape : Shape) (word : List Char) : Token :=
  let name := String.ofList (word.takeWhile (· ≠ '='))
  let value :=
    match word.dropWhile (· ≠ '=') with
    | [] => none
    | _ :: value => some (dropEquals value)
  if shape.options.any (·.long = name) then .option name value
  else if name = helpFlag.long then .help
  else if name = versionFlag.long then .version
  else if shape.flags.any (·.long = name) then .flag name
  else .unknown

/-- What the letters of a dashed argument give. -/
def ofLetters (shape : Shape) : List Char -> Token
  | [] => .unknown
  | letter :: value =>
      match shape.options.find? (·.short = some letter) with
      | some form => .option form.long (if value = [] then none else some (dropEquals value))
      | none =>
          if helpFlag.short = some letter then .help
          else if versionFlag.short = some letter then .version
          else .unknown

/-- What a dashed argument gives.  Further dashes in front of a word make no
difference. -/
def ofArgument (shape : Shape) (argument : String) : Token :=
  match argument.toList with
  | '-' :: '-' :: word => ofWord shape (word.dropWhile (· = '-'))
  | '-' :: letters => ofLetters shape letters
  | _ => .unknown

end Token

namespace Arguments

/-- The value given to an option. -/
def given? (arguments : Arguments) (option : OptionForm) : Option String :=
  (arguments.options.lookup option.long).join

/-- The value of an option, the usual one if none is given. -/
def value? (arguments : Arguments) (option : OptionForm) : Option String :=
  arguments.given? option <|> option.usual

def hasFlag (arguments : Arguments) (name : String) : Bool :=
  arguments.flags.contains name

def addOption (arguments : Arguments) (name : String) (value : Option String) : Arguments :=
  { arguments with options := arguments.options ++ [(name, value)] }

def addFlag (arguments : Arguments) (name : String) : Arguments :=
  { arguments with flags := arguments.flags ++ [name] }

def addOperands (arguments : Arguments) (operands : List String) : Arguments :=
  { arguments with operands := arguments.operands ++ operands }

/-- Whether every option and flag was given once at most. -/
def areDistinct (arguments : Arguments) : Bool :=
  decide ((arguments.options.map (·.1)).Nodup) && decide arguments.flags.Nodup

/-- Whether every option that was given has a value. -/
def haveValues (arguments : Arguments) (shape : Shape) : Bool :=
  shape.options.all fun option =>
    (arguments.options.lookup option.long).isNone || (arguments.value? option).isSome

/-- What arguments come to when there are no more of them. -/
def finish (shape : Shape) (arguments : Arguments) : Reading Arguments :=
  if arguments.haveValues shape ∧ arguments.areDistinct
      ∧ arguments.operands.length = shape.operands then
    .complete arguments
  else .refused

/-- Read arguments behind those that were read before. -/
def readFrom (shape : Shape) (before : Arguments) : List String -> Reading Arguments
  | [] => finish shape before
  | argument :: rest =>
      if argument = "--" then
        let all := before.addOperands rest
        if shape.operands < all.operands.length then .refused else finish shape all
      else if isDashed argument then
        match Token.ofArgument shape argument with
        | .unknown => .refused
        | .help => .helpWanted
        | .version => .versionWanted
        | .flag name => readFrom shape (before.addFlag name) rest
        | .option name (some value) => readFrom shape (before.addOption name (some value)) rest
        | .option name none =>
            match rest with
            | [] => finish shape (before.addOption name none)
            | value :: others =>
                if isDashed value then
                  readFrom shape (before.addOption name none) (value :: others)
                else readFrom shape (before.addOption name (some value)) others
      else
        let all := before.addOperands [argument]
        if shape.operands < all.operands.length then .refused
        else readFrom shape all rest

/-- Read the arguments of a command. -/
def read (shape : Shape) (arguments : List String) : Reading Arguments :=
  readFrom shape {} arguments

end Arguments
end CommandLine
end MappedTables
