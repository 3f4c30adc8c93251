import Pageflow.Text.Parts
/-!
The arguments of a command: options, which start with a dash, and operands. An option takes its
value from the next argument, whatever that looks like, or from the same one: `--name=value`,
`-nvalue`. Short options without values can be joined, and everything after `--` is an operand.
-/
namespace Pageflow.Console

/-- An option of a command. -/
structure Choice where
  /-- The name after two dashes. -/
  name : String
  /-- The letter after one dash. -/
  letter : Option Char := none
  takesValue : Bool := false

/-- How arguments can fail to fit a command. -/
inductive Misuse where
  | unknownOption (text : String)
  | missingValue (option : String)
  | unexpectedValue (option : String)
  | missingOperand (name : String)
  | unexpectedOperand (text : String)
  | missingCommand
  | unknownCommand (name : String)
deriving DecidableEq

def Misuse.message : Misuse → String
  | .unknownOption text => "No such option: " ++ text
  | .missingValue option => "Option '--" ++ option ++ "' requires an argument."
  | .unexpectedValue option => "Option '--" ++ option ++ "' does not take a value."
  | .missingOperand name => "Missing argument '" ++ name ++ "'."
  | .unexpectedOperand text => "Got unexpected extra argument (" ++ text ++ ")"
  | .missingCommand => "Missing command."
  | .unknownCommand name => "No such command '" ++ name ++ "'."

/-- What was found among arguments: options with their values, which are empty where an option takes
none, and operands, both in order. -/
structure Arguments where
  options : List (String × String) := []
  operands : List String := []
deriving DecidableEq

namespace Arguments

def addOption (a : Arguments) (name value : String) : Arguments :=
  { a with options := a.options ++ [(name, value)] }

def addOperands (a : Arguments) (operands : List String) : Arguments :=
  { a with operands := a.operands ++ operands }

/-- Whether an option was given. -/
def has (a : Arguments) (name : String) : Bool := a.options.any (·.1 = name)

/-- The values of an option, in order. -/
def values (a : Arguments) (name : String) : List String :=
  (a.options.filter (·.1 = name)).map (·.2)

/-- The value of an option; of several the last one counts. -/
def value? (a : Arguments) (name : String) : Option String := (a.values name).getLast?

/-- Options in one argument: those that are complete, and one that waits for its value. -/
abbrev Cluster := Arguments × Option String

/-- The options of an argument with one dash, letter by letter. -/
def ofLetters (choices : List Choice) (a : Arguments) : List Char → Except Misuse Cluster
  | [] => .ok (a, none)
  | c :: cs =>
    match choices.find? (·.letter = some c) with
    | none => .error (.unknownOption (String.ofList ['-', c]))
    | some choice =>
      if !choice.takesValue then ofLetters choices (a.addOption choice.name "") cs
      else if cs.isEmpty then .ok (a, some choice.name)
      else .ok (a.addOption choice.name (String.ofList cs), none)

/-- The option of an argument with two dashes: its name and the value after an equals sign. -/
def ofName (choices : List Choice) (a : Arguments) (text : String) (value : Option String) :
    Except Misuse Cluster :=
  match choices.find? fun choice => "--" ++ choice.name = text, value with
  | none, _ => .error (.unknownOption text)
  | some choice, value =>
    match choice.takesValue, value with
    | true, some value => .ok (a.addOption choice.name value, none)
    | true, none => .ok (a, some choice.name)
    | false, some _ => .error (.unexpectedValue choice.name)
    | false, none => .ok (a.addOption choice.name "", none)

/-- The options of an argument that starts with a dash. -/
def ofDashed (choices : List Choice) (a : Arguments) (cs : List Char) : Except Misuse Cluster :=
  match cs with
  | '-' :: '-' :: _ =>
    match Text.cutAt? ['='] cs with
    | some (name, value) => ofName choices a (String.ofList name) (some (String.ofList value))
    | none => ofName choices a (String.ofList cs) none
  | _ => ofLetters choices a (cs.drop 1)

/-- Whether an argument gives options: a dash alone does not. -/
def isDashed (s : String) : Bool := Text.startsWith s "-" && s ≠ "-"

/-- Reads arguments. `mixed` says whether options may follow operands; `waiting` names the option
that takes the next argument as its value. -/
def scan (choices : List Choice) (mixed : Bool) (a : Arguments) (waiting : Option String) :
    List String → Except Misuse Arguments
  | [] =>
    match waiting with
    | some name => .error (.missingValue name)
    | none => .ok a
  | s :: rest =>
    match waiting with
    | some name => scan choices mixed (a.addOption name s) none rest
    | none =>
      if s = "--" then .ok (a.addOperands rest)
      else if isDashed s then
        match ofDashed choices a s.toList with
        | .ok (a, waiting) => scan choices mixed a waiting rest
        | .error misuse => .error misuse
      else if mixed then scan choices mixed (a.addOperands [s]) none rest
      else .ok (a.addOperands (s :: rest))

/-- Reads arguments among which options may stand anywhere. -/
def read (choices : List Choice) (arguments : List String) : Except Misuse Arguments :=
  scan choices true {} none arguments

/-- Reads arguments up to the first operand, which begins a command of its own. -/
def readLeading (choices : List Choice) (arguments : List String) : Except Misuse Arguments :=
  scan choices false {} none arguments

end Arguments
end Pageflow.Console
