import Pageflow.Console.Arguments
/-!
The commands of the program and how they are given on the command line.
-/
namespace Pageflow.Console

/-- What a run is asked to do. -/
structure RunOrder where
  file : String
  /-- Placeholder values as `key=value`. -/
  pairs : List String
  input : Option String
  taskId : Option String
  asJson : Bool
  headed : Bool
  withoutPauses : Bool
deriving DecidableEq

/-- A command. A directory that is left out is the one that the settings name. -/
inductive Command where
  | help
  | version
  | run (order : RunOrder)
  | login (url : String)
  | listWorkflows (directory : Option String) (asJson : Bool)
  | showWorkflow (id : String) (directory : Option String) (asJson : Bool)
  | validateWorkflow (file : String)
  | showSettings
  | validateSettings
deriving DecidableEq

namespace Command

/-- Asks for help; it goes before everything else that is well given. -/
def helpChoice : Choice := { name := "help" }

def jsonChoice : Choice := { name := "json", letter := some 'j' }

def directoryChoice : Choice := { name := "dir", letter := some 'd', takesValue := true }

def runChoices : List Choice :=
  [{ name := "param", letter := some 'p', takesValue := true },
    { name := "input", letter := some 'i', takesValue := true },
    { name := "task-id", takesValue := true }, jsonChoice, { name := "headed" },
    { name := "no-pause" }]

/-- The page that a login opens if none is named. -/
def blankPage : String := "about:blank"

/-- Reads the arguments of a command with the operands that `finish` takes. -/
def read (choices : List Choice) (finish : Arguments → List String → Except Misuse Command)
    (arguments : List String) : Except Misuse Command := do
  let a ← Arguments.read (helpChoice :: choices) arguments
  if a.has helpChoice.name then pure .help else finish a a.operands

/-- A command that takes no operands. -/
def withoutOperands (command : Command) : List String → Except Misuse Command
  | [] => .ok command
  | extra :: _ => .error (.unexpectedOperand extra)

/-- A command that takes one operand. -/
def withOperand (name : String) (command : String → Command) : List String → Except Misuse Command
  | [] => .error (.missingOperand name)
  | [operand] => .ok (command operand)
  | _ :: extra :: _ => .error (.unexpectedOperand extra)

/-- A command that takes one operand or none. -/
def withOptionalOperand (default : String) (command : String → Command) :
    List String → Except Misuse Command
  | [] => .ok (command default)
  | operands => withOperand "" command operands

def ofRun : List String → Except Misuse Command :=
  read runChoices fun a =>
    withOperand "WORKFLOW_FILE" fun file =>
      .run ⟨file, a.values "param", a.value? "input", a.value? "task-id", a.has "json",
        a.has "headed", a.has "no-pause"⟩

def ofLogin : List String → Except Misuse Command :=
  read [] fun _ => withOptionalOperand blankPage .login

/-- A command of a group. -/
abbrev Member := String × (List String → Except Misuse Command)

def workflowCommands : List Member :=
  [("list", read [jsonChoice, directoryChoice] fun a =>
      withoutOperands (.listWorkflows (a.value? "dir") (a.has "json"))),
    ("show", read [jsonChoice, directoryChoice] fun a =>
      withOperand "WORKFLOW_ID" fun id => .showWorkflow id (a.value? "dir") (a.has "json")),
    ("validate", read [] fun _ => withOperand "PATH" .validateWorkflow)]

def settingsCommands : List Member :=
  [("show", read [] fun _ => withoutOperands .showSettings),
    ("validate", read [] fun _ => withoutOperands .validateSettings)]

/-- The member of a group that a name stands for. -/
def member (members : List Member) (name : String) :
    Except Misuse (List String → Except Misuse Command) :=
  match members.lookup name with
  | some command => .ok command
  | none => .error (.unknownCommand name)

/-- Reads the arguments of a group of commands. -/
def ofGroup (members : List Member) (arguments : List String) : Except Misuse Command := do
  let a ← Arguments.readLeading [helpChoice] arguments
  if a.has helpChoice.name then pure .help
  else
    match a.operands with
    | [] => throw .missingCommand
    | name :: rest => (← member members name) rest

/-- All commands by name. -/
def commands : List Member :=
  [("run", ofRun), ("login", ofLogin), ("workflows", ofGroup workflowCommands),
    ("settings", ofGroup settingsCommands)]

/-- Options that stand before the command. -/
def leadingChoices : List Choice :=
  [helpChoice, { name := "version" }, { name := "log-level", takesValue := true }]

/-- The command that a command line gives. Without a command it asks for help. -/
def ofArguments (arguments : List String) : Except Misuse Command := do
  let a ← Arguments.readLeading leadingChoices arguments
  if a.has "help" then pure .help
  else
    match a.operands with
    | [] => pure (if a.has "version" then .version else .help)
    | name :: rest =>
      let command ← member commands name
      if a.has "version" then pure .version else command rest

end Command
end Pageflow.Console
