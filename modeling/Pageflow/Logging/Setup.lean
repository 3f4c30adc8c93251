import Pageflow.Fault
import Pageflow.Settings.Environment
import Pageflow.Text.Blank
/-!
Logging setup: the level of the root logger and how its handlers format. Outside the local
environment a call replaces the handlers by one that writes JSON lines; inside it, a call sets up
plain text only if there is no handler yet.
-/
namespace Pageflow.Logging

/-- The state of the root logger and of the two client loggers that are kept quiet. -/
structure State where
  level : Int
  /-- Per handler, whether it writes JSON lines. -/
  handlers : List Bool
  httpx : Int
  httpcore : Int
deriving DecidableEq

/-- Before any call: warnings only, no handlers. -/
def State.initial : State := ⟨30, [], 0, 0⟩

/-- The levels by name. -/
def levels : List (String × Int) :=
  [("CRITICAL", 50), ("FATAL", 50), ("ERROR", 40), ("WARNING", 30), ("WARN", 30), ("INFO", 20),
    ("DEBUG", 10), ("NOTSET", 0)]

/-- Names that stand for something other than a level, and how asking for it as a level fails. -/
def misnomers : List (String × Fault) :=
  [("BASIC_FORMAT",
      .foreign "ValueError" "Unknown level: '%(levelname)s:%(name)s:%(message)s'"),
    ("_STYLES",
      .foreign "TypeError" ("Level not an integer or a valid string: " ++
        "\x7b'%': (<class 'logging.PercentStyle'>, '%(levelname)s:%(name)s:%(message)s'), " ++
        "'\x7b': (<class 'logging.StrFormatStyle'>, " ++
        "'\x7blevelname\x7d:\x7bname\x7d:\x7bmessage\x7d'), " ++
        "'$': (<class 'logging.StringTemplateStyle'>, " ++
        "'$\x7blevelname\x7d:$\x7bname\x7d:$\x7bmessage\x7d')\x7d"))]

/-- A given text, or the variable if it is empty or missing, or the default. -/
def pick (given : Option String) (name default : String) (env : Settings.Environment) :
    String :=
  match given with
  | some s => if s.isEmpty then (env.lookup name).getD default else s
  | none => (env.lookup name).getD default

/-- The characters whose capitals are several ASCII letters. -/
def ligatures : List (Char × List Char) :=
  [('ß', ['S', 'S']), ('ﬀ', ['F', 'F']), ('ﬁ', ['F', 'I']), ('ﬂ', ['F', 'L']),
    ('ﬃ', ['F', 'F', 'I']), ('ﬄ', ['F', 'F', 'L']), ('ﬅ', ['S', 'T']), ('ﬆ', ['S', 'T'])]

/-- A name in capitals, as far as these are ASCII letters. -/
def capitals (name : String) : String :=
  String.ofList (name.toList.flatMap fun c =>
    (ligatures.lookup c).getD [Text.upperToAscii c])

/-- The level of a name in capitals; an unknown name means 20. -/
def levelOf (name : String) : Result Int :=
  match levels.lookup name, misnomers.lookup name with
  | some n, _ => .ok n
  | none, some fault => .error fault
  | none, none => .ok 20

/-- What a call of the setup is given, and the variables that stand in for it. -/
structure Call where
  level : Option String
  name : Option String
  environment : Settings.Environment

/-- The name of the level that a call asks for, in capitals. -/
def Call.levelName (c : Call) : String :=
  capitals (pick c.level "PAGERUN_LOG_LEVEL" "INFO" c.environment)

/-- Whether a call is made in the local environment. -/
def Call.isLocal (c : Call) : Bool :=
  Text.trim (pick c.name "PAGERUN_ENV" "local" c.environment) == "local"

/-- One call of the setup. The handler is in place before the level is looked up. -/
def configure (s : State) (c : Call) : Result Unit × State :=
  if c.isLocal && !s.handlers.isEmpty then (.ok (), { s with httpx := 30, httpcore := 30 })
  else
    let s := { s with handlers := [!c.isLocal] }
    match levelOf c.levelName with
    | .ok n => (.ok (), { s with level := n, httpx := 30, httpcore := 30 })
    | .error fault => (.error fault, s)

end Pageflow.Logging
