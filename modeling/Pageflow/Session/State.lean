import Pageflow.Browser.Call
import Pageflow.Settings.Basic
/-!
The state of the browser session: the browser context in hand, who is to be told when it goes
away, and the queue of those who want to launch or close it.
-/
namespace Pageflow.Session

/-- How the browser is launched and how its pages are set up. -/
structure Options where
  profile : String
  headless : Bool := true
  executable : String := ""
  channel : String := ""
  width : Int := 1920
  height : Int := 1080
  arguments : List String := []
  timeoutMs : Int := 15000
  navigationTimeoutMs : Int := 60000
  /-- Whether a driver has to be started before the first launch. -/
  driven : Bool := true
deriving DecidableEq

namespace Options

/-- The options that the settings ask for. -/
def ofSettings (s : BrowserSettings) (headless : Option Bool) : Options :=
  { profile := (Path.ofString s.profileDir).toString, headless := headless.getD s.headless
    executable := s.executablePath, channel := s.channel, width := s.viewportWidth
    height := s.viewportHeight, arguments := s.launchArgs, timeoutMs := s.defaultTimeoutMs
    navigationTimeoutMs := s.navigationTimeoutMs }

/-- The options as the browser is told them. -/
def launchOptions (o : Options) : Json :=
  let extra (name value : String) : List (String × Json) :=
    if value.isEmpty then [] else [(name, .str value)]
  .obj ([("headless", .bool o.headless),
    ("viewport", .obj [("width", .int o.width), ("height", .int o.height)]),
    ("args", .arr (o.arguments.map .str))] ++
    extra "executable_path" o.executable ++ extra "channel" o.channel)

end Options

/-- The state of a session. -/
structure State where
  /-- The context in hand. -/
  context : Option Browser.ContextRef
  /-- Who is told when the context goes away. -/
  observers : List String
  /-- The observers told so far, in the order they were told. -/
  told : List String
  /-- Whether the driver has been started and not stopped since. -/
  driverStarted : Bool
  /-- The tickets of those who hold or want the lock, the holder first. -/
  queue : List Nat
  nextTicket : Nat
  /-- The observers that fail when they are told. -/
  failing : List String
deriving DecidableEq

namespace State

def initial : State := ⟨none, [], [], false, [], 0, []⟩

/-- Whether a context is in hand. -/
def isLive (s : State) : Bool := s.context.isSome

def observe (s : State) (name : String) : State := { s with observers := s.observers ++ [name] }

/-- Adds an observer that fails whenever it is told. -/
def observeFailing (s : State) (name : String) : State :=
  { s.observe name with failing := name :: s.failing }

/-- Tells one observer. It has been told even if it fails. -/
def tell (s : State) (name : String) : Result Unit × State :=
  (if name ∈ s.failing then .error (.foreign "Exception" name) else .ok (),
    { s with told := s.told ++ [name] })

/-- Tells observers one after the other; a failure is passed over. -/
def tellAll : List String → State → State
  | [], s => s
  | name :: rest, s => match s.tell name with
    | (.ok _, s) => tellAll rest s
    | (.error _, s) => tellAll rest s

/-- Lets go of the context, if there is one, and tells the observers. -/
def drop (s : State) : State :=
  if s.isLive then tellAll s.observers { s with context := none } else s

/-- A context of this session was closed: whichever context is in hand is let go of. -/
def contextClosed (s : State) (_context : Browser.ContextRef) : State := s.drop

/-- Takes a ticket for the lock. -/
def enqueue (s : State) : Nat × State :=
  (s.nextTicket, { s with queue := s.queue ++ [s.nextTicket], nextTicket := s.nextTicket + 1 })

/-- Gives a ticket back. -/
def leave (s : State) (ticket : Nat) : State := { s with queue := s.queue.filter (· ≠ ticket) }

/-- Whether a ticket holds the lock. -/
def holds (s : State) (ticket : Nat) : Bool := s.queue.head? = some ticket

end State
end Pageflow.Session
