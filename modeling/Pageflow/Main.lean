import Pageflow.Console.Perform
import Std.Time.DateTime.Timestamp
/-!
The program. A command is carried out on the real terminal and the real files. No browser is
attached to this program, so what needs one reports that it cannot be launched.
-/
namespace Pageflow.Main

/-- What is answered where a browser would be needed. -/
def noBrowser : Fault := .browser "No browser is attached"

/-- The names of all variables that settings are read from. -/
def variableNames : List String :=
  let fields := Settings.sections.flatMap fun (name, keys, _) =>
    name :: keys.map (name ++ "__" ++ ·)
  ("env" :: "project_root" :: "debug" :: fields).map fun name =>
    "PAGERUN_" ++ name.map Char.toUpper

/-- The variables of the environment that settings are read from. -/
def environment : IO Settings.Environment :=
  variableNames.filterMapM fun name => do return (← IO.getEnv name).map (name, ·)

def bytesOf (path : String) : IO (Entry (List Nat)) := do
  return .file ((← IO.FS.readBinFile path).toList.map UInt8.toNat)

/-- The files at a path and directly below it. What cannot be read is left out. -/
def filesAt (path : String) : IO (FileTree (List Nat)) := do
  try
    let real ← IO.FS.realPath path
    let root := Path.ofString path
    if ← real.isDir then
      let found ← (← real.readDir).toList.filterMapM fun e => do
        if ← e.path.isDir then return some (root.child e.fileName, Entry.directory)
        try return some (root.child e.fileName, ← bytesOf e.path.toString)
        catch _ => return none
      return ⟨(root, .directory) :: found⟩
    else if ← real.pathExists then
      return ⟨[(root, ← bytesOf path)]⟩
    else return .empty
  catch _ => return .empty

/-- A name for a task that has none. -/
def freshId : IO String := do
  let bytes ← IO.getRandomBytes 16
  return Text.join "" (bytes.toList.map fun b => Text.hex 2 b.toNat)

/-- Microseconds since 1970. -/
def microsNow : IO Int := do
  return (← Std.Time.Timestamp.now).toNanosecondsSinceUnixEpoch.val / 1000

/-- Waits for some seconds. -/
def rest (seconds : Double) : IO Unit :=
  IO.sleep (((seconds * 1000).roundHalfEven?).getD 0).toNat.toUInt32

/-- Answers a question from the real surroundings. -/
def answer (s : State) : (q : Ask) → IO q.Reply
  | .elapsed => do return (Double.ofInt (← IO.monoMsNow)).div 1000
  | .wall => do return (Double.ofInt (← microsNow)).div 1000000
  | .now => microsNow
  | .freshId => freshId
  | .sleep seconds => do
    rest seconds
    return .ok ()
  | .pass => return .ok ()
  | .await condition seconds => do
    if condition.holds s then return .ok true
    rest (seconds.getD 0)
    return .ok false
  | .page _ _ => return .error noBrowser
  | .element _ _ => return .error noBrowser
  | .browser _ => return .error noBrowser
  | .makeDirectory path => do
    try
      IO.FS.createDirAll path
      return .ok ()
    catch e => return .error (.foreign "OSError" (toString e))
  | .files path => filesAt path
  | .upload _ _ => return .error noBrowser
  | .post url _ => return .error (.foreign "ConnectError" url)
  | .send client _ => return .error (.foreign "RuntimeError" client)
  | .receive _ _ => return .ok .disconnected
  | .print line => IO.println line
  | .readLine => do
    let _ ← (← IO.getStdin).getLine
    return .ok ()
  | .start _ => return ()
  | .stop _ => return ()

/-- Carries out an activity. -/
def carryOut {α : Type} (s : State) : Activity α → IO (Result α)
  | .done value => return .ok value
  | .fail fault => return .error fault
  | .read next => carryOut s (next s)
  | .write s next => carryOut s next
  | .ask q next => do carryOut s (next (← answer s q))

/-- Reports why a command ended early. -/
def report (fault : Fault) : IO Unit :=
  IO.eprintln (fault.name ++ ": " ++ Console.faultText "Settings" fault)

/-- Carries out a command line; yields the exit code. -/
def run (arguments : List String) : IO UInt32 := do
  match Console.Command.ofArguments arguments with
  | .error misuse =>
    IO.eprintln ("Error: " ++ misuse.message)
    return 2
  | .ok command =>
    let settings := Settings.load (fun _ => []) (← environment) []
    let result ← carryOut {} (command.perform ⟨settings, false, true⟩)
    if let .error fault := result then report fault
    return (Console.exitCode result).toUInt32

end Pageflow.Main

def main (arguments : List String) : IO UInt32 := Pageflow.Main.run arguments
