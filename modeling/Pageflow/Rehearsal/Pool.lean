import Pageflow.Rehearsal.Perform
/-!
Rehearsing activities side by side. Jobs that can go on stand in one queue and are served in turn;
when the queue is empty the clock moves to the next alarm. A rehearsal is thus determined by its
jobs and its world.
-/
namespace Pageflow.Rehearsal

open Browser

/-- How far an activity came: to its end, or to a wait that it goes on from with `next`. -/
inductive Stop (α : Type) where
  | finished (result : Result α)
  | held (hold : Hold) (next : Result Bool → Act α)

/-- The answer to a wait that needs no waiting. -/
def Hold.immediate? (s : Shared) : Hold → Option Bool
  | .await condition _ deadline =>
    if condition s then some true
    else if (deadline.map fun d => decide (d ≤ s.world.micros)).getD false then some false
    else none
  | _ => none

/-- Runs an activity until it ends or has to wait. -/
def advance {α : Type} : Act α → Shared → Shared × Stop α
  | .done value, s => (s, .finished (.ok value))
  | .fail fault, s => (s, .finished (.error fault))
  | .read next, s => advance (next s) s
  | .write s next, _ => advance next s
  | .ask hold next, s =>
    match hold.immediate? s with
    | some inTime => advance (next (.ok inTime)) s
    | none => (s, .held hold next)

/-- What a job is about to do. -/
inductive Status (α : Type) where
  | ready (act : Act (Turn α))
  /-- It waits for the wake-up with number `ticket`. A condition is only looked at while nothing
  has happened yet. -/
  | waiting (ticket : Nat) (condition : Option ((Shared → Bool) × Nat))
      (next : Result Bool → Act (Turn α))
  | ended (result : Result α)

/-- A job of a rehearsal; `job` tells which work it is if an activity began it. -/
structure Entry (α : Type) where
  job : Option Job
  status : Status α

/-- What happens at a time. -/
inductive Alarm where
  /-- A wait is over. -/
  | wake (id ticket : Nat) (inTime : Bool)
  /-- A page makes or ends a request. -/
  | request (page : PageRef) (event : Network.RequestEvent) (request : String)

/-- Something in the queue. -/
inductive Item where
  | run (id : Nat)
  | wake (id ticket turns : Nat) (reply : Result Bool)
  | ring (alarm : Alarm)

/-- A rehearsal. -/
structure Pool (α : Type) where
  shared : Shared
  /-- What the work that activities begin consists of. -/
  work : Job → Activity (Turn α)
  entries : List (Entry α) := []
  queue : List Item := []
  /-- What will happen, in the order of the times. -/
  alarms : List (Int × Alarm) := []
  tickets : Nat := 0
  /-- The number of pages whose requests are among the alarms. -/
  scheduled : Nat := 0

namespace Pool

variable {α : Type}

def world (p : Pool α) : World := p.shared.world

def modifyWorld (p : Pool α) (f : World → World) : Pool α :=
  { p with shared := { p.shared with world := f p.shared.world } }

def enqueue (p : Pool α) (item : Item) : Pool α := { p with queue := p.queue ++ [item] }

def setStatus (p : Pool α) (id : Nat) (status : Status α) : Pool α :=
  { p with entries := p.entries.modify id fun e => { e with status } }

/-- Puts an alarm behind the others of its time. -/
def insertAlarm (time : Int) (alarm : Alarm) : List (Int × Alarm) → List (Int × Alarm)
  | [] => [(time, alarm)]
  | (t, a) :: rest =>
    if t ≤ time then (t, a) :: insertAlarm time alarm rest else (time, alarm) :: (t, a) :: rest

def addAlarm (p : Pool α) (time : Int) (alarm : Alarm) : Pool α :=
  { p with alarms := insertAlarm time alarm p.alarms }

/-- Adds a job to the rehearsal; yields its number. -/
def begin (p : Pool α) (job : Option Job) (activity : Activity (Turn α)) : Nat × Pool α :=
  let id := p.entries.length
  (id, { p with
    entries := p.entries ++ [⟨job, .ready (enact activity)⟩], queue := p.queue ++ [.run id] })

/-- Schedules the requests of a page. -/
def scheduleRequests (p : Pool α) (page : PageRef) (script : PageScript) : Pool α :=
  script.requests.foldl (fun p r =>
    let p := p.addAlarm (r.start * 1000) (.request page .started r.id)
    match r.finish with
    | some ms => p.addAlarm (ms * 1000) (.request page (if r.failed then .failed else .finished) r.id)
    | none => p) p

/-- Schedules the requests of pages that were opened since. -/
def schedulePages (p : Pool α) : Pool α :=
  let pages := p.world.pages
  let p := (List.range pages.length).foldl (fun p i =>
    if i < p.scheduled then p
    else match pages[i]? with
      | some page => p.scheduleRequests ⟨i⟩ page.script
      | none => p) p
  { p with scheduled := pages.length }

/-- Ends a job from outside: it is woken with a cancellation. -/
def cancelEntry (p : Pool α) (id : Nat) : Pool α :=
  match p.entries[id]? with
  | some ⟨_, .ready _⟩ => p.setStatus id (.ended (.error .cancelled))
  | some ⟨_, .waiting ticket _ next⟩ =>
    (p.setStatus id (.waiting ticket none next)).enqueue (.wake id ticket 0 (.error .cancelled))
  | _ => p

/-- Begins and ends the jobs that activities asked to begin and to end. -/
def applyJobs (p : Pool α) : Pool α :=
  let starting := p.world.starting
  let stopping := p.world.stopping
  let p := p.modifyWorld fun w => { w with starting := [], stopping := [] }
  let p := starting.foldl (fun p job => (p.begin (some job) (p.work job)).2) p
  stopping.foldl (fun p job =>
    (List.range p.entries.length).foldl (fun p id =>
      if (p.entries[id]?.bind Entry.job) = some job then p.cancelEntry id else p) p) p

/-- Wakes a job if the condition it waits for has come to hold. -/
def noticeEntry (p : Pool α) (id : Nat) : Pool α :=
  match p.entries[id]? with
  | some ⟨_, .waiting ticket (some (condition, turns)) next⟩ =>
    if condition p.shared then
      (p.setStatus id (.waiting ticket none next)).enqueue (.wake id ticket (turns - 1) (.ok true))
    else p
  | _ => p

/-- Wakes the jobs whose conditions have come to hold. -/
def notice (p : Pool α) : Pool α := (List.range p.entries.length).foldl noticeEntry p

/-- What follows from a change of the shared state. -/
def afterChange (p : Pool α) : Pool α := p.schedulePages.applyJobs.notice

/-- Lets a job wait. -/
def wait (p : Pool α) (id : Nat) (hold : Hold) (next : Result Bool → Act (Turn α)) : Pool α :=
  let ticket := p.tickets
  let p := { p with tickets := ticket + 1 }
  match hold with
  | .pass turns =>
    (p.setStatus id (.waiting ticket none next)).enqueue (.wake id ticket (turns - 1) (.ok true))
  | .sleep time =>
    let p := p.setStatus id (.waiting ticket none next)
    if time ≤ p.world.micros then p.enqueue (.wake id ticket 0 (.ok true))
    else p.addAlarm time (.wake id ticket true)
  | .await condition turns deadline =>
    let p := p.setStatus id (.waiting ticket (some (condition, turns)) next)
    match deadline with
    | some time => p.addAlarm time (.wake id ticket false)
    | none => p
  | .forever => p.setStatus id (.waiting ticket none next)

/-- Runs a job until it ends or has to wait. -/
def runEntry (p : Pool α) (id : Nat) (act : Act (Turn α)) : Pool α :=
  let (shared, stop) := advance act p.shared
  let p := { p with shared }
  let p := match stop with
    | .held hold next => p.wait id hold next
    | .finished (.ok (.ended value)) => p.setStatus id (.ended (.ok value))
    | .finished (.ok (.again job)) =>
      let p := p.setStatus id (.ready (enact (p.work job)))
      { p with queue := .run id :: p.queue }
    | .finished (.error fault) => p.setStatus id (.ended (.error fault))
  p.afterChange

/-- Whether a wake-up is still waited for. -/
def awaits (p : Pool α) (id ticket : Nat) : Bool :=
  match p.entries[id]? with
  | some ⟨_, .waiting t _ _⟩ => t = ticket
  | _ => false

/-- Whether a wait with a limit is still undecided, or has no condition. -/
def isLive (p : Pool α) : Alarm → Bool
  | .wake id ticket inTime =>
    match p.entries[id]? with
    | some ⟨_, .waiting t condition _⟩ => t = ticket && (inTime || condition.isSome)
    | _ => false
  | .request _ _ _ => true

/-- Carries out an alarm. -/
def ring (p : Pool α) : Alarm → Pool α
  | .wake id ticket inTime =>
    match p.entries[id]? with
    | some ⟨_, .waiting t condition next⟩ =>
      if t = ticket && (inTime || condition.isSome) then
        (p.setStatus id (.waiting t none next)).enqueue (.wake id ticket 0 (.ok inTime))
      else p
    | _ => p
  | .request page event request =>
    match p.world.page? page with
    | some live =>
      if live.listenerCount event = 0 then p
      else
        let state := p.shared.state.noteRequest page event request p.world.seconds
        { p with shared := { p.shared with state } }
    | none => p

/-- Serves the first of the queue. -/
def step (p : Pool α) : Pool α :=
  match p.queue with
  | [] => p
  | item :: queue =>
    let p : Pool α := { p with queue }
    match item with
    | .run id =>
      match p.entries[id]? with
      | some ⟨_, .ready act⟩ => p.runEntry id act
      | _ => p
    | .wake id ticket 0 reply =>
      match p.entries[id]? with
      | some ⟨_, .waiting t _ next⟩ => if t = ticket then p.runEntry id (next reply) else p
      | _ => p
    | .wake id ticket (turns + 1) reply => p.enqueue (.wake id ticket turns reply)
    | .ring alarm => p.ring alarm

/-- The time of the next alarm that still means something. -/
def nextTime? (p : Pool α) : Option Int := (p.alarms.find? fun (_, a) => p.isLive a).map (·.1)

/-- Moves the clock to a time, and everything due by then into the queue. -/
def moveTo (p : Pool α) (time : Int) : Pool α :=
  let due := (p.alarms.filter fun (t, a) => t ≤ time && p.isLive a).map fun (_, a) => Item.ring a
  let p := p.modifyWorld fun w => { w with micros := max w.micros time }
  { p with alarms := p.alarms.filter fun (t, _) => time < t, queue := p.queue ++ due }

/-- How many steps a rehearsal is given before it counts as stuck. -/
def patience : Nat := 10000000

/-- Serves the queue until it is empty. -/
def settle (p : Pool α) (fuel : Nat := patience) : Pool α :=
  match fuel with
  | 0 => p
  | fuel + 1 => if p.queue.isEmpty then p else p.step.settle fuel

/-- Serves the queue and lets time pass until a time. -/
def runUntil (p : Pool α) (time : Int) (fuel : Nat := patience) : Pool α :=
  match fuel with
  | 0 => p
  | fuel + 1 =>
    if !p.queue.isEmpty then p.step.runUntil time fuel
    else
      match p.nextTime? with
      | some t => if t ≤ time then (p.moveTo t).runUntil time fuel else p.moveTo time
      | none => p.moveTo time

/-- How a job ended, if it has. -/
def result? (p : Pool α) (id : Nat) : Option (Result α) :=
  match p.entries[id]? with
  | some ⟨_, .ended result⟩ => some result
  | _ => none

/-- Serves the queue and lets time pass until a job has ended. -/
def runJob (p : Pool α) (id : Nat) (fuel : Nat := patience) : Pool α :=
  match fuel with
  | 0 => p
  | fuel + 1 =>
    if (p.result? id).isSome then p
    else if !p.queue.isEmpty then p.step.runJob id fuel
    else
      match p.nextTime? with
      | some t => (p.moveTo t).runJob id fuel
      | none => p

/-- Runs an activity that does not wait, between two steps. -/
def immediately {β : Type} (p : Pool α) (activity : Activity β) : Option (Result β) × Pool α :=
  let (shared, stop) := advance (enact activity) p.shared
  let p := { p with shared }.afterChange
  match stop with
  | .finished result => (some result, p)
  | .held _ _ => (none, p)

/-- Runs an activity on its own and lets time pass until it has ended. -/
def complete (p : Pool α) (activity : Activity α) : Option (Result α) × Pool α :=
  let (id, p) := p.begin none (Turn.ended <$> activity)
  let p := p.runJob id
  (p.result? id, p)

end Pool
end Pageflow.Rehearsal
