import Pageflow.Proofs.Activity.Asked
import Pageflow.Proofs.Progress.Watch
import Mathlib.Data.List.DropRight

/-! What sinks receive of a bus. Every event is handed once for each registration that stands for
its task, in the order of publishing, and whether a sink fails matters to no other. -/
namespace Pageflow.Progress

open Program

inductive Use where
  | add (id : SinkId) (scope : Option String)
  | remove (id : SinkId)
  | publish (taskId : String) (e : Event)
deriving DecidableEq

namespace Use

def perform : Use → Activity Unit
  | add id scope => Program.modify fun s => { s with bus := s.bus.register id scope }
  | remove id => Program.modify fun s => { s with bus := s.bus.remove id }
  | publish taskId e => Progress.publish taskId e

/-- The sink is registered for the events of a task, among those of all tasks or alone. -/
def subscribes (k : SinkId) (taskId : String) : Use → Bool
  | add id scope => id = k && (scope = none || scope = some taskId)
  | _ => false

/-- The number of registrations of a sink for a task that stand after some uses: those made since
the sink was last removed. -/
def standing (k : SinkId) (taskId : String) (before : List Use) : Nat :=
  (before.rtakeWhile (· ≠ .remove k)).countP (subscribes k taskId)

/-- What a sink receives of a use that follows others. -/
def receives (k : SinkId) (before : List Use) : Use → List Event
  | publish taskId e => List.replicate (standing k taskId before) { e with taskId }
  | _ => []

/-- What a sink receives of uses, one after the other. -/
def received (k : SinkId) (before : List Use) : List Use → List Event
  | [] => []
  | use :: rest => use.receives k before ++ received k (before ++ [use]) rest

end Use

def performAll : List Use → Activity Unit
  | [] => pure ()
  | use :: rest => do
    use.perform
    performAll rest

/-! ## Who is handed what -/

/-- Hands an event to sinks and yields who was handed it. -/
def handAll (e : Event) : List SinkId → Activity (List (SinkId × Event))
  | [] => pure []
  | id :: rest => do
    (deliver e id).ignore
    return (id, e) :: (← handAll e rest)

/-- A use of the bus that yields who was handed what. -/
def Use.hand : Use → Activity (List (SinkId × Event))
  | publish taskId e => do
    let s ← Program.state
    handAll { e with taskId } (s.bus.audience taskId)
  | use => do
    use.perform
    return []

def handUses : List Use → Activity (List (SinkId × Event))
  | [] => pure []
  | use :: rest => do return (← use.hand) ++ (← handUses rest)

def handedTo (k : SinkId) (handed : List (SinkId × Event)) : List Event :=
  (handed.filter (·.1 = k)).map (·.2)

theorem handAll_erased (e : Event) (ids : List SinkId) :
    ((handAll e ids).bind fun _ => .done ()) = deliverAll e ids := by
  induction ids with
  | nil => rfl
  | cons id rest ih =>
    simp only [handAll, deliverAll, Program.bind_eq_bind, bind_assoc, ← ih]
    rfl

theorem Use.hand_erased (use : Use) : (use.hand.bind fun _ => .done ()) = use.perform := by
  cases use with
  | add | remove => rfl
  | publish taskId e => exact congrArg Program.read (funext fun s => handAll_erased _ _)

/-- Yielding who was handed what changes nothing in what is done. -/
theorem handUses_erased (uses : List Use) :
    ((handUses uses).bind fun _ => .done ()) = performAll uses := by
  induction uses with
  | nil => rfl
  | cons use rest ih =>
    rw [performAll, ← ih, ← use.hand_erased]
    simp only [handUses, Program.bind_eq_bind, bind_assoc]
    rfl

theorem handedTo_append (k : SinkId) (handed handed' : List (SinkId × Event)) :
    handedTo k (handed ++ handed') = handedTo k handed ++ handedTo k handed' := by
  simp [handedTo]

theorem handedTo_map (k : SinkId) (e : Event) (ids : List SinkId) :
    handedTo k (ids.map fun id => (id, e)) = List.replicate (ids.count k) e := by
  induction ids with
  | nil => rfl
  | cons id rest ih =>
    by_cases h : id = k
    · simp_all [handedTo, List.replicate_succ]
    · simp_all [handedTo]

/-! ## Registrations that stand -/

variable {b c : Bus} {k id : SinkId} {taskId : String} {e : Event} {before : List Use} {use : Use}

/-- Each sink is registered as often for each task as the uses before say. -/
def Bus.Stands (b : Bus) (before : List Use) : Prop :=
  ∀ k taskId, (b.audience taskId).count k = Use.standing k taskId before

theorem Bus.count_audience (b : Bus) (k : SinkId) (taskId : String) :
    (b.audience taskId).count k = b.registrations.countP fun r =>
      r.1 = k && (r.2 = none || r.2 = some taskId) := by
  rw [audience, List.count_eq_countP, List.countP_map, List.countP_filter]
  refine List.countP_congr fun r _ => ?_
  simp

theorem Use.standing_concat_remove :
    standing k taskId (before ++ [.remove k]) = 0 := by
  rw [standing, List.rtakeWhile_concat_neg _ _ _ (by simp)]
  rfl

theorem Use.standing_concat (h : use ≠ .remove k) :
    standing k taskId (before ++ [use]) =
      standing k taskId before + if use.subscribes k taskId then 1 else 0 := by
  rw [standing, List.rtakeWhile_concat_pos _ _ _ (by simpa using h), List.countP_append]
  simp [standing, List.countP_cons]

theorem Bus.Stands.of_registrations (h : b.Stands before) (hc : c.registrations = b.registrations)
    (taskId : String) (e : Event) : c.Stands (before ++ [.publish taskId e]) := by
  intro k t
  rw [Use.standing_concat (by simp), count_audience, hc, ← count_audience, h k t]
  rfl

theorem Bus.Stands.register (h : b.Stands before) (id : SinkId) (scope : Option String) :
    (b.register id scope).Stands (before ++ [.add id scope]) := by
  intro k t
  have hadded : (b.register id scope).registrations = b.registrations ++ [(id, scope)] := rfl
  rw [Use.standing_concat (by simp), count_audience, hadded, List.countP_append, ← count_audience,
    h k t]
  simp [Use.subscribes, List.countP_cons]

theorem Bus.Stands.remove (h : b.Stands before) (id : SinkId) :
    (b.remove id).Stands (before ++ [.remove id]) := by
  intro k t
  have hleft : (b.remove id).registrations = b.registrations.filter (·.1 ≠ id) := rfl
  rw [count_audience, hleft, List.countP_filter]
  by_cases heq : id = k
  · subst heq
    rw [Use.standing_concat_remove]
    refine List.countP_eq_zero.mpr fun r _ => ?_
    by_cases hr : r.1 = id <;> simp [hr]
  · rw [Use.standing_concat (by simpa using heq), ← h k t, count_audience]
    refine (List.countP_congr fun r _ => ?_).trans (Nat.add_zero _).symm
    by_cases hr : r.1 = k
    · simp [hr, Ne.symm heq]
    · simp [hr]

/-! ## Handing over -/

/-- Sink `k`, if it keeps events, has kept those of `new` besides. -/
def Bus.Keeps (k : SinkId) (new : List Event) (b c : Bus) : Prop :=
  ∀ sink, b.sink? k = some sink → sink.Collects → c.sink? k = some (sink.keepAll new)

theorem Bus.Keeps.refl (k : SinkId) (b : Bus) : Bus.Keeps k [] b b := fun _ h _ => h

theorem Bus.Keeps.trans {d : Bus} {new new' : List Event} (h : Bus.Keeps k new b c)
    (h' : Bus.Keeps k new' c d) : Bus.Keeps k (new ++ new') b d := by
  intro sink hsink hcollects
  rw [h' _ (h sink hsink hcollects) (Sink.collects_keepAll hcollects new)]
  unfold Sink.keepAll
  rw [List.foldl_append]

/-- Nobody else uses the bus while an event is handed over, and no sink is cancelled. -/
structure Steady {W : Type} (env : Responses State Ask Ask.Reply W) : Prop where
  post : ∀ url body x, Uncancelled (env (.post url body) x).1 ∧
    (env (.post url body) x).2.2.bus = x.2.bus
  send : ∀ client frame x, Uncancelled (env (.send client frame) x).1 ∧
    (env (.send client frame) x).2.2.bus = x.2.bus
  start : ∀ job x, (env (.start job) x).2.2.bus = x.2.bus

/-- What handing events over does to the bus: registrations stay, and sinks keep events. -/
structure Hands (new : SinkId → List Event) (b c : Bus) : Prop where
  registrations : c.registrations = b.registrations
  keeps : ∀ k, Bus.Keeps k (new k) b c

theorem Hands.trans {d : Bus} {new new' : SinkId → List Event} (h : Hands new b c)
    (h' : Hands new' c d) : Hands (fun k => new k ++ new' k) b d :=
  ⟨h'.registrations.trans h.registrations, fun k => (h.keeps k).trans (h'.keeps k)⟩

theorem Hands.of_other {sink : Sink} (hsink : b.sink? id = some sink) (hother : ¬ sink.Collects)
    (hregistrations : c.registrations = b.registrations)
    (hsinks : ∀ k, id ≠ k → c.sink? k = b.sink? k) :
    Hands (fun k => if id = k then [e] else []) b c := by
  refine ⟨hregistrations, fun k sink' hsink' hcollects => ?_⟩
  by_cases heq : id = k
  · subst heq
    rw [hsink, Option.some.injEq] at hsink'
    exact absurd (hsink' ▸ hcollects) hother
  · rw [if_neg heq, hsinks k heq, hsink']
    rfl

section

variable {W : Type} {env : Responses State Ask Ask.Reply W} (hsteady : Steady env)
  {x y : W × State} {calls : List Ask}
include hsteady

theorem deliver_hands {result : Result Unit} (h : (deliver e id).Runs env x calls result y) :
    Uncancelled result ∧ Hands (fun k => if id = k then [e] else []) x.2.bus y.2.bus := by
  have hread := runs_read.mp h
  simp only [Program.bind] at hread
  split at hread
  · rename_i url hsink
    obtain ⟨_, rfl, hposted⟩ := runs_ask.mp hread
    obtain ⟨rfl, rfl, rfl⟩ := runs_ofResult.mp hposted
    obtain ⟨hspared, hbus⟩ := hsteady.post url e.notice x
    exact ⟨hspared, .of_other hsink not_false (by rw [hbus]) fun k _ => by rw [hbus]⟩
  · rename_i client hsink
    obtain ⟨hspared, hbus⟩ := hsteady.send client (.text e.line) x
    obtain ⟨_, _, rest, _, rfl, hsend, hnext⟩ := runs_attempt_bind.mp hread
    obtain ⟨_, rfl, hsent⟩ := runs_ask.mp hsend
    obtain ⟨rfl, rfl, rfl⟩ := runs_ofResult.mp hsent
    rcases hreply : (env (.send client (.text e.line)) x).1 with fault | _
    · -- the client is not served any more
      rw [hreply] at hnext hspared
      simp only [hspared.not_isCancelled, Bool.not_false, ↓reduceIte] at hnext
      obtain ⟨rfl, rfl, rfl⟩ := runs_modify.mp hnext
      refine ⟨uncancelled_ok _, .of_other hsink not_false (by simp [hbus, Bus.modifySink]) ?_⟩
      intro k hne
      rw [Bus.sink?_modifySink, if_neg hne, hbus]
    · rw [hreply] at hnext
      obtain ⟨rfl, rfl, rfl⟩ := runs_done.mp hnext
      exact ⟨uncancelled_ok _, .of_other hsink not_false (by rw [hbus]) fun k _ => by rw [hbus]⟩
  · rename_i client hsink
    obtain ⟨rfl, rfl, rfl⟩ := runs_done.mp hread
    exact ⟨uncancelled_ok _, .of_other hsink not_false rfl fun _ _ => rfl⟩
  · rename_i hsink
    split at hread
    · obtain ⟨_, _, _, _, rfl, hset, hstart⟩ | ⟨_, rfl, hset⟩ := runs_bind.mp hread
      · obtain ⟨rfl, -, rfl⟩ := runs_modify.mp hset
        obtain ⟨_, rfl, hdone⟩ := runs_ask.mp hstart
        obtain ⟨rfl, rfl, rfl⟩ := runs_done.mp hdone
        have hbus := hsteady.start (.prompt e.taskId) (x.1, { x.2 with prompting := true })
        exact ⟨uncancelled_ok _, .of_other hsink not_false (by rw [hbus]) fun k _ => by rw [hbus]⟩
      · cases (runs_modify.mp hset).2.1
    · obtain ⟨rfl, rfl, rfl⟩ := runs_done.mp hread
      exact ⟨uncancelled_ok _, .of_other hsink not_false rfl fun _ _ => rfl⟩
  · rename_i hsink
    obtain ⟨rfl, rfl, rfl⟩ := runs_fail.mp hread
    exact ⟨by simp [Uncancelled], .of_other hsink not_false rfl fun _ _ => rfl⟩
  · obtain ⟨rfl, rfl, rfl⟩ := runs_modify.mp hread
    refine ⟨uncancelled_ok _, rfl, fun k sink hsink _ => ?_⟩
    rw [Bus.sink?_modifySink, hsink]
    split <;> rfl
  · rename_i hsink
    obtain ⟨rfl, rfl, rfl⟩ := runs_done.mp hread
    refine ⟨uncancelled_ok _, rfl, fun k sink hsink' _ => ?_⟩
    by_cases heq : id = k
    · rw [heq, hsink'] at hsink
      cases hsink
    · rw [if_neg heq]
      exact hsink'

/-- However the sinks fare, each is handed the event, and the next one after it. -/
theorem handAll_hands {ids : List SinkId} {result : Result (List (SinkId × Event))}
    (h : (handAll e ids).Runs env x calls result y) :
    result = .ok (ids.map fun id => (id, e)) ∧
      Hands (fun k => List.replicate (ids.count k) e) x.2.bus y.2.bus := by
  induction ids generalizing x calls result with
  | nil =>
    obtain ⟨rfl, rfl, rfl⟩ := runs_done.mp h
    exact ⟨rfl, rfl, fun k => .refl k _⟩
  | cons id rest ih =>
    obtain ⟨_, _, later, z, rfl, hfirst, hlater⟩ | ⟨fault, rfl, hfirst⟩ := runs_bind.mp h
    · obtain ⟨_, hdeliver, -⟩ := runs_of_ignore hfirst
      obtain ⟨-, hhanded⟩ := deliver_hands hsteady hdeliver
      obtain ⟨_, hrest, rfl⟩ := runs_bind_done hlater
      obtain ⟨rfl, hothers⟩ := ih hrest
      refine ⟨rfl, ?_⟩
      simp only [replicate_count_cons]
      exact hhanded.trans hothers
    · obtain ⟨_, hdeliver, hok⟩ := runs_of_ignore hfirst
      cases hok (deliver_hands hsteady hdeliver).1

/-- What one use of the bus hands over, and what it leaves registered. -/
theorem Use.hand_runs {result : Result (List (SinkId × Event))}
    (hstands : x.2.bus.Stands before) (h : use.hand.Runs env x calls result y) :
    ∃ handed, result = .ok handed ∧ y.2.bus.Stands (before ++ [use]) ∧
      ∀ k, handedTo k handed = use.receives k before ∧
        Bus.Keeps k (use.receives k before) x.2.bus y.2.bus := by
  cases use with
  | add id scope =>
    obtain ⟨_, hset, rfl⟩ := runs_bind_done h
    obtain ⟨rfl, rfl, rfl⟩ := runs_modify.mp hset
    exact ⟨[], rfl, hstands.register id scope, fun k => ⟨rfl, fun _ hsink _ => hsink⟩⟩
  | remove id =>
    obtain ⟨_, hset, rfl⟩ := runs_bind_done h
    obtain ⟨rfl, rfl, rfl⟩ := runs_modify.mp hset
    exact ⟨[], rfl, hstands.remove id, fun k => ⟨rfl, fun _ hsink _ => hsink⟩⟩
  | publish taskId e =>
    obtain ⟨rfl, hhands⟩ := handAll_hands hsteady (runs_read.mp h)
    refine ⟨_, rfl, hstands.of_registrations hhands.registrations taskId e, fun k => ⟨?_, ?_⟩⟩
    · rw [handedTo_map, hstands k taskId]
      rfl
    · have hkeeps := hhands.keeps k
      rwa [hstands k taskId] at hkeeps

theorem handUses_runs {uses : List Use} {result : Result (List (SinkId × Event))}
    (hstands : x.2.bus.Stands before) (h : (handUses uses).Runs env x calls result y) :
    ∃ handed, result = .ok handed ∧ ∀ k, handedTo k handed = Use.received k before uses ∧
      Bus.Keeps k (Use.received k before uses) x.2.bus y.2.bus := by
  induction uses generalizing before x calls result with
  | nil =>
    obtain ⟨rfl, rfl, rfl⟩ := runs_done.mp h
    exact ⟨[], rfl, fun k => ⟨rfl, .refl k _⟩⟩
  | cons use rest ih =>
    obtain ⟨handed, _, _, z, rfl, hfirst, hlater⟩ | ⟨_, rfl, hfirst⟩ := runs_bind.mp h
    · obtain ⟨_, heq, hleft, hhanded⟩ := use.hand_runs hsteady hstands hfirst
      cases heq
      obtain ⟨_, hrest, rfl⟩ := runs_bind_done hlater
      obtain ⟨others, rfl, hothers⟩ := ih hleft hrest
      refine ⟨handed ++ others, rfl, fun k => ⟨?_, (hhanded k).2.trans (hothers k).2⟩⟩
      rw [handedTo_append, (hhanded k).1, (hothers k).1]
      rfl
    · obtain ⟨_, heq, -⟩ := use.hand_runs hsteady hstands hfirst
      cases heq

end

/-- Publishing never fails, and every sink is handed the events of the tasks it is registered for,
as long as it is and once for each registration, whatever becomes of the other sinks. -/
theorem performAll_fansOut {W : Type} {env : Responses State Ask Ask.Reply W}
    (hsteady : Steady env) {x : W × State} (hnone : x.2.bus.registrations = [])
    (uses : List Use) :
    ∃ handed calls y, (handUses uses).Runs env x calls (.ok handed) y ∧
      (performAll uses).Runs env x calls (.ok ()) y ∧
      ∀ k, handedTo k handed = Use.received k [] uses ∧
        ∀ sink, x.2.bus.sink? k = some sink → sink.Collects →
          y.2.bus.sink? k = some (sink.keepAll (Use.received k [] uses)) := by
  have hstands : x.2.bus.Stands [] := by
    intro k taskId
    rw [Bus.count_audience, hnone]
    rfl
  have hruns := runs_run env (handUses uses) x
  obtain ⟨handed, hok, hhanded⟩ := handUses_runs hsteady hstands hruns
  rw [hok] at hruns
  refine ⟨handed, _, _, hruns, ?_, hhanded⟩
  rw [← handUses_erased]
  exact runs_bind.mpr (.inl ⟨handed, _, [], _, by simp, hruns, runs_done.mpr ⟨rfl, rfl, rfl⟩⟩)

/-! ## A sink among others that fail -/

/-- A memory beside sinks none of which takes anything in, and nothing registered. -/
def unreliable : Unit × State :=
  ((), { bus := ⟨[.memory [], .failing, .socket "c" false, .webhook "http://hook"], []⟩ })

def newsOf (taskId : String) : Event := ⟨taskId, .running, 0, 1, "", ""⟩

/-- The memory is registered twice, removed, and registered for another task. -/
def changingUses : List Use :=
  [.add 1 none, .add 2 none, .add 0 none, .add 3 (some "t"), .add 0 (some "t"),
    .publish "t" (newsOf "s"), .remove 0, .publish "t" (newsOf "t"), .add 0 (some "u"),
    .publish "t" (newsOf "t"), .publish "u" (newsOf "u")]

theorem performAll_fansOut_unreliable : ∃ handed calls y,
    (performAll changingUses).Runs (fun q x => (q.refused, x)) unreliable calls (.ok ()) y ∧
    handedTo 1 handed = [newsOf "t", newsOf "t", newsOf "t", newsOf "u"] ∧
    handedTo 3 handed = [newsOf "t", newsOf "t", newsOf "t"] ∧
    y.2.bus.sink? 0 = some (.memory [newsOf "t", newsOf "t", newsOf "u"]) := by
  have hsteady : Steady fun (q : Ask) (x : Unit × State) => (q.refused, x) :=
    ⟨fun _ _ _ => ⟨nofun, rfl⟩, fun _ _ _ => ⟨nofun, rfl⟩, fun _ _ => rfl⟩
  obtain ⟨handed, calls, y, -, hruns, hhanded⟩ :=
    performAll_fansOut hsteady (show unreliable.2.bus.registrations = [] from rfl) changingUses
  have hfailing : Use.received 1 [] changingUses =
      [newsOf "t", newsOf "t", newsOf "t", newsOf "u"] := by decide
  have hhook : Use.received 3 [] changingUses = [newsOf "t", newsOf "t", newsOf "t"] := by decide
  have hmemory : Use.received 0 [] changingUses = [newsOf "t", newsOf "t", newsOf "u"] := by decide
  refine ⟨handed, calls, y, hruns, ?_, ?_, ?_⟩
  · rw [(hhanded 1).1, hfailing]
  · rw [(hhanded 3).1, hhook]
  · rw [(hhanded 0).2 (.memory []) rfl trivial, hmemory]
    rfl

end Pageflow.Progress
