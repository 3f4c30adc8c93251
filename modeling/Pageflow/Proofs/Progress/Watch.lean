import Pageflow.Proofs.Activity.AtOnce
import Pageflow.Proofs.Progress.Announce

/-! A sink that keeps all events sees what is told of a task. Where no sink has to
wait, an event has reached it when the turn that told of it ends. -/
namespace Pageflow.Progress

/-- The events of a task that a sink has kept. -/
def Bus.trace (b : Bus) (k : SinkId) (taskId : String) : List Event :=
  match b.sink? k with
  | some (.memory events) => events.filter (·.taskId = taskId)
  | _ => []

/-- Sink `k` keeps all events, and receives those of the task once. -/
structure Bus.Watches (b : Bus) (k : SinkId) (taskId : String) : Prop where
  memory : ∃ events, b.sink? k = some (.memory events)
  once : (b.audience taskId).count k = 1

/-- A sink that keeps what it is told, and never fails. -/
def Sink.Collects : Sink → Prop
  | .memory _ | .latest _ | .lines _ | .log _ => True
  | .webhook _ | .socket _ _ | .terminal | .failing => False

/-- What a sink becomes that takes events in. -/
def Sink.keepAll (sink : Sink) (new : List Event) : Sink :=
  new.foldl (fun sink e => sink.keep e) sink

/-- Between the states sink `k` takes in events, if it keeps any, and neither tasks nor pauses
nor registrations change. -/
structure Takes (k : SinkId) (new : List Event) (s t : State) : Prop where
  board : t.board = s.board
  tasks : t.tasks = s.tasks
  registrations : t.bus.registrations = s.bus.registrations
  kept : ∀ sink, s.bus.sink? k = some sink → sink.Collects →
    t.bus.sink? k = some (sink.keepAll new)

variable {k : SinkId} {new new' : List Event} {s t u : State} {taskId : String} {e : Event}
  {sink : Sink}

theorem Sink.collects_keep (h : sink.Collects) (e : Event) : (sink.keep e).Collects := by
  cases sink <;> exact h

theorem Sink.collects_keepAll (h : sink.Collects) (new : List Event) :
    (sink.keepAll new).Collects := by
  induction new generalizing sink with
  | nil => exact h
  | cons e rest ih => exact ih (collects_keep h e)

theorem Sink.keepAll_memory (events new : List Event) :
    (Sink.memory events).keepAll new = .memory (events ++ new) := by
  induction new generalizing events with
  | nil => rw [List.append_nil]; rfl
  | cons e rest ih => rw [List.append_cons]; exact ih (events ++ [e])

theorem Takes.refl : Takes k [] s s := ⟨rfl, rfl, rfl, fun _ h _ => h⟩

theorem Takes.trans (h : Takes k new s t) (h' : Takes k new' t u) : Takes k (new ++ new') s u where
  board := h'.board.trans h.board
  tasks := h'.tasks.trans h.tasks
  registrations := h'.registrations.trans h.registrations
  kept sink hsink hcollects := by
    rw [h'.kept _ (h.kept sink hsink hcollects) (Sink.collects_keepAll hcollects new)]
    unfold Sink.keepAll
    rw [List.foldl_append]

theorem Takes.memory {events : List Event} (h : Takes k new s t)
    (hevents : s.bus.sink? k = some (.memory events)) :
    t.bus.sink? k = some (.memory (events ++ new)) := by
  rw [h.kept _ hevents trivial, Sink.keepAll_memory]

theorem Takes.audience (h : Takes k new s t) (taskId : String) :
    t.bus.audience taskId = s.bus.audience taskId := by
  unfold Bus.audience
  rw [h.registrations]

theorem Takes.watches (h : Takes k new s t) (hs : s.bus.Watches k taskId) :
    t.bus.Watches k taskId := by
  obtain ⟨events, hevents⟩ := hs.memory
  refine ⟨⟨_, h.memory hevents⟩, ?_⟩
  rw [h.audience]
  exact hs.once

theorem Takes.trace (h : Takes k [e] s t) (hs : s.bus.Watches k taskId) (he : e.taskId = taskId) :
    t.bus.trace k taskId = s.bus.trace k taskId ++ [e] := by
  obtain ⟨events, hevents⟩ := hs.memory
  unfold Bus.trace
  rw [hevents, h.memory hevents]
  simp [he]

theorem Bus.sink?_modifySink (b : Bus) (id : SinkId) (f : Sink → Sink) :
    (b.modifySink id f).sink? k = if id = k then (b.sink? k).map f else b.sink? k := by
  unfold Bus.modifySink Bus.sink?
  rw [List.getElem?_modify]
  split
  · rfl
  · simp

/-! ## Telling without waiting -/

/-- No sink suspends: whatever telling asks is answered at once. -/
structure TellsAtOnce {W : Type} (env : Climate State Ask Ask.Reply W) : Prop where
  now : env.atOnce .now
  post : ∀ url body, env.atOnce (.post url body)
  send : ∀ client frame, env.atOnce (.send client frame)
  start : ∀ job, env.atOnce (.start job)

variable {W : Type} {env : Climate State Ask Ask.Reply W} {x : W × State}

theorem takes_modifySink (id : SinkId) (f : Sink → Sink) (hne : id ≠ k) :
    Takes k [] s { s with bus := s.bus.modifySink id f } := by
  refine ⟨rfl, rfl, rfl, fun sink h _ => ?_⟩
  rw [Bus.sink?_modifySink, if_neg hne]
  exact h

/-- A sink that keeps no events is not the one looked at. -/
theorem Takes.of_other {id : SinkId} (hsink : s.bus.sink? id = some sink)
    (hother : ¬ sink.Collects) (h : id ≠ k → Takes k [] s t)
    (hboard : t.board = s.board) (htasks : t.tasks = s.tasks)
    (hregistrations : t.bus.registrations = s.bus.registrations) :
    Takes k (if id = k then [e] else []) s t := by
  by_cases heq : id = k
  · subst heq
    refine ⟨hboard, htasks, hregistrations, fun sink' hsink' hcollects => ?_⟩
    rw [hsink] at hsink'
    obtain rfl := Option.some.inj hsink'
    exact absurd hcollects hother
  · rw [if_neg heq]
    exact h heq

theorem atOnce_deliver (k : SinkId) (hspares : env.Spares) (htells : TellsAtOnce env)
    (e : Event) (id : SinkId) : (deliver e id).AtOnce env x fun result y =>
      Uncancelled result ∧ Takes k (if id = k then [e] else []) x.2 y.2 := by
  unfold deliver Program.state
  simp only [Program.bind_eq_bind, Program.bind, Program.AtOnce]
  split
  · rename_i url hsink
    refine ⟨htells.post _ _, fun r w hr => Program.atOnce_ofResult.mpr ⟨hspares _ _ _ _ hr, ?_⟩⟩
    exact .of_other hsink not_false (fun _ => .refl) rfl rfl rfl
  · rename_i client hsink
    refine Program.atOnce_rescue ⟨htells.send _ _, fun r w hr => Program.atOnce_ofResult.mpr ?_⟩
    have hspared : Uncancelled r := hspares _ _ _ _ hr
    cases r with
    | ok value => exact ⟨hspared, .of_other hsink not_false (fun _ => .refl) rfl rfl rfl⟩
    | error fault =>
      refine ⟨hspared.not_isCancelled, uncancelled_ok _, ?_⟩
      exact .of_other hsink not_false (takes_modifySink _ _) rfl rfl rfl
  · rename_i hsink
    exact ⟨uncancelled_ok _, .of_other hsink not_false (fun _ => .refl) rfl rfl rfl⟩
  · rename_i hsink
    split
    · refine ⟨htells.start _, fun r w _ => ⟨uncancelled_ok _, ?_⟩⟩
      exact .of_other hsink not_false (fun _ => ⟨rfl, rfl, rfl, fun _ h _ => h⟩) rfl rfl rfl
    · exact ⟨uncancelled_ok _, .of_other hsink not_false (fun _ => .refl) rfl rfl rfl⟩
  · rename_i hsink
    exact ⟨by simp [Uncancelled], .of_other hsink not_false (fun _ => .refl) rfl rfl rfl⟩
  · refine ⟨uncancelled_ok _, rfl, rfl, rfl, fun sink hsink _ => ?_⟩
    rw [Bus.sink?_modifySink, hsink]
    split <;> rfl
  · rename_i hsink
    refine ⟨uncancelled_ok _, rfl, rfl, rfl, fun sink hsink' _ => ?_⟩
    by_cases heq : id = k
    · rw [heq, hsink'] at hsink
      cases hsink
    · rw [if_neg heq]
      exact hsink'

/-- An event for the first of some sinks, and for the others. -/
theorem replicate_count_cons (k id : SinkId) (ids : List SinkId) (e : Event) :
    List.replicate ((id :: ids).count k) e =
      (if id = k then [e] else []) ++ List.replicate (ids.count k) e := by
  by_cases heq : id = k
  · subst heq
    simp [List.replicate_succ]
  · simp [heq]

theorem atOnce_deliverAll (k : SinkId) (hspares : env.Spares) (htells : TellsAtOnce env)
    (e : Event) (ids : List SinkId) : (deliverAll e ids).AtOnce env x fun result y =>
      result = .ok () ∧ Takes k (List.replicate (ids.count k) e) x.2 y.2 := by
  induction ids generalizing x with
  | nil => exact ⟨rfl, .refl⟩
  | cons id rest ih =>
    rw [replicate_count_cons]
    refine Program.atOnce_bind.mpr (Program.atOnce_rescue ?_)
    refine (atOnce_deliver k hspares htells e id).mono ?_
    rintro (fault | _) y ⟨hspared, htakes⟩
    · exact ⟨hspared.not_isCancelled, ih.mono fun result z h => ⟨h.1, htakes.trans h.2⟩⟩
    · exact ih.mono fun result z h => ⟨h.1, htakes.trans h.2⟩

/-- Telling of a task ends well and at once, and a sink that receives it once has the event,
whatever other sinks there are. -/
theorem atOnce_announce (hspares : env.Spares) (htells : TellsAtOnce env)
    (honce : (x.2.bus.audience taskId).count k = 1) (status : Status) (stepIndex totalSteps : Int)
    (message : String) :
    (announce busChannel taskId status stepIndex totalSteps message).AtOnce env x fun result y =>
      result = .ok () ∧
        ∃ time, Takes k [⟨taskId, status, stepIndex, totalSteps, message, time⟩] x.2 y.2 := by
  refine ⟨htells.now, fun time w _ => Program.atOnce_rescue ?_⟩
  refine (atOnce_deliverAll k hspares htells _ (x.2.bus.audience taskId)).mono ?_
  rintro (fault | _) y ⟨hok, htakes⟩
  · cases hok
  · rw [honce] at htakes
    exact ⟨rfl, _, htakes⟩

end Pageflow.Progress
