import Pageflow.Proofs.Workflow.Budget
import Pageflow.Proofs.Workflow.HandBack

/-! What a run does on its page. A navigate step opens its address once and a click step clicks at
most once, however often the run is paused; what is done again after a pause is to wait for an
element. -/
namespace Pageflow

open Browser Program

variable {W : Type}

def Ask.opens : Ask → Bool
  | .page _ (.goto _ _) => true
  | _ => false

def Ask.clicks : Ask → Bool
  | .page _ (.click _ _) => true
  | _ => false

theorem Ask.acts_eq (q : Ask) : q.acts = (q.opens || q.clicks) := by
  cases q with
  | page page call => cases call <;> rfl
  | _ => rfl

def Ask.waits : Ask → Bool
  | .page _ (.waitFor _ _) => true
  | _ => false

/-- A question that neither acts on a page nor waits for an element. -/
def Ask.Idles (q : Ask) : Prop := q.acts = false ∧ q.waits = false

theorem Ask.Inspects.idles {q : Ask} (h : q.Inspects) : q.Idles := by
  cases q with
  | page page call =>
    cases call with
    | isClosed | candidates | url => exact ⟨rfl, rfl⟩
    | _ => cases h
  | _ => cases h

theorem Ask.Pauses.idles {q : Ask} (h : q.Pauses) : q.Idles := by
  cases q with
  | page => cases h
  | _ => exact ⟨rfl, rfl⟩

namespace Runner

/-- A challenge was found, the task paused, and the pause ended by a request to resume it: its
signal, which waited at first, was given when the run went on, and nothing but accepting such a
request can have done that. -/
inductive Resumed (c : Pause.Coordinator) (run : Run) (index : Nat)
    (env : Responses State Ask Ask.Reply W) : W × State → List Ask → W × State → Prop where
  | intro {x found told : W × State} {inspecting telling : List Ask}
    {detection : Challenge.Detection} {h : Pause.Handle} {board : Pause.Board}
    (hinspect : (c.detector.inspect (some run.page)).Runs env x inspecting (.ok detection) found)
    (hfound : detection.isFound = true)
    (hbegin : found.2.board.begin? run.taskId (some run.page) index run.totalSteps =
      some (h, board))
    (htell : (Progress.announce c.channel run.taskId .paused index run.totalSteps
      "Verification challenge detected; waiting for an operator to resolve it").Runs env
      (found.1, { found.2 with board }) telling (.ok ()) told)
    (hwaiting : board.signal h.signal = .waiting)
    (hgiven : (env (.await (.settled h.signal) (some c.timeoutSec)) told).2.2.board.signal
      h.signal = .given)
    (haccepted : ∀ accepted,
      board.Leads accepted (env (.await (.settled h.signal) (some c.timeoutSec)) told).2.2.board →
      ∃ h' ∈ accepted, h'.signal = h.signal) :
    Resumed c run index env x
      (inspecting ++ (telling ++ [.await (.settled h.signal) (some c.timeoutSec)]))
      ((env (.await (.settled h.signal) (some c.timeoutSec)) told).2.1,
        { (env (.await (.settled h.signal) (some c.timeoutSec)) told).2.2 with
          board := (env (.await (.settled h.signal) (some c.timeoutSec)) told).2.2.board.remove h })

/-- What a run does in a step that matters to the page: it acts on it, waits for an element, or
goes on after a pause that an operator ended. -/
inductive Deed where
  | act (q : Ask)
  | wait (q : Ask)
  | resumed

def Deed.act? : Deed → Option Ask
  | .act q => some q
  | _ => none

def Deed.wait? : Deed → Option Ask
  | .wait q => some q
  | _ => none

/-- What is asked on the way, with the deeds done. -/
inductive Goes (r : Runner) (run : Run) (env : Responses State Ask Ask.Reply W) (index : Nat) :
    W × State → List Ask → List Deed → W × State → Prop where
  | idle {α : Type} {p : Activity α} {x y : W × State} {calls : List Ask} {result : Result α}
    (hruns : p.Runs env x calls result y) (hidles : ∀ q ∈ calls, q.Idles) :
    Goes r run env index x calls [] y
  | act {q : Ask} (hq : q.acts = true) (x : W × State) :
    Goes r run env index x [q] [.act q] (env q x).2
  | wait {q : Ask} (hq : q.waits = true) (x : W × State) :
    Goes r run env index x [q] [.wait q] (env q x).2
  | resumed {c : Pause.Coordinator} {x y : W × State} {calls : List Ask} (hc : c ∈ r.coordinator)
    (hresumed : Resumed c run index env x calls y) (hidles : ∀ q ∈ calls, q.Idles) :
    Goes r run env index x calls [.resumed] y
  | trans {x y z : W × State} {calls calls' : List Ask} {deeds deeds' : List Deed}
    (hfirst : Goes r run env index x calls deeds y)
    (hrest : Goes r run env index y calls' deeds' z) :
    Goes r run env index x (calls ++ calls') (deeds ++ deeds') z

/-- An element is waited for at most twice, the second time after a pause that came after the
first and was resumed. -/
inductive Awaited (q : Ask) : List Deed → Prop where
  | never : Awaited q []
  | once : Awaited q [.wait q]
  | again : Awaited q [.wait q, .resumed, .wait q]

/-- At most one pause was resumed, and nothing else happened. -/
inductive Passed : List Deed → Prop where
  | straight : Passed []
  | resumed : Passed [.resumed]

/-- The marker of a page that is ready. -/
def marker (r : Runner) (ready : String) : String :=
  if ready.isEmpty then r.settings.runner.readySelector else ready

def opening (r : Runner) (page : PageRef) (url : String) : Ask :=
  .page page (.goto url (some r.settings.browser.navigationTimeoutMs))

def clicking (r : Runner) (page : PageRef) (selector : String) : Ask :=
  .page page (.click selector r.settings.browser.defaultTimeoutMs)

/-- What an action does where it was carried out, however it ended. -/
inductive Does (r : Runner) (run : Run) : Action → List Deed → Prop where
  | navigate {url ready : String} {pause awaited : List Deed} (hpause : Passed pause)
    (hawaited : Awaited
      (.page run.page (.waitFor (r.marker ready) r.settings.runner.readyTimeoutMs)) awaited) :
    Does r run (.navigate url ready) (.act (r.opening run.page url) :: (pause ++ awaited))
  | wait {selector : String} {awaited : List Deed}
    (hawaited : Awaited
      (.page run.page (.waitFor selector r.settings.browser.defaultTimeoutMs)) awaited) :
    Does r run (.click selector) awaited
  | click {selector : String} {awaited pause : List Deed}
    (hawaited : Awaited
      (.page run.page (.waitFor selector r.settings.browser.defaultTimeoutMs)) awaited)
    (hpause : Passed pause) :
    Does r run (.click selector) (awaited ++ .act (r.clicking run.page selector) :: pause)

variable {r : Runner} {run : Run} {env : Responses State Ask Ask.Reply W} {index : Nat}
  {x y : W × State} {calls : List Ask} {deeds : List Deed} {g : Gathered}

theorem Ask.acts_of_waits {q : Ask} (h : q.waits = true) : q.acts = false := by
  cases q with
  | page page call =>
    cases call with
    | waitFor => rfl
    | _ => cases h
  | _ => cases h

theorem Ask.waits_of_acts {q : Ask} (h : q.acts = true) : q.waits = false := by
  cases hwaits : q.waits with
  | false => rfl
  | true => rw [Ask.acts_of_waits hwaits] at h; cases h

/-- What was asked that acts on the page are the deeds that act. -/
theorem Goes.acts (h : Goes r run env index x calls deeds y) :
    calls.filter Ask.acts = deeds.filterMap Deed.act? := by
  induction h with
  | idle _ hidles | resumed _ _ hidles =>
    exact List.filter_eq_nil_iff.mpr fun q hq => Bool.eq_false_iff.mp (hidles q hq).1
  | act hq => simp [hq, Deed.act?]
  | wait hq => simp [Ask.acts_of_waits hq, Deed.act?]
  | trans _ _ ihfirst ihrest => rw [List.filter_append, List.filterMap_append, ihfirst, ihrest]

theorem Goes.waits (h : Goes r run env index x calls deeds y) :
    calls.filter Ask.waits = deeds.filterMap Deed.wait? := by
  induction h with
  | idle _ hidles | resumed _ _ hidles =>
    exact List.filter_eq_nil_iff.mpr fun q hq => Bool.eq_false_iff.mp (hidles q hq).2
  | act hq => simp [Ask.waits_of_acts hq, Deed.wait?]
  | wait hq => simp [hq, Deed.wait?]
  | trans _ _ ihfirst ihrest => rw [List.filter_append, List.filterMap_append, ihfirst, ihrest]

/-! ## Pauses -/

/-- A pause that ends well was resumed. -/
theorem pause_resumed {c : Pause.Coordinator} {found : W × State} {inspecting : List Ask}
    {detection : Challenge.Detection}
    (hinspect : (c.detector.inspect (some run.page)).Runs env x inspecting (.ok detection) found)
    (hfound : detection.isFound = true)
    (h : (c.pause run.taskId (some run.page) index run.totalSteps).Runs env found calls (.ok ())
      y) :
    Resumed c run index env x (inspecting ++ calls) y := by
  have hpause := runs_read.mp h
  simp only [Program.bind] at hpause
  split at hpause
  · cases (runs_fail.mp hpause).2.1
  · rename_i handle board hbegin
    obtain ⟨_, _, rest, _, rfl, hwrite, hpause⟩ := runs_bind_ok.mp hpause
    obtain ⟨rfl, -, rfl⟩ := runs_modify.mp hwrite
    obtain ⟨_, telling, _, told, rfl, htell, hpause⟩ := runs_bind_ok.mp hpause
    obtain ⟨waiting, _, z, rfl, hawait, hremove⟩ := runs_ensure_ok.mp hpause
    obtain ⟨rfl, -, rfl⟩ := runs_modify.mp hremove
    obtain ⟨_, rfl, hgiven⟩ := runs_ask.mp hawait
    have hsignal := runs_read.mp hgiven
    have hwaits : board.signal handle.signal = .waiting := by
      obtain ⟨-, -, hnew, -, hsignals⟩ := Pause.Board.begin?_eq_some hbegin
      rw [Pause.Board.signal_append hsignals, if_pos hnew]
    simp only [Program.bind] at hsignal
    split at hsignal
    · rename_i hgave
      obtain ⟨rfl, -, rfl⟩ := runs_done.mp hsignal
      exact .intro hinspect hfound hbegin htell hwaits hgave
        fun accepted hleads => hleads.accepted hwaits hgave
    · cases (runs_fail.mp hsignal).2.1
    · obtain ⟨_, _, _, _, -, -, hfail⟩ := runs_bind_ok.mp hsignal
      cases (runs_fail.mp hfail).2.1
    · obtain ⟨_, _, _, _, -, -, hfail⟩ := runs_bind_ok.mp hsignal
      cases (runs_fail.mp hfail).2.1

theorem checkpoint_resumed {c : Pause.Coordinator}
    (h : (c.checkpoint run.taskId (some run.page) index run.totalSteps).Runs env x calls
      (.ok true) y) : Resumed c run index env x calls y := by
  obtain ⟨d, inspecting, rest, found, rfl, hinspect, hrest⟩ := runs_bind_ok.mp h
  by_cases hfound : d.isFound = true
  · rw [if_pos hfound] at hrest
    obtain ⟨_, pausing, _, z, rfl, hpause, hdone⟩ := runs_bind_ok.mp hrest
    obtain ⟨rfl, -, rfl⟩ := runs_done.mp hdone
    rw [List.append_nil]
    exact pause_resumed hinspect hfound hpause
  · rw [if_neg hfound] at hrest
    have hyields := (runs_done.mp hrest).2.1
    cases hyields.trans (congrArg _ (Bool.eq_false_iff.mpr hfound))

theorem idles_elapsed : Ask.elapsed.Idles := ⟨rfl, rfl⟩

theorem elapsed_goes (x : W × State) : Goes r run env index x [.elapsed] [] (env .elapsed x).2 :=
  .idle (runs_ask.mpr ⟨[], rfl, runs_done.mpr ⟨rfl, rfl, rfl⟩⟩) (by simpa using idles_elapsed)

/-- What is done at a checkpoint that yields `result`. -/
def resumedBy : Result (Option Double) → List Deed
  | .ok (some _) => [.resumed]
  | _ => []

theorem passed_resumedBy (result : Result (Option Double)) : Passed (resumedBy result) := by
  unfold resumedBy
  split
  · exact .resumed
  · exact .straight

theorem confined_coordinator_checkpoint {c : Pause.Coordinator} (hc : c.channel.Plain) :
    (c.checkpoint run.taskId (some run.page) index run.totalSteps).Confined Ask.Idles Paused := by
  have hpause : (c.pause run.taskId (some run.page) index run.totalSteps).Confined
      Ask.Idles Paused :=
    (Pause.Coordinator.confined_pause hc _ _ _ _).mono (fun _ => Ask.Pauses.idles) fun _ _ => id
  refine Confined.bind ((c.detector.confined_inspect _).mono (fun _ => Ask.Inspects.idles)
    fun _ _ => False.elim) fun d => ?_
  exact confined_ite (hpause.bind fun _ => confined_done _) (confined_done _)

section

variable (hr : r.Plain)
include hr

/-- A checkpoint asks for nothing to be done; it tells of a pause only if that was resumed. -/
theorem checkpoint_goes {result : Result (Option Double)}
    (h : (r.checkpoint run index).Runs env x calls result y) :
    Goes r run env index x calls (resumedBy result) y := by
  have hwhole := h
  unfold checkpoint at h
  split at h
  · obtain ⟨rfl, rfl, rfl⟩ := runs_done.mp h
    exact .idle hwhole nofun
  · rename_i c hc
    have hchecks : (c.checkpoint run.taskId (some run.page) index run.totalSteps).Confined
        Ask.Idles Paused := confined_coordinator_checkpoint (hr.pauses c hc)
    obtain ⟨_, rfl, hrest⟩ := elapsed_bind_runs.mp h
    rcases runs_bind.mp hrest with ⟨resumed, checking, _, z, rfl, hcheck, hlast⟩ |
      ⟨fault, rfl, hcheck⟩
    · have hidles := hchecks.asked hcheck
      cases resumed with
      | false =>
        obtain ⟨rfl, rfl, rfl⟩ := runs_done.mp hlast
        exact .idle hwhole (by simpa using And.intro idles_elapsed hidles)
      | true =>
        obtain ⟨_, rfl, hdone⟩ := elapsed_bind_runs.mp hlast
        obtain ⟨rfl, rfl, rfl⟩ := runs_done.mp hdone
        exact (elapsed_goes x).trans
          ((Goes.resumed hc (checkpoint_resumed hcheck) hidles).trans (elapsed_goes z))
    · exact .idle hwhole (by simpa using And.intro idles_elapsed (hchecks.asked hcheck))

omit hr in
theorem waitVisible_goes {selector : String} {timeoutMs : Int} {result : Result ElementRef}
    (h : (run.page.waitVisible selector timeoutMs).Runs env x calls result y) :
    Goes r run env index x calls [.wait (.page run.page (.waitFor selector timeoutMs))] y := by
  obtain ⟨inner, _, rest, z, rfl, hcall, hrest⟩ := runs_attempt_bind.mp h
  obtain ⟨_, rfl, hanswer⟩ := runs_ask.mp hcall
  obtain ⟨rfl, -, rfl⟩ := runs_ofResult.mp hanswer
  have hdone : rest = [] ∧ y = (env (.page run.page (.waitFor selector timeoutMs)) x).2 := by
    split at hrest
    · exact ⟨(runs_done.mp hrest).1, (runs_done.mp hrest).2.2⟩
    · exact ⟨(runs_fail.mp hrest).1, (runs_fail.mp hrest).2.2⟩
    · exact ⟨(runs_fail.mp hrest).1, (runs_fail.mp hrest).2.2⟩
    · exact ⟨(runs_fail.mp hrest).1, (runs_fail.mp hrest).2.2⟩
  obtain ⟨rfl, rfl⟩ := hdone
  exact .wait rfl x

omit hr in
theorem call_goes {call : PageCall} (hacts : call.acts = true) {result : Result call.Answer}
    (h : (run.page.call call).Runs env x calls result y) :
    Goes r run env index x calls [.act (.page run.page call)] y := by
  obtain ⟨_, rfl, hanswer⟩ := runs_ask.mp h
  obtain ⟨rfl, -, rfl⟩ := runs_ofResult.mp hanswer
  exact .act (q := .page run.page call) hacts x

/-- An element that does not come is waited for once more after a pause that was resumed. -/
theorem waitThroughPause_goes {selector : String} {timeoutMs : Int}
    {result : Result (Option Double)}
    (h : (r.waitThroughPause run index selector timeoutMs).Runs env x calls result y) :
    ∃ deeds, Awaited (.page run.page (.waitFor selector timeoutMs)) deeds ∧
      Goes r run env index x calls deeds y := by
  obtain ⟨inner, waiting, rest, z, rfl, hwait, hrest⟩ := runs_attempt_bind.mp h
  have hfirst : Goes r run env index x waiting _ z := waitVisible_goes hwait
  split at hrest
  · obtain ⟨rfl, -, rfl⟩ := runs_done.mp hrest
    exact ⟨_, .once, by rwa [List.append_nil]⟩
  · rcases runs_bind.mp hrest with ⟨pause, checking, _, z', rfl, hcheck, hagain⟩ |
      ⟨fault, rfl, hcheck⟩
    · have hpaused := hfirst.trans (checkpoint_goes hr hcheck)
      cases pause with
      | none =>
        obtain ⟨rfl, -, rfl⟩ := runs_fail.mp hagain
        exact ⟨_, .once, by simpa [resumedBy] using hpaused⟩
      | some seconds =>
        obtain ⟨_, hwaited, -⟩ := runs_bind_done hagain
        exact ⟨_, .again, by simpa [resumedBy] using hpaused.trans (waitVisible_goes hwaited)⟩
    · exact ⟨_, .once, hfirst.trans (checkpoint_goes hr hcheck)⟩
  · obtain ⟨rfl, -, rfl⟩ := runs_fail.mp hrest
    exact ⟨_, .once, by rwa [List.append_nil]⟩

theorem navigate_goes {url ready : String} {result : Result (Outcome × Gathered)}
    (h : (r.navigate run index url ready g).Runs env x calls result y) :
    ∃ deeds, Does r run (.navigate url ready) deeds ∧ Goes r run env index x calls deeds y := by
  rcases runs_bind.mp h with ⟨_, opening, _, opened, rfl, hopen, h⟩ | ⟨_, rfl, hopen⟩
  swap
  · exact ⟨_, .navigate .straight .never, call_goes rfl hopen⟩
  have hgoto : Goes r run env index x opening [.act (r.opening run.page url)] opened :=
    call_goes rfl hopen
  rcases runs_bind.mp h with ⟨pause, checking, _, checked, rfl, hcheck, h⟩ | ⟨_, rfl, hcheck⟩
  swap
  · exact ⟨_, .navigate .straight .never, hgoto.trans (checkpoint_goes hr hcheck)⟩
  have hchecked := hgoto.trans (checkpoint_goes hr hcheck)
  dsimp only at h
  generalize hmarker : (if ready.isEmpty then r.settings.runner.readySelector else ready) =
    marker at h
  obtain rfl : r.marker ready = marker := hmarker
  split at h
  · obtain ⟨rfl, -, rfl⟩ := runs_done.mp h
    exact ⟨_, .navigate (passed_resumedBy _) .never, by simpa using hchecked⟩
  · obtain ⟨inner, hwait, -⟩ := runs_bind_done h
    obtain ⟨_, hwaits, -⟩ := runs_rescueIf_settled (fun _ => ⟨.error _, rfl⟩) hwait
    obtain ⟨awaited, hawaited, hgoes⟩ := waitThroughPause_goes hr hwaits
    exact ⟨_, .navigate (passed_resumedBy _) hawaited, by simpa using hchecked.trans hgoes⟩

theorem click_goes {selector : String} {result : Result (Outcome × Gathered)}
    (h : (r.click run index selector g).Runs env x calls result y) :
    ∃ deeds, Does r run (.click selector) deeds ∧ Goes r run env index x calls deeds y := by
  rcases runs_bind.mp h with ⟨pause, waiting, _, waited, rfl, hwait, h⟩ | ⟨_, rfl, hwait⟩
  swap
  · obtain ⟨awaited, hawaited, hgoes⟩ := waitThroughPause_goes hr hwait
    exact ⟨awaited, .wait hawaited, hgoes⟩
  obtain ⟨awaited, hawaited, hgoes⟩ := waitThroughPause_goes hr hwait
  rcases runs_bind.mp h with ⟨_, clicking, _, clicked, rfl, hclick, h⟩ | ⟨_, rfl, hclick⟩
  swap
  · exact ⟨_, .click hawaited .straight, hgoes.trans (call_goes rfl hclick)⟩
  have hcall : Goes r run env index waited clicking [.act (r.clicking run.page selector)] clicked :=
    call_goes rfl hclick
  obtain ⟨_, hcheck, -⟩ := runs_bind_done h
  exact ⟨_, .click hawaited (passed_resumedBy _),
    hgoes.trans (hcall.trans (checkpoint_goes hr hcheck))⟩

end

/-! ## Steps -/

def opening? (r : Runner) (page : PageRef) : Action → Option Ask
  | .navigate url _ => some (r.opening page url)
  | _ => none

def clicking? (r : Runner) (page : PageRef) : Action → Option Ask
  | .click selector => some (r.clicking page selector)
  | _ => none

/-- What is asked while an action is carried out, however it ends. Only some actions do anything to
the page. -/
inductive Carries (r : Runner) (run : Run) (env : Responses State Ask Ask.Reply W) (index : Nat)
    (action : Action) : W × State → List Ask → W × State → Prop where
  | does {x y : W × State} {calls : List Ask} {deeds : List Deed} (hdoes : Does r run action deeds)
    (hgoes : Goes r run env index x calls deeds y) : Carries r run env index action x calls y
  | looks {x y : W × State} {calls : List Ask} (hopening : r.opening? run.page action = none)
    (hclicking : r.clicking? run.page action = none) (hlooks : ∀ q ∈ calls, q.acts = false) :
    Carries r run env index action x calls y

/-- An action acts on the page at most once. -/
inductive ActsOnce (r : Runner) (page : PageRef) : Action → List Ask → Prop where
  | opens {url ready : String} : ActsOnce r page (.navigate url ready) [r.opening page url]
  | clicks {selector : String} : ActsOnce r page (.click selector) [r.clicking page selector]
  | none {action : Action} (hopening : r.opening? page action = none) : ActsOnce r page action []

theorem ActsOnce.opened {page : PageRef} {action : Action} {acts : List Ask}
    (h : ActsOnce r page action acts) :
    acts.filter Ask.opens = (r.opening? page action).toList := by
  cases h with
  | opens | clicks => rfl
  | none hopening => rw [hopening]; rfl

theorem ActsOnce.clicked {page : PageRef} {action : Action} {acts : List Ask}
    (h : ActsOnce r page action acts) :
    (acts.filter Ask.clicks).Sublist (r.clicking? page action).toList := by
  cases h with
  | opens | none => exact List.nil_sublist _
  | clicks => exact List.Sublist.refl _

theorem Awaited.acts {q : Ask} (h : Awaited q deeds) : deeds.filterMap Deed.act? = [] := by
  cases h <;> rfl

theorem Passed.acts (h : Passed deeds) : deeds.filterMap Deed.act? = [] := by
  cases h <;> rfl

theorem Does.acts {action : Action} (h : Does r run action deeds) :
    ActsOnce r run.page action (deeds.filterMap Deed.act?) := by
  cases h with
  | navigate hpause hawaited =>
    simpa [Deed.act?, hpause.acts, hawaited.acts] using ActsOnce.opens
  | wait hawaited =>
    rw [hawaited.acts]
    exact .none rfl
  | click hawaited hpause =>
    simpa [Deed.act?, hpause.acts, hawaited.acts] using ActsOnce.clicks

theorem Carries.acts {action : Action} (h : Carries r run env index action x calls y) :
    ActsOnce r run.page action (calls.filter Ask.acts) := by
  cases h with
  | does hdoes hgoes =>
    rw [hgoes.acts]
    exact hdoes.acts
  | looks hopening _ hlooks =>
    rw [List.filter_eq_nil_iff.mpr fun q hq => Bool.eq_false_iff.mp (hlooks q hq)]
    exact .none hopening

theorem carries_perform (hr : r.Plain) {action : Action} {result : Result (Outcome × Gathered)}
    (h : (r.perform run index g action).Runs env x calls result y) :
    Carries r run env index action x calls y := by
  cases action with
  | navigate url ready =>
    obtain ⟨_, hdoes, hgoes⟩ := navigate_goes hr h
    exact .does hdoes hgoes
  | click selector =>
    obtain ⟨_, hdoes, hgoes⟩ := click_goes hr h
    exact .does hdoes hgoes
  | _ =>
    exact .looks rfl rfl fun q hq => ((views_perform g (by simp) (by simp)).asked h q hq).1.2

theorem carries_performStep (hr : r.Plain) {step : Step} {result : Result (Outcome × Gathered)}
    (h : (r.performStep run index step g).Runs env x calls result y) :
    Carries r run env index step.action x calls y := by
  obtain ⟨_, hperform, -⟩ := runs_rescueIf_settled (fun _ => ⟨.ok _, rfl⟩) h
  exact carries_perform hr hperform

end Runner
end Pageflow
