import Pageflow.Proofs.Pause.Overlap
import Pageflow.Proofs.Workflow.Accounts

/-! Executions that overlap leave each other's pauses alone, up to the turn in which one hands its
page back: there it drops the pause of its task, and if another execution of the same task waits
for it, that one is cancelled. -/
namespace Pageflow.Pause.Sharing
open Browser

/-- The pause is neither cancelled nor taken off the board in this turn. -/
def Stays (m : Move State Unit) (h : Handle) : Prop :=
  h ∈ m.after.2.board.handles ∧
    m.after.2.board.signal h.signal = m.before.2.board.signal h.signal

/-- What a call has not begun itself stays. -/
def KeepsOut (earlier : History) (m : Move State Unit) : Prop :=
  ∀ h ∈ m.before.2.board.handles, ¬ Began earlier m.who h.signal → Stays m h

/-- From this turn on no pause of the task is on, and the call changes the board no more. -/
def HandsBack (taskId : String) (m : Move State Unit) (later : History) : Prop :=
  m.after.2.board.handle? taskId = none ∧
    ∀ m' ∈ later, m'.who = m.who → m'.after.2.board = m'.before.2.board

/-- Another execution has withdrawn the signal of a pause that execution `i` had begun. -/
def Robbed (requests : Nat → Request) (history : History) (i : Nat) : Prop :=
  ∃ earlier m later, history = earlier ++ m :: later ∧ m.who ≠ i ∧
    (requests m.who).task?.isSome ∧ ∃ h ∈ m.before.2.board.handles, Began earlier i h.signal ∧
      m.before.2.board.signal h.signal = .waiting ∧ m.after.2.board.signal h.signal = .withdrawn

/-- No execution cancels or takes off a pause that another one has begun, and none is cancelled. -/
def Apart (requests : Nat → Request) (history : History)
    (stage : Nat → Stage State Ask Ask.Reply (Option Execution)) : Prop :=
  (∀ earlier m later, history = earlier ++ m :: later → (requests m.who).task?.isSome →
    KeepsOut earlier m) ∧
  ∀ i, (requests i).task?.isSome → stage i ≠ .ended (.error .cancelled)

/-- The execution got a page and came to its steps: it has completed, one of them has failed, or it
was cancelled. -/
def Stepped (result : Result Execution) : Prop :=
  result = .error .cancelled ∨ ∃ e, result = .ok e ∧ ∀ f ∈ e.failure, f.stepIndex.isSome

/-! ## Runs -/

section

variable {requests : Nat → Request} {history : History} {stance : Nat → Stance}
  {x s : Unit × State} {i : Nat} {taskId : String}

theorem split_append {α : Type} {history earlier later : List α} {m last : α}
    (hsplit : history ++ [last] = earlier ++ m :: later) :
    (earlier = history ∧ m = last ∧ later = []) ∨
      ∃ later', later = later' ++ [last] ∧ history = earlier ++ m :: later' := by
  rcases List.eq_nil_or_concat' later with rfl | ⟨later', last', rfl⟩
  · obtain ⟨rfl, rfl⟩ := List.append_singleton_inj.mp hsplit
    exact .inl ⟨rfl, rfl, rfl⟩
  · rw [← List.cons_append, ← List.append_assoc] at hsplit
    obtain ⟨rfl, rfl⟩ := List.append_singleton_inj.mp hsplit
    exact .inr ⟨later', rfl, rfl⟩

theorem plays_consistent (hempty : x.2.board = .empty)
    (hplays : Plays climate (fun i => (requests i).contract) x history s stance) :
    Consistent history s.2.board stance := by
  induction hplays with
  | start =>
    have hnone : ∀ {i n}, ¬ Began [] i n := by
      rintro i n ⟨_, hmem, -⟩
      cases hmem
    rw [hempty]
    refine ⟨Board.sound_empty, nofun, fun i n hi => (hnone hi).elim,
      fun i j n hi => (hnone hi).elim, fun i h hi => ?_, fun i n hi => (hnone hi).elim⟩
    cases hrequest : requests i with
    | execute | resume =>
      simp only [hrequest] at hi
      cases hi
  | turn who _ hmoves ih => exact ih.turn hmoves
  | happen _ hsame ih => exact (show _ = _ from hsame) ▸ ih

theorem began_append_of_began {n : Nat} (h : Began history i n) (later : History) :
    Began (history ++ later) i n := by
  obtain ⟨m, hm, hbegan⟩ := h
  exact ⟨m, List.mem_append_left _ hm, hbegan⟩

/-- A move of a call that changes the board no more. -/
theorem HandsBack.append {m last : Move State Unit} {later : History}
    (hback : HandsBack taskId m later)
    (hlast : last.who = m.who → last.after.2.board = last.before.2.board) :
    HandsBack taskId m (later ++ [last]) := by
  refine ⟨hback.1, fun m' hm' => ?_⟩
  rcases List.mem_append.mp hm' with hm' | hm'
  · exact hback.2 m' hm'
  · rw [List.mem_singleton.mp hm']
    exact hlast

theorem turns_of_task? {request : Request} {φ φ' : Stance} {y : Unit × State}
    (htask : request.task? = some taskId) (hmoves : request.contract.moves φ s φ' y) :
    Turns taskId φ s.2.board φ' y.2.board := by
  cases request with
  | execute r w context =>
    cases htask
    exact hmoves
  | resume => cases htask

theorem Consistent.keepsOut {who : Nat} {φ : Stance} {y : Unit × State}
    (hc : Consistent history s.2.board stance)
    (hturns : Turns taskId (stance who) s.2.board φ y.2.board) :
    (φ.IsOver ∧ y.2.board.handle? taskId = none ∨ KeepsOut history ⟨who, s, y⟩) ∧
      ∀ h ∈ s.2.board.handles, ¬ Began history who h.signal → h.taskId ≠ taskId →
        Stays ⟨who, s, y⟩ h := by
  have hforeign : ∀ {h : Handle}, ¬ Began history who h.signal →
      ∀ h', (stance who).handle? = some h' → h.signal ≠ h'.signal := by
    rintro h hnot h' hheld heq
    exact hnot (heq ▸ hc.owns who h' hheld)
  obtain ⟨hdrops, hothers⟩ := hturns.stays_or_drops hc.sound fun h => hc.leaving
  exact ⟨hdrops.imp_right fun hstays h hh hnot => hstays h hh (hforeign hnot),
    fun h hh hnot htask => hothers h hh (hforeign hnot) htask⟩

/-- An execution keeps out of the pauses of others, up to where it hands its page back. -/
theorem plays_keepsOut (hempty : x.2.board = .empty)
    (hplays : Plays climate (fun i => (requests i).contract) x history s stance)
    {earlier later : History} {m : Move State Unit} (hsplit : history = earlier ++ m :: later)
    (htask : (requests m.who).task? = some taskId) :
    ((stance m.who).IsOver ∧ HandsBack taskId m later ∨ KeepsOut earlier m) ∧
      ∀ h ∈ m.before.2.board.handles, ¬ Began earlier m.who h.signal → h.taskId ≠ taskId →
        Stays m h := by
  induction hplays generalizing later with
  | start => simp at hsplit
  | turn who hplays hmoves ih =>
    rcases split_append hsplit with ⟨rfl, rfl, rfl⟩ | ⟨later', rfl, hsplit'⟩
    · obtain ⟨hdrops, hothers⟩ :=
        (plays_consistent hempty hplays).keepsOut (turns_of_task? htask hmoves)
      refine ⟨hdrops.imp_left fun hdrops => ?_, hothers⟩
      rw [Function.update_self]
      exact ⟨hdrops.1, hdrops.2, nofun⟩
    · obtain ⟨hdrops, hothers⟩ := ih hsplit'
      refine ⟨hdrops.imp_left fun ⟨hover, hback⟩ => ?_, hothers⟩
      by_cases hwho : m.who = who
      · subst hwho
        obtain ⟨rfl, hsame⟩ := (turns_of_task? htask hmoves).eq_of_over hover
        rw [Function.update_self]
        exact ⟨hover, hback.append fun _ => hsame⟩
      · rw [Function.update_of_ne hwho]
        exact ⟨hover, hback.append fun heq => absurd heq.symm hwho⟩
  | happen _ _ ih => exact ih hsplit

/-- An execution that has handed its page back did so in one of its turns. -/
theorem plays_handsBack (hempty : x.2.board = .empty)
    (hplays : Plays climate (fun i => (requests i).contract) x history s stance)
    (htask : (requests i).task? = some taskId) (hover : (stance i).IsOver) :
    ∃ earlier m later, history = earlier ++ m :: later ∧ m.who = i ∧
      HandsBack taskId m later := by
  induction hplays with
  | start =>
    cases hrequest : requests i with
    | execute | resume =>
      simp only [hrequest] at hover
      exact hover.elim
  | @turn history s y stance who φ hplays hmoves ih =>
    have hextend : (stance i).IsOver → (who = i → y.2.board = s.2.board) →
        ∃ earlier m later, history ++ [⟨who, s, y⟩] = earlier ++ m :: later ∧ m.who = i ∧
          HandsBack taskId m later := by
      rintro hbefore hsame
      obtain ⟨earlier, m, later, rfl, rfl, hback⟩ := ih hbefore
      exact ⟨earlier, m, later ++ [⟨who, s, y⟩], by simp, rfl, hback.append hsame⟩
    by_cases hwho : i = who
    · subst hwho
      rw [Function.update_self] at hover
      have hturns := turns_of_task? htask hmoves
      by_cases hbefore : (stance i).IsOver
      · exact hextend hbefore fun _ => (hturns.eq_of_over hbefore).2
      · have hc := plays_consistent hempty hplays
        have hdrops := hturns.drops_of_over hc.sound (fun h => hc.leaving) hbefore hover
        exact ⟨history, _, [], rfl, rfl, hdrops, nofun⟩
    · rw [Function.update_of_ne hwho] at hover
      exact hextend hover fun heq => absurd heq.symm hwho
  | happen _ _ ih => exact ih hover

theorem robbed_append {m : Move State Unit} : Robbed requests (history ++ [m]) i ↔
    Robbed requests history i ∨ m.who ≠ i ∧ (requests m.who).task?.isSome ∧
      ∃ h ∈ m.before.2.board.handles, Began history i h.signal ∧
        m.before.2.board.signal h.signal = .waiting ∧
        m.after.2.board.signal h.signal = .withdrawn := by
  constructor
  · rintro ⟨earlier, m', later, hsplit, hrobs⟩
    rcases split_append hsplit with ⟨rfl, rfl, rfl⟩ | ⟨later', rfl, rfl⟩
    · exact .inr hrobs
    · exact .inl ⟨earlier, m', later', rfl, hrobs⟩
  · rintro (⟨earlier, m', later, rfl, hrobs⟩ | hrobs)
    · exact ⟨earlier, m', later ++ [m], by simp, hrobs⟩
    · exact ⟨history, m, [], rfl, hrobs⟩

/-- An execution has lost its pause exactly if another one has withdrawn it. -/
theorem plays_lost_iff (hempty : x.2.board = .empty)
    (hplays : Plays climate (fun i => (requests i).contract) x history s stance)
    (htask : (requests i).task? = some taskId) :
    (stance i).Lost s.2.board ↔ Robbed requests history i := by
  induction hplays with
  | start =>
    cases hrequest : requests i with
    | execute r w context =>
      simp only [hrequest]
      exact ⟨False.elim, fun ⟨_, _, _, hsplit, _⟩ => by simp at hsplit⟩
    | resume =>
      rw [hrequest] at htask
      cases htask
  | @turn history s y stance who φ hplays hmoves ih =>
    rw [robbed_append, ← ih]
    by_cases hwho : i = who
    · subst hwho
      rw [Function.update_self, (turns_of_task? htask hmoves).lost_iff, or_iff_left]
      exact fun hother => hother.1 rfl
    · rw [Function.update_of_ne hwho, (plays_consistent hempty hplays).lost_iff hmoves i]
      refine or_congr_right
        ⟨fun ⟨h, hh, hbegan, hwaiting, hwithdrawn⟩ => ?_, fun hrobs => hrobs.2.2⟩
      exact ⟨Ne.symm hwho, task?_of_withdrawn hmoves hwaiting hwithdrawn, h, hh, hbegan, hwaiting,
        hwithdrawn⟩
  | happen _ hsame ih =>
    rw [show _ = _ from hsame]
    exact ih

theorem ends_of_task? {request : Request} {φ : Stance} {result : Result (Option Execution)}
    (htask : request.task? = some taskId) (hends : request.contract.ends φ result) :
    ∃ result', result = some <$> result' ∧ φ.Ends result' := by
  cases request with
  | execute => exact hends
  | resume => cases htask

theorem Stance.Ends.cancelled_iff {φ : Stance} {result : Result Execution} (hends : φ.Ends result)
    (b : Board) : result = .error .cancelled ↔ φ.Lost b := by
  cases φ with
  | handedBack lost =>
    cases lost with
    | some h => exact iff_of_true hends trivial
    | none => exact iff_of_false hends id
  | unpaged => exact iff_of_false hends.1 id
  | _ => exact hends.elim

theorem Stance.Ends.isOver {φ : Stance} {result : Result Execution} (hends : φ.Ends result)
    (hstepped : Stepped result) : φ.IsOver := by
  cases φ with
  | handedBack => trivial
  | unpaged =>
    rcases hstepped with rfl | ⟨e, rfl, hfailure⟩
    · exact absurd rfl hends.1
    · obtain ⟨f, hf, hnone⟩ := hends.2 e rfl
      simpa [hnone] using hfailure f hf
  | _ => exact hends.elim

theorem map_some_inj {result result' : Result Execution}
    (h : (some <$> result : Result (Option Execution)) = some <$> result') : result = result' := by
  cases result with
  | ok e =>
    cases result' with
    | ok e' =>
      cases h
      rfl
    | error fault => cases h
  | error fault =>
    cases result' with
    | ok e' => cases h
    | error fault' =>
      cases h
      rfl

theorem not_robbed {b : Board} (hc : Consistent history b stance)
    (hkeeps : ∀ earlier m later, history = earlier ++ m :: later → (requests m.who).task?.isSome →
      KeepsOut earlier m) (i : Nat) : ¬ Robbed requests history i := by
  rintro ⟨earlier, m, later, rfl, hne, hother, h, hh, hbegan, hwaiting, hwithdrawn⟩
  have hforeign : ¬ Began earlier m.who h.signal := fun hbegan' =>
    hne (hc.once _ _ _ (began_append_of_began hbegan' _) (began_append_of_began hbegan _))
  obtain ⟨-, hsame⟩ := hkeeps earlier m later rfl hother h hh hforeign
  rw [hsame, hwaiting] at hwithdrawn
  cases hwithdrawn

/-- Executions that overlap stay apart exactly if none hands its page back while another one of
the same task is paused. Each that came to its steps hands its page back in one turn, and it is
cancelled exactly if another one has withdrawn its pause. -/
theorem apart_iff (requests : Nat → Request) (hshares : ∀ i, (requests i).Shares)
    {x : Unit × State} (hempty : x.2.board = .empty) {history : History}
    {e : Ensemble State Ask Ask.Reply Unit (Option Execution)}
    (hreaches : Reaches climate (fun i => (requests i).run) x history e) :
    (Apart requests history e.stage ↔ ∀ earlier m later taskId, history = earlier ++ m :: later →
      (requests m.who).task? = some taskId → HandsBack taskId m later →
        ∀ h ∈ m.before.2.board.handles, h.taskId = taskId → Began earlier m.who h.signal) ∧
    ∀ i taskId result, (requests i).task? = some taskId → e.stage i = .ended (some <$> result) →
      (Stepped result → ∃ earlier m later, history = earlier ++ m :: later ∧ m.who = i ∧
        HandsBack taskId m later) ∧
      (result = .error .cancelled ↔ Robbed requests history i) := by
  obtain ⟨stance, hplays, hstands⟩ := hreaches.plays (fun i => (requests i).contract)
    (fun i y _ _ => keeps_request (hshares i) y) (fun _ _ _ _ i => by
      cases hrequest : requests i with
      | execute | resume => trivial)
  have hended : ∀ {i taskId result}, (requests i).task? = some taskId →
      e.stage i = .ended result → ∃ result', result = some <$> result' ∧
        (stance i).Ends result' := by
    intro i taskId result htask hstage
    have hstand := hstands i
    rw [hstage] at hstand
    exact ends_of_task? htask hstand
  have hrobbed : ∀ {i taskId}, (requests i).task? = some taskId →
      e.stage i = .ended (.error .cancelled) → Robbed requests history i := by
    intro i taskId htask hstage
    obtain ⟨result, hresult, hends⟩ := hended htask hstage
    have hcancelled : .error .cancelled = result := map_some_inj hresult
    exact (plays_lost_iff hempty hplays htask).mp ((hends.cancelled_iff _).mp hcancelled.symm)
  refine ⟨⟨?_, fun hown => ?_⟩, fun i taskId result htask hstage => ?_⟩
  · rintro ⟨hkeeps, -⟩ earlier m later taskId hsplit htask hback h hh rfl
    by_contra hnot
    obtain ⟨hmem, -⟩ := hkeeps earlier m later hsplit (by rw [htask]; rfl) h hh hnot
    simpa using List.find?_eq_none.mp hback.1 h hmem
  · have hkeeps : ∀ earlier m later, history = earlier ++ m :: later →
        (requests m.who).task?.isSome → KeepsOut earlier m := by
      intro earlier m later hsplit hsome
      obtain ⟨taskId, htask⟩ := Option.isSome_iff_exists.mp hsome
      obtain ⟨⟨-, hback⟩ | hkeeps, hothers⟩ := plays_keepsOut hempty hplays hsplit htask
      · refine fun h hh hnot => hothers h hh hnot fun heq => hnot ?_
        exact hown earlier m later taskId hsplit htask hback h hh heq
      · exact hkeeps
    refine ⟨hkeeps, fun i hsome hstage => ?_⟩
    obtain ⟨taskId, htask⟩ := Option.isSome_iff_exists.mp hsome
    exact not_robbed (plays_consistent hempty hplays) hkeeps i (hrobbed htask hstage)
  · obtain ⟨result', hresult, hends⟩ := hended htask hstage
    obtain rfl : result = result' := map_some_inj hresult
    refine ⟨fun hstepped => plays_handsBack hempty hplays htask (hends.isOver hstepped), ?_⟩
    rw [hends.cancelled_iff e.site.2.board, plays_lost_iff hempty hplays htask]

end

/-- The runner of a service shares the board with all others. -/
theorem shares_service (s : Service) (hcoordinator : s.coordinator.isSome = true)
    (hpauses : ∀ c ∈ s.coordinator, c.channel = Progress.busChannel) : Shares s.runner where
  coordinator := hcoordinator
  pauses c hc := .inr (hpauses c hc)
  channel := .inr rfl
  acquire := Session.calm_acquire tolerates_sameBoard spares_climate (fun _ _ => rfl) _
  release page := Session.calm_release tolerates_sameBoard spares_climate page

/-! ## Two executions of one task -/

def twins : Nat → Request
  | 0 | 1 => .execute Runner.sampleService.runner Runner.sampleWorkflow Runner.sampleContext
  | _ => .resume (.ofSettings Runner.sampleSettings.challenge) "t"

theorem shares_twins (i : Nat) : (twins i).Shares := by
  have hservice : Shares Runner.sampleService.runner :=
    shares_service _ rfl fun c hc => by
      cases hc
      rfl
  match i with
  | 0 | 1 => exact hservice
  | _ + 2 => exact .inr rfl

abbrev twinTasks (i : Nat) : Activity (Option Execution) := (twins i).run

def waiting (q : Ask) : Option (Ask.Reply q) := none

theorem settles_waiting : climate.Settles waiting := ⟨fun _ _ => id, fun _ _ => nofun⟩

/-- The second execution gets a page of its own, which shows no challenge. -/
def secondPage : (q : Ask) → Ask.Reply q
  | .browser (.newPage _) => .ok ⟨1⟩
  | q => Runner.obliging false q

theorem spares_secondPage (q : Ask) : q.Spares (secondPage q) := by
  unfold secondPage
  split
  · exact uncancelled_ok _
  · exact Runner.spares_obliging false _

/-- The first execution is paused at a challenge; the second one goes through. -/
def passedBy : Ensemble State Ask Ask.Reply Unit (Option Execution) :=
  let paused := ((Ensemble.start ((), {})).call waiting 0 (twinTasks 0)).replies waiting 0
    (Runner.obliging true) 23
  (paused.call waiting 1 (twinTasks 1)).replies waiting 1 secondPage 27

def droppedPause : Ensemble State Ask Ask.Reply Unit (Option Execution) :=
  passedBy.replies waiting 0 (Runner.obliging false) 6

theorem reaches_droppedPause : ∃ history,
    Reaches climate twinTasks ((), {}) history droppedPause := by
  have hstart : Reaches climate twinTasks ((), {}) [] _ := .start
  have hbegun := hstart.call settles_waiting 0 rfl trivial
  obtain ⟨_, hpaused⟩ := hbegun.replies settles_waiting _
    (fun q _ => Runner.spares_obliging true q) 0 23
  have hsecond := hpaused.call settles_waiting 1
    (Ensemble.replies_stage_of_ne Nat.one_ne_zero ..) trivial
  obtain ⟨_, hpassed⟩ := hsecond.replies settles_waiting _ (fun q _ => spares_secondPage q) 1 27
  exact hpassed.replies settles_waiting _ (fun q _ => Runner.spares_obliging false q) 0 6

theorem stages_droppedPause : droppedPause.stage 0 = .ended (.error .cancelled) ∧
    ∃ e, droppedPause.stage 1 = .ended (.ok (some e)) ∧ e.failure = none := by
  have hended : (droppedPause.result? 0).any (fun result => ¬ Uncancelled result) = true := by
    decide +kernel
  have hcompleted : ((droppedPause.result? 1).bind fun result => result.toOption.join).map
      (fun e => e.failure) = some none := by decide +kernel
  obtain ⟨result, hresult, hnot⟩ := (Option.any_eq_true _ _).mp hended
  have hcancelled : ¬ Uncancelled result := of_decide_eq_true hnot
  obtain rfl : result = .error .cancelled := not_not.mp hcancelled
  refine ⟨Ensemble.stage_eq_ended hresult, ?_⟩
  obtain ⟨e, he, hfailure⟩ := Option.map_eq_some_iff.mp hcompleted
  obtain ⟨result, hresult, hjoin⟩ := Option.bind_eq_some_iff.mp he
  rcases result with fault | answer
  · cases hjoin
  obtain rfl : answer = some e := hjoin
  exact ⟨e, Ensemble.stage_eq_ended hresult, hfailure⟩

theorem apart_iff_droppedPause : ∃ history,
    Reaches climate twinTasks ((), {}) history droppedPause ∧
    ¬ (∀ earlier m later taskId, history = earlier ++ m :: later →
      (twins m.who).task? = some taskId → HandsBack taskId m later →
        ∀ h ∈ m.before.2.board.handles, h.taskId = taskId → Began earlier m.who h.signal) ∧
    Robbed twins history 0 ∧
    ∃ earlier m later, history = earlier ++ m :: later ∧ m.who = 1 ∧ HandsBack "t" m later := by
  obtain ⟨history, hreaches⟩ := reaches_droppedPause
  obtain ⟨hcancelled, e, hcompleted, hfailure⟩ := stages_droppedPause
  obtain ⟨hapart, hended⟩ := apart_iff twins shares_twins rfl hreaches
  refine ⟨history, hreaches, fun hnone => (hapart.mpr hnone).2 0 rfl hcancelled, ?_, ?_⟩
  · exact (hended 0 "t" (.error .cancelled) rfl hcancelled).2.mp rfl
  · refine (hended 1 "t" (.ok e) rfl hcompleted).1 (.inr ⟨e, rfl, fun f hf => ?_⟩)
    rw [hfailure] at hf
    cases hf

/-- The second execution has completed, and the first one is cancelled. -/
theorem droppedPause_not_apart : ∃ history,
    Reaches climate twinTasks ((), {}) history droppedPause ∧
    ¬ Apart twins history droppedPause.stage := by
  obtain ⟨history, hreaches⟩ := reaches_droppedPause
  exact ⟨history, hreaches, fun hapart => hapart.2 0 rfl stages_droppedPause.1⟩

end Pageflow.Pause.Sharing
