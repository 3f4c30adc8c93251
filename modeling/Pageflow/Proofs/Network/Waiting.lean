import Mathlib.Algebra.Order.Floor.Semiring
import Mathlib.Data.List.Induction
import Mathlib.Data.Rat.Floor
import Mathlib.Tactic.FieldSimp
import Mathlib.Tactic.Linarith
import Pageflow.Network.Idle
import Pageflow.Network.Monitor
import Pageflow.Proofs.Activity.Asked
import Pageflow.Proofs.Number.Double

/-! Waiting for a quiet network, look by look. The wait ends at the first look that finds the page
settled or the deadline passed; a look that finds both ends it well. -/
namespace Pageflow.Network

/-! ## What a monitor knows

Of everything a page has told since the monitor was attached, the monitor keeps the requests whose
last event is their start, and the time of the last event. -/

/-- An event of a request that a page told of, and when. -/
structure Sighting where
  event : RequestEvent
  id : String
  time : Double

/-- The last event of a request. -/
def lastEvent (id : String) (history : List Sighting) : Option RequestEvent :=
  (history.reverse.find? (·.id = id)).map (·.event)

/-- When something last happened, counted from the time of attaching. -/
def lastChange (attached : Double) (history : List Sighting) : Double :=
  (history.getLast?.map (·.time)).getD attached

/-- Every request seen has finished or failed last, and nothing has happened for `idleMs`
milliseconds by the comparison of doubles with integers. -/
def Settled (attached : Double) (history : List Sighting) (now : Double) (idleMs : Int) : Prop :=
  (∀ s ∈ history, lastEvent s.id history = some .finished ∨
    lastEvent s.id history = some .failed) ∧
  ((now - lastChange attached history) * 1000).atLeast idleMs = true

instance (attached : Double) (history : List Sighting) (now : Double) (idleMs : Int) :
    Decidable (Settled attached history now idleMs) :=
  inferInstanceAs (Decidable (_ ∧ _))

theorem lastEvent_concat (id : String) (history : List Sighting) (s : Sighting) :
    lastEvent id (history ++ [s]) = if s.id = id then some s.event else lastEvent id history := by
  by_cases h : s.id = id <;> simp [lastEvent, h]

theorem lastChange_concat (attached : Double) (history : List Sighting) (s : Sighting) :
    lastChange attached (history ++ [s]) = s.time := by
  simp [lastChange]

/-- The requests that have a last event are those that were seen. -/
theorem lastEvent_isSome_iff {id : String} {history : List Sighting} :
    (lastEvent id history).isSome = true ↔ ∃ s ∈ history, s.id = id := by
  simp [lastEvent]

namespace Monitor

/-- A monitor right after it was attached. -/
def attachedAt (now : Double) : Monitor := ⟨true, [], now⟩

/-- Takes in all that a page tells, in order. -/
def follow (m : Monitor) (history : List Sighting) : Monitor :=
  history.foldl (fun m s => m.note s.event s.id s.time) m

@[simp] theorem follow_nil (m : Monitor) : m.follow [] = m := rfl

theorem follow_append (m : Monitor) (history more : List Sighting) :
    m.follow (history ++ more) = (m.follow history).follow more :=
  List.foldl_append

theorem follow_concat (m : Monitor) (history : List Sighting) (s : Sighting) :
    m.follow (history ++ [s]) = (m.follow history).note s.event s.id s.time :=
  follow_append m history [s]

theorem mem_inflight_note {m : Monitor} {event : RequestEvent} {id other : String} {now : Double} :
    other ∈ (m.note event id now).inflight ↔
      if id = other then event = .started else other ∈ m.inflight := by
  cases event with
  | started =>
    by_cases hid : id = other <;> by_cases hmem : id ∈ m.inflight
    · simp [note, hid, hid ▸ hmem]
    · simp [note, hid, hid ▸ hmem]
    · simp [note, hid, hmem]
    · simp [note, hid, hmem, Ne.symm hid]
  | finished | failed =>
    by_cases hid : id = other
    · simp [note, hid]
    · simp [note, hid, Ne.symm hid]

@[simp] theorem lastActivity_note (m : Monitor) (event : RequestEvent) (id : String)
    (now : Double) : (m.note event id now).lastActivity = now := by
  cases event <;> rfl

/-- A request is under way if its start is the last that was told of it. -/
theorem mem_inflight_follow (attached : Double) (history : List Sighting) (id : String) :
    id ∈ ((attachedAt attached).follow history).inflight ↔
      lastEvent id history = some .started := by
  induction history using List.reverseRecOn with
  | nil => simp [attachedAt, lastEvent]
  | append_singleton history s ih =>
    rw [follow_concat, mem_inflight_note, lastEvent_concat]
    by_cases hid : s.id = id <;> simp [hid, ih]

theorem lastActivity_follow (attached : Double) (history : List Sighting) :
    ((attachedAt attached).follow history).lastActivity = lastChange attached history := by
  induction history using List.reverseRecOn with
  | nil => rfl
  | append_singleton history s ih => rw [follow_concat, lastActivity_note, lastChange_concat]

theorem inflight_isEmpty_iff (attached : Double) (history : List Sighting) :
    ((attachedAt attached).follow history).inflight.isEmpty = true ↔
      ∀ s ∈ history, lastEvent s.id history = some .finished ∨
        lastEvent s.id history = some .failed := by
  rw [List.isEmpty_iff, List.eq_nil_iff_forall_not_mem]
  simp only [mem_inflight_follow]
  constructor
  · intro hnone s hs
    have hseen := lastEvent_isSome_iff.mpr ⟨s, hs, rfl⟩
    obtain ⟨event, hlast⟩ := Option.isSome_iff_exists.mp hseen
    have hstarted := hnone s.id
    cases event <;> simp_all
  · intro hended id hstarted
    obtain ⟨s, hs, rfl⟩ := lastEvent_isSome_iff.mp (Option.isSome_of_eq_some hstarted)
    simpa [hstarted] using hended s hs

/-- The monitor finds its page idle exactly if the page has settled: what it keeps is all that
this takes of the past. -/
theorem isIdle_follow (attached : Double) (history : List Sighting) (now : Double) (idleMs : Int) :
    ((attachedAt attached).follow history).isIdle now idleMs = true ↔
      Settled attached history now idleMs := by
  unfold isIdle Settled
  rw [Bool.and_eq_true, inflight_isEmpty_iff, lastActivity_follow]

end Monitor

/-! ## Looks -/

open Browser

variable {W : Type}

/-- Surroundings in which a page tells its monitor of requests, at any time and in any order:
while a question is answered the history grows, and the monitor takes in what is added to it. -/
structure Telling (env : Responses State Ask Ask.Reply W) (page : PageRef)
    (history : W → List Sighting) : Prop where
  told : ∀ q x, ∃ more, history (env q x).2.1 = history x.1 ++ more ∧
    (env q x).2.2.monitor page = (x.2.monitor page).follow more
  slept : ∀ seconds x, (env (.sleep seconds) x).1 = .ok ()

/-- The monitor of a page has taken in all that the page has told since it was attached. -/
def Tracked (page : PageRef) (history : W → List Sighting) (attached : Double)
    (x : W × State) : Prop :=
  x.2.monitor page = (Monitor.attachedAt attached).follow (history x.1)

theorem Telling.tracked {env : Responses State Ask Ask.Reply W} {page : PageRef}
    {history : W → List Sighting} {attached : Double} {x : W × State}
    (h : Telling env page history) (hx : Tracked page history attached x) (q : Ask) :
    Tracked page history attached (env q x).2 := by
  obtain ⟨more, hhistory, hmonitor⟩ := h.told q x
  unfold Tracked at hx ⊢
  rw [hmonitor, hhistory, hx, Monitor.follow_append]

namespace Quiet

section

variable (q : Quiet) (env : Responses State Ask Ask.Reply W)

/-- When a wait that begins at `x` is over at the latest, by the arithmetic of doubles. -/
def deadline (x : W × State) : Double := (env .elapsed x).1 + Activity.seconds q.timeoutMs

/-- How things stand before look `k` of a wait that first looks at `x`. -/
def before (x : W × State) : Nat → W × State
  | 0 => x
  | k + 1 => (env (.sleep (Activity.seconds q.pollMs)) (env .elapsed (before x k)).2).2

/-- What the clock shows at look `k`. -/
def clock (x : W × State) (k : Nat) : Double := (env .elapsed (q.before env x k)).1

/-- How things stand at look `k`. -/
def seen (x : W × State) (k : Nat) : W × State := (env .elapsed (q.before env x k)).2

theorem before_succ (x : W × State) (k : Nat) :
    q.before env x (k + 1) = q.before env (q.before env x 1) k := by
  induction k with
  | zero => rfl
  | succ k ih => rw [before, ih]; rfl

theorem clock_succ (x : W × State) (k : Nat) :
    q.clock env x (k + 1) = q.clock env (q.before env x 1) k := by
  rw [clock, before_succ, clock]

theorem seen_succ (x : W × State) (k : Nat) :
    q.seen env x (k + 1) = q.seen env (q.before env x 1) k := by
  rw [seen, before_succ, seen]

/-- The questions of a wait that ends at look `k`: the clock is read at every look, and between
two looks the wait sleeps for one interval. -/
def rounds : Nat → List Ask
  | 0 => [.elapsed]
  | k + 1 => .elapsed :: .sleep (Activity.seconds q.pollMs) :: rounds k

variable (history : W → List Sighting) (attached deadline : Double)

/-- Look `k` finds the page settled. -/
def Finds (x : W × State) (k : Nat) : Prop :=
  Settled attached (history (q.seen env x k).1) (q.clock env x k) q.idleMs

instance (x : W × State) (k : Nat) : Decidable (q.Finds env history attached x k) :=
  inferInstanceAs (Decidable (Settled _ _ _ _))

/-- Look `k` ends the wait: it finds the page settled, or is not before the deadline. -/
def Ends (x : W × State) (k : Nat) : Prop :=
  q.Finds env history attached x k ∨ deadline.le (q.clock env x k) = true

/-- Look `k` is the first to end the wait. -/
def EndsFirst (x : W × State) (k : Nat) : Prop :=
  q.Ends env history attached deadline x k ∧
    ∀ j < k, ¬ q.Ends env history attached deadline x j

instance (x : W × State) (k : Nat) : Decidable (q.EndsFirst env history attached deadline x k) :=
  inferInstanceAs (Decidable ((Settled _ _ _ _ ∨ _) ∧ ∀ j < k, ¬ (Settled _ _ _ _ ∨ _)))

/-- How a wait ends at look `k`. -/
def verdict (x : W × State) (k : Nat) : Result Unit :=
  if q.Finds env history attached x k then .ok ()
  else .error (.networkIdle q.idleMs q.timeoutMs)

end

variable {q : Quiet} {env : Responses State Ask Ask.Reply W} {page : PageRef}
  {history : W → List Sighting} {attached deadline : Double} {x : W × State}

theorem isIdle_iff_finds (h : Telling env page history) (hx : Tracked page history attached x) :
    ((env .elapsed x).2.2.monitor page).isIdle (env .elapsed x).1 q.idleMs = true ↔
      q.Finds env history attached x 0 := by
  rw [h.tracked hx .elapsed, Monitor.isIdle_follow]
  rfl

theorem finds_succ {k : Nat} : q.Finds env history attached x (k + 1) ↔
    q.Finds env history attached (q.before env x 1) k := by
  rw [Finds, seen_succ, clock_succ, Finds]

theorem endsFirst_succ {k : Nat} :
    q.EndsFirst env history attached deadline x (k + 1) ↔
      ¬ q.Ends env history attached deadline x 0 ∧
        q.EndsFirst env history attached deadline (q.before env x 1) k := by
  have hends : ∀ k, q.Ends env history attached deadline x (k + 1) ↔
      q.Ends env history attached deadline (q.before env x 1) k := by
    intro k
    rw [Ends, finds_succ, clock_succ, Ends]
  simp only [EndsFirst, hends, Nat.forall_lt_succ_left']
  exact and_left_comm

/-- One look, then the rest of the wait. -/
theorem poll_succ (polls : Nat) : poll page q deadline (polls + 1) =
    .ask .elapsed fun now => .read fun s =>
      if (s.monitor page).isIdle now q.idleMs then .done ()
      else if deadline.le now then .fail (.networkIdle q.idleMs q.timeoutMs)
      else (Activity.sleep (Activity.seconds q.pollMs)).bind fun _ =>
        poll page q deadline polls :=
  rfl

/-- A look that ends the wait is the last. -/
theorem poll_runs_zero (h : Telling env page history) (hx : Tracked page history attached x)
    (hends : q.Ends env history attached deadline x 0) (polls : Nat) :
    (poll page q deadline (polls + 1)).Runs env x [.elapsed]
      (q.verdict env history attached x 0) (q.seen env x 0) := by
  rw [poll_succ]
  refine Program.runs_ask.mpr ⟨[], rfl, ?_⟩
  refine Program.runs_read.mpr ?_
  by_cases hfinds : q.Finds env history attached x 0
  · rw [verdict, if_pos hfinds, if_pos ((isIdle_iff_finds h hx).mpr hfinds)]
    exact Program.runs_done.mpr ⟨rfl, rfl, rfl⟩
  · have hlate : deadline.le (env .elapsed x).1 = true := hends.resolve_left hfinds
    rw [verdict, if_neg hfinds, if_neg (mt (isIdle_iff_finds h hx).mp hfinds), if_pos hlate]
    exact Program.runs_fail.mpr ⟨rfl, rfl, rfl⟩

/-- After a look that does not end the wait, the wait sleeps and goes on. -/
theorem poll_runs_succ (h : Telling env page history) (hx : Tracked page history attached x)
    (hends : ¬ q.Ends env history attached deadline x 0) {polls : Nat} {calls : List Ask}
    {result : Result Unit} {y : W × State}
    (hrest : (poll page q deadline polls).Runs env (q.before env x 1) calls result y) :
    (poll page q deadline (polls + 1)).Runs env x
      (.elapsed :: .sleep (Activity.seconds q.pollMs) :: calls) result y := by
  obtain ⟨hfinds, hlate⟩ := not_or.mp hends
  have hlate : ¬ deadline.le (env .elapsed x).1 = true := hlate
  rw [poll_succ]
  refine Program.runs_ask.mpr ⟨_, rfl, ?_⟩
  refine Program.runs_read.mpr ?_
  rw [if_neg (mt (isIdle_iff_finds h hx).mp hfinds), if_neg hlate]
  refine Program.runs_ask.mpr ⟨calls, rfl, ?_⟩
  rw [h.slept]
  exact hrest

/-- The wait ends at the first look that ends it, however many looks are allowed beyond that. -/
theorem poll_runs (h : Telling env page history) (hx : Tracked page history attached x) {k : Nat}
    (hends : q.EndsFirst env history attached deadline x k) {polls : Nat} (hpolls : k < polls) :
    (poll page q deadline polls).Runs env x (q.rounds k)
      (q.verdict env history attached x k) (q.seen env x k) := by
  induction k generalizing x polls with
  | zero =>
    obtain ⟨polls, rfl⟩ := Nat.exists_eq_add_one.mpr hpolls
    exact poll_runs_zero h hx hends.1 polls
  | succ k ih =>
    obtain ⟨polls, rfl⟩ := Nat.exists_eq_add_one.mpr (Nat.zero_lt_of_lt hpolls)
    obtain ⟨hnow, hlater⟩ := endsFirst_succ.mp hends
    have hbefore : Tracked page history attached (q.before env x 1) :=
      h.tracked (h.tracked hx .elapsed) _
    have hrest := ih hbefore hlater (Nat.lt_of_succ_lt_succ hpolls)
    simp only [verdict, finds_succ, seen_succ]
    exact poll_runs_succ h hx hnow hrest

/-! ## How long a wait takes -/

section

variable (q : Quiet)

/-- The intervals that fit into the time allowed, the last one begun counted as a whole. -/
def intervals : Nat := ⌈(q.timeoutMs : ℚ) / q.pollMs⌉₊

theorem intervals_lt_polls : q.intervals < q.polls := by
  have hceil : q.intervals ≤ q.timeoutMs.toNat / q.pollMs + 1 := by
    refine Nat.ceil_le.mpr ?_
    have hint : (q.timeoutMs : ℚ) ≤ q.timeoutMs.toNat := by
      exact_mod_cast Int.self_le_toNat q.timeoutMs
    rcases Nat.eq_zero_or_pos q.pollMs with hzero | hpos
    · simp only [hzero, Nat.cast_zero, div_zero]
      positivity
    · have hlt : q.timeoutMs.toNat < (q.timeoutMs.toNat / q.pollMs + 1) * q.pollMs :=
        Nat.lt_mul_of_div_lt (Nat.lt_succ_self _) hpos
      have hcast : (q.timeoutMs.toNat : ℚ) < ((q.timeoutMs.toNat / q.pollMs + 1 : Nat) : ℚ) *
          q.pollMs := by exact_mod_cast hlt
      rw [div_le_iff₀ (by exact_mod_cast hpos)]
      linarith
  unfold polls
  omega

/-- A clock without rounding, over a wait that begins at `x`: it shows `begun` at the beginning
and `time k` at look `k`, is never set back, and every sleep lasts at least one interval. -/
structure Exact (env : Responses State Ask Ask.Reply W) (x : W × State) (begun : ℚ)
    (time : Nat → ℚ) : Prop where
  begins : (env .elapsed x).1.value? = some begun
  ends : (q.deadline env x).value? = some (begun + q.timeoutMs / 1000)
  shows : ∀ k ≤ q.intervals, (q.clock env (env .elapsed x).2 k).value? = some (time k)
  forward : begun ≤ time 0
  sleeps : ∀ k < q.intervals, time k + q.pollMs / 1000 ≤ time (k + 1)

end

namespace Exact

variable {begun : ℚ} {time : Nat → ℚ}

theorem add_le_time (h : q.Exact env x begun time) {k : Nat} (hk : k ≤ q.intervals) :
    begun + k * (q.pollMs / 1000) ≤ time k := by
  induction k with
  | zero => simpa using h.forward
  | succ k ih =>
    have hprev := ih (by omega)
    have hsleep := h.sleeps k (by omega)
    push_cast
    linarith

/-- When all intervals have passed the deadline has, too. -/
theorem late (h : q.Exact env x begun time) (hpoll : 0 < q.pollMs) :
    (q.deadline env x).le (q.clock env (env .elapsed x).2 q.intervals) = true := by
  rw [Double.le_eq_decide h.ends (h.shows _ le_rfl), decide_eq_true_iff]
  have hpos : (0 : ℚ) < q.pollMs := by exact_mod_cast hpoll
  have hceil : (q.timeoutMs : ℚ) / q.pollMs ≤ q.intervals := Nat.le_ceil _
  have htimeout : (q.timeoutMs : ℚ) ≤ q.intervals * q.pollMs := (div_le_iff₀ hpos).mp hceil
  have htime := h.add_le_time le_rfl
  linarith

/-- Some look ends the wait, at the latest the one after the last interval. -/
theorem exists_endsFirst (h : q.Exact env x begun time) (hpoll : 0 < q.pollMs)
    (history : W → List Sighting) (attached : Double) :
    ∃ k ≤ q.intervals,
      q.EndsFirst env history attached (q.deadline env x) (env .elapsed x).2 k := by
  classical
  have hends : ∃ k, q.Ends env history attached (q.deadline env x) (env .elapsed x).2 k :=
    ⟨q.intervals, .inr (h.late hpoll)⟩
  refine ⟨Nat.find hends, Nat.find_min' hends (.inr (h.late hpoll)), Nat.find_spec hends, ?_⟩
  intro j hj
  exact Nat.find_min hends hj

end Exact
end Quiet

/-- A request that is under way from the first to the second quarter of a second. -/
def briefRequest : Nat → List Sighting
  | 1 => [⟨.started, "a", .finite (1 / 4)⟩]
  | 2 => [⟨.finished, "a", .finite (1 / 2)⟩]
  | _ => []

def briefHistory (quarters : Nat) : List Sighting :=
  (List.range (quarters + 1)).flatMap briefRequest

/-- Surroundings whose clock counts quarters of a second, one for every sleep. -/
def quarters (page : PageRef) : Responses State Ask Ask.Reply Nat
  | .elapsed, x => (.finite (x.1 / 4), x)
  | .sleep _, x =>
    let m := (x.2.monitor page).follow (briefRequest (x.1 + 1))
    (.ok (), (x.1 + 1, x.2.setMonitor page m))
  | q, x => (q.refused, x)

theorem telling_quarters (page : PageRef) : Telling (quarters page) page briefHistory where
  told q x := by
    cases q with
    | sleep seconds =>
      refine ⟨briefRequest (x.1 + 1), ?_, ?_⟩
      · simp [briefHistory, quarters, List.range_succ]
      · simp [quarters, State.monitor, State.setMonitor]
    | _ => exact ⟨[], by simp [quarters], by simp [quarters]⟩
  slept _ _ := rfl

/-- The state in which a page is watched and has told nothing yet. -/
def freshlyAttached (page : PageRef) : Nat × State :=
  (0, State.setMonitor {} page (.attachedAt (.finite 0)))

def quarterLook : Quiet := { idleMs := 500, timeoutMs := 1000, pollMs := 250 }

theorem before_quarters (q : Quiet) (page : PageRef) (x : Nat × State) (k : Nat) :
    (q.before (quarters page) x k).1 = x.1 + k := by
  induction k with
  | zero => rfl
  | succ k ih => simp [Quiet.before, quarters, ih, Nat.add_assoc]

theorem deadline_quarters (page : PageRef) :
    quarterLook.deadline (quarters page) (freshlyAttached page) = .finite 1 := by
  change Double.finite (((0 : Nat) : ℚ) / 4) + Activity.seconds 1000 = .finite 1
  decide +kernel

theorem exact_quarters (page : PageRef) :
    quarterLook.Exact (quarters page) (freshlyAttached page) 0 fun k => k / 4 where
  begins := by simp [quarters, freshlyAttached, Double.value?]
  ends := by
    rw [deadline_quarters, Double.value?]
    norm_num [quarterLook]
  shows k _ := by
    change some (((quarterLook.before (quarters page) _ k).1 : ℚ) / 4) = some ((k : ℚ) / 4)
    rw [before_quarters]
    simp [quarters, freshlyAttached]
  forward := by norm_num
  sleeps k _ := by
    push_cast
    norm_num [quarterLook]
    linarith

end Pageflow.Network
