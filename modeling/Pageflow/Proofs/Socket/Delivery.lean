import Mathlib.Algebra.GroupWithZero.Nat
import Pageflow.Proofs.Socket.Session
import Pageflow.Proofs.Workflow.Accounts

/-! Which events of a task a client is sent that follows the task, in whatever order the turns of
its session and of those who publish come. An event is sent once if the client is subscribed when
its publishing begins. The session reads the latest event before it subscribes the client, so an
event that is published in between is lost. -/
namespace Pageflow.Socket
open Browser Progress

abbrev History : Type := List (Move State (Unit × List (Note Ask Ask.Reply)))

/-- The session of a client, and calls that publish events of the task it follows. -/
def calls (s : Service) (client taskId : String) (turns : Nat) (events : Nat → Event) :
    Nat → Activity Unit
  | 0 => session s client taskId turns
  | i + 1 => publish taskId (events i)

/-- What the client is sent of an event of the task. -/
def line (taskId : String) (e : Event) : String := { e with taskId }.line

def contract (client taskId : String) (events : Nat → Event) :
    Nat → Contract State Ask (Unit × List (Note Ask Ask.Reply)) Unit Phase
  | 0 => sessionContract client taskId
  | i + 1 => publishContract client taskId (line taskId (events i))

/-- How often call `i` has sent the text to the client. -/
def sendings (client text : String) (history : History) (i : Nat) : Nat :=
  ((history.filter (·.who = i)).map fun m => told client text m.notes).sum

variable {s : Service} {client taskId text : String} {turns : Nat} {events : Nat → Event}
  {history pre post : History} {m : Move State (Unit × List (Note Ask Ask.Reply))} {i : Nat}
  {x y : Site} {phase : Nat → Phase} {who : Nat} {φ : Phase}

theorem sendings_append : sendings client text (pre ++ post) i =
    sendings client text pre i + sendings client text post i := by
  unfold sendings
  rw [List.filter_append, List.map_append, List.sum_append]

theorem sendings_of_absent (h : ∀ m ∈ history, m.who ≠ i) : sendings client text history i = 0 := by
  unfold sendings
  rw [List.filter_eq_nil_iff.mpr fun m hm heq => h m hm (of_decide_eq_true heq)]
  rfl

theorem sendings_self : sendings client text [⟨i, x, y⟩] i = told client text (since x y) := by
  simp [sendings, since, Move.notes]

/-! ## What calls rely on -/

structure Consistent (client taskId : String) (x : Site) (phase : Nat → Phase) : Prop where
  good : Good client x
  stands : ∀ i, (phase i).At client taskId x.2.bus
  session : (phase 0).Follows
  publishing : ∀ i, ¬ (phase (i + 1)).Follows

theorem grows_of_moves (h : (contract client taskId events i).moves (phase i) x φ y) :
    Grows client x y := by
  cases i with
  | zero => exact h.grows
  | succ i => exact h.leaves.grows

theorem Consistent.leaves (hc : Consistent client taskId x phase) (h : Leaves client x y) :
    Consistent client taskId y phase :=
  ⟨hc.good.leaves h, fun i => (hc.stands i).changes h.changes, hc.session, hc.publishing⟩

theorem not_follows_of_tells (h : φ.Tells) : ¬ φ.Follows := by
  cases φ <;> first | exact h.elim | exact not_false

theorem Consistent.turn (hc : Consistent client taskId x phase)
    (h : (contract client taskId events who).moves (phase who) x φ y) :
    Consistent client taskId y (Function.update phase who φ) := by
  cases who with
  | zero =>
    refine ⟨h.good, (Function.forall_update_iff phase fun _ φ => φ.At client taskId y.2.bus).mpr
      ⟨h.stands, fun i hi => ?_⟩, ?_, fun i => ?_⟩
    · obtain ⟨i, rfl⟩ := Nat.exists_eq_succ_of_ne_zero hi
      exact ((hc.stands _).grows (hc.publishing i) h.grows).1
    · rw [Function.update_self]
      exact h.session
    · rw [Function.update_of_ne (Nat.succ_ne_zero i)]
      exact hc.publishing i
  | succ who =>
    refine ⟨h.good, (Function.forall_update_iff phase fun _ φ => φ.At client taskId y.2.bus).mpr
      ⟨h.stands, fun i _ => (hc.stands i).changes h.leaves.changes⟩, ?_, fun i => ?_⟩
    · rw [Function.update_of_ne (Nat.succ_ne_zero who).symm]
      exact hc.session
    · by_cases hi : i + 1 = who + 1
      · rw [hi, Function.update_self]
        exact not_follows_of_tells h.begun
      · rw [Function.update_of_ne hi]
        exact hc.publishing i

/-! ## What was sent so far -/

/-- Call `i` has begun to publish, and has sent the text as often as it was due when it began, less
what is still due. -/
structure Begun (client taskId text : String) (history : History) (i : Nat) (φ : Phase) (x : Site) :
    Prop where
  tells : φ.Tells
  meets : ∃ first, history.find? (·.who = i) = some first ∧ first.before.1.2 <+: x.1.2 ∧
    first.before.2.bus.due client (first.before.2.bus.audience taskId) ≤ 1 ∧
    Meets (Failed client (since first.before x))
      (sendings client text history i + φ.due client taskId x.2.bus)
      (first.before.2.bus.due client (first.before.2.bus.audience taskId))

/-- How call `i` stands that publishes. -/
def Account (client taskId text : String) (history : History) (i : Nat) (φ : Phase) (x : Site) :
    Prop :=
  φ = .fresh ∧ (∀ m ∈ history, m.who ≠ i) ∨ Begun client taskId text history i φ x

theorem Account.other (h : Account client taskId text history i φ x)
    (more : History) (hat : φ.At client taskId x.2.bus) (hφ : ¬ φ.Follows)
    (hgrows : Grows client x y) (hmore : ∀ m ∈ more, m.who ≠ i) :
    Account client taskId text (history ++ more) i φ y := by
  rcases h with ⟨rfl, habsent⟩ | ⟨htells, first, hfirst, hnotes, hle, hmeets⟩
  · refine .inl ⟨rfl, fun m hm => ?_⟩
    exact (List.mem_append.mp hm).elim (habsent m) (hmore m)
  · have hdue := (hat.grows hφ hgrows).2 (by rintro rfl; exact htells)
    refine .inr ⟨htells, first, ?_, hnotes.trans hgrows.notes, hle, ?_⟩
    · rw [List.find?_append, hfirst]
      rfl
    · rw [sendings_append, sendings_of_absent hmore, Nat.add_zero]
      exact hmeets.trans hdue (·.later hnotes hgrows.notes) (·.earlier hnotes hgrows.notes)

theorem Account.own {φ' : Phase} (h : Account client taskId text history i φ x)
    (hle : x.2.bus.due client (x.2.bus.audience taskId) ≤ 1)
    (hmoves : Publishes client taskId text φ x φ' y) :
    Account client taskId text (history ++ [⟨i, x, y⟩]) i φ' y := by
  have hnew := hmoves.leaves.notes
  have hsendings : sendings client text (history ++ [⟨i, x, y⟩]) i =
      sendings client text history i + told client text (since x y) := by
    rw [sendings_append, sendings_self]
  rcases h with ⟨rfl, habsent⟩ | ⟨-, first, hfirst, hnotes, hle', hmeets⟩
  · have hnone : history.find? (·.who = i) = none :=
      List.find?_eq_none.mpr fun m hm heq => habsent m hm (of_decide_eq_true heq)
    refine .inr ⟨hmoves.begun, ⟨i, x, y⟩, ?_, hnew, hle, ?_⟩
    · rw [List.find?_append, hnone]
      simp
    · rw [hsendings, sendings_of_absent habsent, Nat.zero_add]
      exact hmoves.meets
  · refine .inr ⟨hmoves.begun, first, ?_, hnotes.trans hnew, hle', ?_⟩
    · rw [List.find?_append, hfirst]
      rfl
    · rw [hsendings, Nat.add_assoc]
      exact hmeets.trans hmoves.meets (·.later hnotes hnew) (·.earlier hnotes hnew)

/-- Whatever the order of the turns, calls stand as they do, and what was due was sent. -/
theorem plays_account {z : Site} (hgood : Good client z)
    (haway : Phase.away.At client taskId z.2.bus)
    (h : Plays (climate client).noted (contract client taskId events) z history x phase) :
    Consistent client taskId x phase ∧
      ∀ i, Account client taskId (line taskId (events i)) history (i + 1) (phase (i + 1)) x := by
  -- The account of a publishing call grows in its own turns; `Consistent` says that no other turn
  -- changes what it counts.
  induction h with
  | start =>
    refine ⟨⟨hgood, fun i => ?_, trivial, fun _ => not_false⟩, fun i => .inl ⟨rfl, nofun⟩⟩
    cases i with
    | zero => exact haway
    | succ i => trivial
  | turn who _ hmoves ih =>
    obtain ⟨hc, haccounts⟩ := ih
    refine ⟨hc.turn hmoves, fun i => ?_⟩
    by_cases hi : i + 1 = who
    · subst hi
      rw [Function.update_self]
      exact (haccounts i).own ((hc.stands 0).due_audience_le hc.session) hmoves
    · rw [Function.update_of_ne hi]
      refine (haccounts i).other _ (hc.stands _) (hc.publishing i) (grows_of_moves hmoves) ?_
      intro m hm
      rw [List.mem_singleton.mp hm]
      exact Ne.symm hi
  | happen _ hhappens ih =>
    obtain ⟨hc, haccounts⟩ := ih
    have hleaves := Elsewhere.leaves hhappens.1 hhappens.2
    refine ⟨hc.leaves hleaves, fun i => ?_⟩
    have haccount := (haccounts i).other [] (hc.stands _) (hc.publishing i)
      hleaves.grows nofun
    rwa [List.append_nil] at haccount

theorem keeps_calls (hpauses : ∀ c ∈ s.coordinator, c.channel = busChannel)
    (h : (contract client taskId events i).rely (contract client taskId events i).start x) :
    (calls s client taskId turns events i).Keeps (climate client).noted
      (contract client taskId events i) (contract client taskId events i).closes
      (contract client taskId events i).start x x := by
  cases i with
  | zero => exact keeps_session hpauses turns h.1 h.2
  | succ i => exact keeps_publish client taskId (events i) h.1

/-! ## What a client is sent -/

/-- The session waits for the next message of its client. -/
def Live (client : String) (stage : Stage State Ask Ask.Reply Unit) : Prop :=
  ∃ seconds next, stage = .asking (.receive client seconds) next

/-- What a client is sent of the events of its task. -/
structure Delivery (client taskId : String) (events : Nat → Event) (history : History)
    (e : Ensemble State Ask Ask.Reply (Unit × List (Note Ask Ask.Reply)) Unit) : Prop where
  subscribed : Live client (e.stage 0) → ¬ Failed client e.site.1.2 →
    e.site.2.bus.Subscribed client taskId
  once : ∀ i, sendings client (line taskId (events i)) history (i + 1) ≤ 1
  /-- Unless sending an event fails meanwhile, what is published is sent exactly if the client has
  an open sink when its publishing begins. -/
  sent : ∀ i first, history.find? (·.who = i + 1) = some first →
    (¬ first.before.2.bus.Subscribed client taskId →
      sendings client (line taskId (events i)) history (i + 1) = 0) ∧
    (first.before.2.bus.Subscribed client taskId → e.stage (i + 1) = .ended (.ok ()) →
      ¬ Failed client (since first.before e.site) →
      sendings client (line taskId (events i)) history (i + 1) = 1)
  /-- If the publishing of one event has ended when that of another begins, the one is sent
  before the other. -/
  ordered : ∀ i j pre post, history = pre ++ post → (∀ m ∈ post, m.who ≠ i + 1) →
    (∀ m ∈ pre, m.who ≠ j + 1) →
    sendings client (line taskId (events i)) post (i + 1) = 0 ∧
      sendings client (line taskId (events j)) pre (j + 1) = 0

/-- Over one bus, the session of a client and any publishing of events of its task, whatever
others do meanwhile, whatever is answered and whoever has the next turn. -/
theorem delivery (s : Service) (hpauses : ∀ c ∈ s.coordinator, c.channel = busChannel)
    (client taskId : String) (turns : Nat) (events : Nat → Event) {x : Site}
    (hsound : x.2.bus.Sound) (haway : ∀ id, x.2.bus.serves client id = false) {history : History}
    {e : Ensemble State Ask Ask.Reply (Unit × List (Note Ask Ask.Reply)) Unit}
    (h : Reaches (climate client).noted (calls s client taskId turns events) x history e) :
    Delivery client taskId events history e := by
  have hgood : Good client x := by
    refine ⟨hsound, fun id hid => absurd (haway id) ?_⟩
    unfold Bus.serves
    rw [hid]
    nofun
  obtain ⟨phase, hplays, hstands⟩ := h.plays (contract client taskId events)
    (fun i y _ hrely => keeps_calls hpauses hrely) (fun _ y phase hplays i => by
      obtain ⟨hc, -⟩ := plays_account hgood haway hplays
      cases i <;> exact ⟨hc.good, hc.stands _⟩)
  obtain ⟨hc, haccounts⟩ := plays_account hgood haway hplays
  refine ⟨?_, fun i => ?_, fun i first hfirst => ?_, ?_⟩
  · -- `subscribed`: the session waits for messages in the phase `on` only.
    rintro ⟨seconds, next, hlive⟩ hspared
    have hrests := hstands 0
    rw [hlive] at hrests
    obtain ⟨k, hon⟩ := hrests.1 client seconds rfl
    have hat := hc.stands 0
    rw [hon] at hat
    exact hat.subscribed hc.good hspared
  · rcases haccounts i with ⟨-, habsent⟩ | ⟨-, first, -, -, hle, hmeets⟩
    · rw [sendings_of_absent habsent]
      exact Nat.zero_le 1
    · exact Nat.le_trans (Nat.le_add_right ..) (Nat.le_trans hmeets.1 hle)
  · rcases haccounts i with ⟨-, habsent⟩ | ⟨-, first', hfirst', -, hle, hmeets⟩
    · have hwho : first.who = i + 1 := by simpa using List.find?_some hfirst
      exact absurd hwho (habsent first (List.mem_of_find?_eq_some hfirst))
    obtain rfl := Option.some.inj (hfirst.symm.trans hfirst')
    rw [Bus.subscribed_iff]
    refine ⟨fun hnot => ?_, fun hsubscribed hended hspared => ?_⟩
    · have hsent := hmeets.1
      omega
    -- A publishing that has ended owes nothing, so all that was due was sent.
    have hends := hstands (i + 1)
    rw [hended] at hends
    obtain ⟨left, hpast, hnone⟩ := hends
    rw [hpast, hnone rfl] at hmeets
    have hsent : _ + 0 = _ := hmeets.2.resolve_right hspared
    omega
  · rintro i j pre post - hpost hpre
    exact ⟨sendings_of_absent hpost, sendings_of_absent hpre⟩

/-- Call `i`, whose first turn was `first`, has published its event since the session read the
latest event, which it does in the turn in which it hears that the client was accepted; the session
goes on, and sending an event has not failed since. -/
structure Expected (client : String) (history : History)
    (e : Ensemble State Ask Ask.Reply (Unit × List (Note Ask Ask.Reply)) Unit) (i : Nat)
    (first : Move State (Unit × List (Note Ask Ask.Reply))) : Prop where
  begun : history.find? (·.who = i) = some first
  accepted : (⟨.send client .accept, .ok ()⟩ : Note Ask Ask.Reply) ∈ first.before.1.2
  ended : e.stage i = .ended (.ok ())
  live : Live client (e.stage 0)
  spared : ¬ Failed client (since first.before e.site)

def NothingLost (client taskId : String) (events : Nat → Event) (history : History)
    (e : Ensemble State Ask Ask.Reply (Unit × List (Note Ask Ask.Reply)) Unit) : Prop :=
  ∀ i first, Expected client history e (i + 1) first →
    sendings client (line taskId (events i)) history (i + 1) = 1

/-- Events are sent once and in order, and none is lost exactly if the client has an open sink
whenever one is published: none is published between the reading of the latest event and the
subscription of the client, nor after sending one has failed. -/
theorem nothingLost_iff (s : Service) (hpauses : ∀ c ∈ s.coordinator, c.channel = busChannel)
    (client taskId : String) (turns : Nat) (events : Nat → Event) {x : Site}
    (hsound : x.2.bus.Sound) (haway : ∀ id, x.2.bus.serves client id = false) {history : History}
    {e : Ensemble State Ask Ask.Reply (Unit × List (Note Ask Ask.Reply)) Unit}
    (h : Reaches (climate client).noted (calls s client taskId turns events) x history e) :
    Delivery client taskId events history e ∧ (NothingLost client taskId events history e ↔
      ∀ i first, Expected client history e (i + 1) first →
        first.before.2.bus.Subscribed client taskId) := by
  have hdelivery := delivery s hpauses client taskId turns events hsound haway h
  refine ⟨hdelivery, forall₂_congr fun i first => forall_congr' fun hexpected => ?_⟩
  obtain ⟨hunsent, hsent⟩ := hdelivery.sent i first hexpected.begun
  refine ⟨fun hone => ?_, fun hsubscribed => hsent hsubscribed hexpected.ended hexpected.spared⟩
  by_contra hnot
  rw [hunsent hnot] at hone
  cases hone

/-! ## An event that is lost -/

def completed (_ : Nat) : Event := ⟨"t", .completed, 1, 1, "Workflow completed", ""⟩

/-- One sink that keeps the latest event of each task, and has one of `t`. -/
def followedState : Site :=
  (((), []), { bus := (Bus.empty.add
    (.latest ((Store.empty 8).record ⟨"t", .running, 0, 1, "Running", ""⟩)) none).2 })

/-- Answers of a client that receives what it is sent. -/
def receiving : (q : Ask) → Ask.Reply q
  | .send _ _ => .ok ()
  | q => q.refused

/-- The task ends while the client is sent what was the latest event before. -/
theorem reaches_lost : ∃ history e first, Reaches (climate "c").noted
    (calls Runner.sampleService "c" "t" 1 completed) followedState history e ∧
    Expected "c" history e 1 first ∧ sendings "c" (line "t" (completed 0)) history 1 = 0 := by
  have hstart : Reaches (climate "c").noted (calls Runner.sampleService "c" "t" 1 completed)
      followedState [] _ := .start
  have hwait : (climate "c").noted.Settles fun _ => none :=
    ⟨fun _ _ => not_false, fun _ _ hnow => nomatch hnow⟩
  -- The session has read the latest event; then the event is published, then the session adds its
  -- sink.
  have haccepting := hstart.call hwait 0 rfl trivial
  have hsnapshot := haccepting.reply hwait 0 rfl receiving ((), _) ⟨trivial, rfl⟩
  have hpublished := hsnapshot.call hwait 1 rfl trivial
  have hlive := hpublished.reply hwait 0 rfl receiving ((), _) ⟨trivial, rfl⟩
  refine ⟨_, _, _, hlive, ⟨rfl, List.mem_singleton.mpr rfl, rfl, ⟨_, _, rfl⟩, ?_⟩, rfl⟩
  rintro ⟨e, fault, hmem⟩
  cases List.mem_singleton.mp hmem

theorem nothingLost_iff_lost : ∃ history e, Reaches (climate "c").noted
    (calls Runner.sampleService "c" "t" 1 completed) followedState history e ∧
    Delivery "c" "t" completed history e ∧ (NothingLost "c" "t" completed history e ↔
      ∀ i first, Expected "c" history e (i + 1) first →
        first.before.2.bus.Subscribed "c" "t") := by
  obtain ⟨history, e, -, hreaches, -⟩ := reaches_lost
  exact ⟨history, e, hreaches, nothingLost_iff Runner.sampleService
    (fun c hc => by cases hc; rfl) "c" "t" 1 completed (by unfold Bus.Sound; decide)
    (fun id => by cases id <;> rfl) hreaches⟩

/-- The client is never sent that its task has ended. -/
theorem lost_not_nothingLost : ∃ history e, Reaches (climate "c").noted
    (calls Runner.sampleService "c" "t" 1 completed) followedState history e ∧
    ¬ NothingLost "c" "t" completed history e := by
  obtain ⟨history, e, first, hreaches, hexpected, hunsent⟩ := reaches_lost
  refine ⟨history, e, hreaches, fun hnothing => ?_⟩
  have hsent := hnothing 0 first hexpected
  rw [hunsent] at hsent
  cases hsent

end Pageflow.Socket
