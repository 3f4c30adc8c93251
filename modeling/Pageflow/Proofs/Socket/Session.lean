import Pageflow.Proofs.Challenge.Inspect
import Pageflow.Proofs.Socket.Publishing
import Pageflow.Socket.Follow

/-! The session of a client that follows a task, turn by turn. The client has no sink until it was
sent the latest event; from then on it is subscribed until its session removes the sink. -/
namespace Pageflow.Socket
open Browser Progress

/-- So many turns with a client that follows a task. -/
def serve (s : Service) (client taskId : String) : Nat → Job → Activity Unit
  | 0, _ | _ + 1, .prompt _ => pure ()
  | turns + 1, .follow _ _ sink => do
    match ← turn s client taskId sink () with
    | .ended _ => pure ()
    | .again job => serve s client taskId turns job

/-- The session of a client, with so many turns at most. -/
def session (s : Service) (client taskId : String) (turns : Nat) : Activity Unit := do
  match ← connect (some s) client taskId () with
  | .ended _ => pure ()
  | .again job => serve s client taskId turns job

/-- What a turn of the session does to the sinks of its client. -/
structure Attends (client taskId : String) (x : Site) (φ : Phase) (y : Site) : Prop where
  good : Good client y
  grows : Grows client x y
  stands : φ.At client taskId y.2.bus
  session : φ.Follows

/-- The session waits for messages only while the client is subscribed. -/
def sessionContract (client taskId : String) :
    Contract State Ask (Unit × List (Note Ask Ask.Reply)) Unit Phase where
  start := .away
  rely φ x := Good client x ∧ φ.At client taskId x.2.bus
  rests φ q := ∀ name seconds, q = .receive name seconds → ∃ k, φ = .on k
  moves _ x φ y := Attends client taskId x φ y
  ends _ _ := True

variable {s : Service} {client taskId : String} {φ φ' : Phase} {before now x y : Site} {k : SinkId}
  {α : Type}

theorem Attends.changes {t : State} (h : Attends client taskId before φ' now)
    (hchanges : now.2.bus.Changes client (Failed client (since before now)) t.bus) :
    Attends client taskId before φ' (now.1, t) :=
  ⟨h.good.changes (List.Subset.refl _) hchanges Failed.overall, h.grows.changes hchanges,
    h.stands.changes hchanges, h.session⟩

theorem attends_refl (hgood : Good client x) (hat : φ.At client taskId x.2.bus)
    (hφ : φ.Follows) : Attends client taskId x φ x :=
  ⟨hgood, .refl, hat, hφ⟩

theorem attends_answered {q : Ask} {r : Ask.Reply q} {w : Unit × List (Note Ask Ask.Reply)}
    (hgood : Good client x) (hat : φ.At client taskId x.2.bus) (hφ : φ.Follows)
    (hw : w.2 = x.1.2 ++ [⟨q, r⟩]) : Attends client taskId x φ (w, x.2) := by
  have hleaves : Leaves client x (w, x.2) := .of_bus (hw ▸ List.prefix_append _ _) rfl
  exact ⟨hgood.leaves hleaves, hleaves.grows, hat, hφ⟩

/-! ## The sink of the client -/

theorem Attends.add (h : Attends client taskId before .away now) :
    Attends client taskId before (.on now.2.bus.sinks.length) (now.1, { now.2 with
      bus := (now.2.bus.add (.socket client false) (some taskId)).2 }) := by
  -- The new sink has the first number that is free, and is the only one of the client.
  have hsocket : ∀ id, (now.2.bus.add (.socket client false) (some taskId)).2.socket? client id =
      if id = now.2.bus.sinks.length then some false else now.2.bus.socket? client id := by
    intro id
    simp only [Bus.add, Bus.attach, Bus.register, Bus.socket?, Bus.sink?]
    rcases Nat.lt_trichotomy id now.2.bus.sinks.length with hlt | rfl | hgt
    · rw [if_neg (Nat.ne_of_lt hlt), List.getElem?_append_left hlt]
    · rw [if_pos rfl, List.getElem?_concat_length]
      exact if_pos rfl
    · rw [if_neg (Nat.ne_of_gt hgt), List.getElem?_eq_none (Nat.le_of_lt hgt),
        List.getElem?_eq_none (by rw [List.length_append]; exact hgt)]
  have hlength : (now.2.bus.add (.socket client false) (some taskId)).2.sinks.length =
      now.2.bus.sinks.length + 1 :=
    List.length_append ..
  refine ⟨⟨fun r hr => ?_, fun id hid => ?_⟩, ⟨h.grows.notes, ?_, fun id hid => ?_⟩,
    ⟨fun id => ?_, ?_⟩, trivial⟩
  · rw [hlength]
    rcases List.mem_append.mp hr with hold | hnew
    · exact Nat.lt_succ_of_lt (h.good.sound r hold)
    · rw [List.mem_singleton.mp hnew]
      exact Nat.lt_succ_self _
  · rw [hsocket] at hid
    split at hid
    · cases hid
    · exact h.good.closed id hid
  · exact Nat.le_trans h.grows.sinks (Nat.le_of_lt (Nat.lt_of_lt_of_eq (Nat.lt_succ_self _)
      hlength.symm))
  · dsimp only
    rw [hsocket, if_neg (Nat.ne_of_lt (Nat.lt_of_lt_of_le hid h.grows.sinks))]
    exact h.grows.fate id hid
  · unfold Bus.serves
    rw [hsocket]
    split
    · exact iff_of_true rfl ‹_›
    · rename_i hne
      exact iff_of_false (fun hserves => by cases hserves.symm.trans (h.stands id)) hne
  · have hnone : now.2.bus.registered now.2.bus.sinks.length = [] :=
      List.filter_eq_nil_iff.mpr fun r hr heq =>
        Nat.ne_of_lt (h.good.sound r hr) (of_decide_eq_true heq)
    unfold Bus.registered at hnone ⊢
    simp only [Bus.add, Bus.attach, Bus.register]
    rw [List.filter_append, hnone]
    simp

theorem Attends.remove (h : Attends client taskId before (.on k) now) :
    Attends client taskId before (.off k)
      (now.1, { now.2 with bus := now.2.bus.remove k }) := by
  refine ⟨⟨fun r hr => h.good.sound r (List.mem_filter.mp hr).1, h.good.closed⟩,
    ⟨h.grows.notes, h.grows.sinks, h.grows.fate⟩, ⟨h.stands.1, ?_⟩, trivial⟩
  unfold Bus.registered Bus.remove
  refine List.filter_eq_nil_iff.mpr fun r hr heq => ?_
  have hne := (List.mem_filter.mp hr).2
  exact of_decide_eq_true hne (of_decide_eq_true heq)

/-! ## While the client is subscribed -/

/-- The client has its sink. -/
def subscribed (client taskId : String) (k : SinkId) :
    Upkeep (Unit × List (Note Ask Ask.Reply)) Unit Phase where
  env := (climate client).noted
  contract := sessionContract client taskId
  holds _ before now := Attends client taskId before (.on k) now
  cancels := True
  spares hnot := absurd trivial hnot
  answered honce := honce.elim
  stopped _ h := ⟨.on k, h, fun _ _ _ => ⟨k, rfl⟩, fun _ _ _ hrely hanswer =>
    attends_answered hrely.1 hrely.2 trivial hanswer.2⟩

theorem delivers_attends (client taskId : String) (k : SinkId) (e : Event) :
    Delivers client e (sessionContract client taskId) fun _ _ before now =>
      Attends client taskId before (.on k) now where
  minds h hchanges := h.changes hchanges
  drops h _ := h
  stops h _ _ _ := ⟨.on k, h, fun _ _ _ => ⟨k, rfl⟩, fun later _ _ hrely hw =>
    ⟨attends_answered hrely.1 hrely.2 trivial hw, by
      rw [Bool.eq_iff_iff, hrely.2.1, h.stands.1]⟩⟩

theorem kept_publish (e : Event) : (subscribed client taskId k).Kept (publish taskId e) := by
  intro φ before now h
  refine Program.Keeps.mono ((delivers_attends client taskId k _).keeps_deliverAll h) ?_
  exact fun _ _ _ _ ⟨_, hend, _⟩ => ⟨hend, fun _ => trivial⟩

theorem kept_announce (status : Status) (stepIndex totalSteps : Int) (message : String) :
    (subscribed client taskId k).Kept
      (announce busChannel taskId status stepIndex totalSteps message) :=
  kept_ask fun _ _ => kept_rescueIf (kept_publish _) fun _ => kept_done ()

theorem kept_resume (hpauses : ∀ c ∈ s.coordinator, c.channel = busChannel) :
    (subscribed client taskId k).Kept (s.resume taskId) := by
  unfold Service.resume
  split
  · rename_i c hc
    refine kept_read fun state => ?_
    simp only [Program.bind]
    split
    · exact kept_done _
    · rename_i h _
      refine kept_bind (c.detector.kept_isActive h.page) fun active =>
        kept_ite (kept_done _) (kept_read fun state => ?_)
      simp only [Program.bind]
      split
      · exact kept_done _
      · rw [hpauses c hc]
        refine kept_bind (kept_modify fun _ _ now hattends => ?_) fun _ =>
          kept_bind (kept_announce _ _ _ _) fun _ => kept_done _
        exact hattends.changes .refl
  · exact kept_done _

theorem kept_send (name : String) (frame : Frame) :
    (subscribed client taskId k).Kept (send name frame) :=
  kept_question fun _ => id

theorem kept_respond (hpauses : ∀ c ∈ s.coordinator, c.channel = busChannel) (message : String) :
    (subscribed client taskId k).Kept (respond s client taskId message) := by
  unfold respond
  split
  · exact kept_send client _
  · split
    · split
      · exact kept_fail rfl
      · exact kept_fail rfl
      · exact kept_send client _
    · split
      · exact kept_bind (kept_resume hpauses) fun _ => kept_send client _
      · exact kept_send client _

theorem kept_exchange (hpauses : ∀ c ∈ s.coordinator, c.channel = busChannel) (sink : SinkId) :
    (subscribed client taskId k).Kept (exchange s client taskId sink) := by
  refine kept_read fun state => kept_ite (kept_done false)
    (kept_bind (kept_question fun _ => id) fun incoming => ?_)
  cases incoming with
  | disconnected => exact kept_done false
  | nothing =>
    exact kept_rescueIf (kept_bind (kept_send client _) fun _ => kept_done true) fun _ =>
      kept_done false
  | text message => exact kept_bind (kept_respond hpauses message) fun _ => kept_done true

/-! ## The whole session -/

theorem closes_of_attends {result : Result Unit} (h : Attends client taskId before φ' now) :
    (sessionContract client taskId).closes result φ before now :=
  ⟨φ', h, trivial⟩

theorem keeps_turn (hpauses : ∀ c ∈ s.coordinator, c.channel = busChannel)
    (h : Attends client taskId before (.on k) now) :
    (turn s client taskId k ()).Keeps (climate client).noted (sessionContract client taskId)
      (fun result φ before now => match result with
        | .ok (.again job) => job = .follow client taskId k ∧
          Attends client taskId before (.on k) now
        | _ => (sessionContract client taskId).closes (.ok ()) φ before now) φ before now := by
  refine Program.keeps_bind.mpr (Program.keeps_attempt.mpr
    ((kept_exchange hpauses k φ before now h).mono ?_))
  rintro result φ before now ⟨hattends, -⟩
  dsimp only
  split
  · exact ⟨rfl, hattends⟩
  · refine Program.keeps_modify_bind.mpr (Program.keeps_bind.mpr (Program.keeps_ofResult.mpr ?_))
    cases result <;> exact closes_of_attends hattends.remove

theorem keeps_serve (hpauses : ∀ c ∈ s.coordinator, c.channel = busChannel) (turns : Nat)
    (h : Attends client taskId before (.on k) now) :
    (serve s client taskId turns (.follow client taskId k)).Keeps (climate client).noted
      (sessionContract client taskId) (sessionContract client taskId).closes φ before now := by
  induction turns generalizing φ before now with
  | zero => exact closes_of_attends h
  | succ turns ih =>
    refine Program.keeps_bind.mpr ((keeps_turn hpauses h).mono ?_)
    rintro (fault | _ | job) φ before now hend
    · exact hend
    · exact hend
    · obtain ⟨rfl, hattends⟩ := hend
      exact ih hattends

/-- Before the client has a sink it is only sent to. -/
theorem keeps_send_away {frame : Frame}
    {post : Ending State (Unit × List (Note Ask Ask.Reply)) Unit Phase}
    (h : Attends client taskId before .away now)
    (hpost : ∀ result before now, Attends client taskId before .away now →
      post result .away before now) :
    (send client frame).Keeps (climate client).noted (sessionContract client taskId) post φ before
      now := by
  refine ⟨False.elim, fun _ => ⟨.away, h, fun _ _ => nofun, fun later r w hrely hanswer => ?_⟩⟩
  exact Program.keeps_ofResult.mpr (hpost r later (w, later.2)
    (attends_answered hrely.1 hrely.2 trivial hanswer.2))

theorem keeps_follow (h : Attends client taskId before .away now) :
    (follow s client taskId).Keeps (climate client).noted (sessionContract client taskId)
      (fun result φ before now => match result with
        | .ok job => ∃ k, job = .follow client taskId k ∧ Attends client taskId before (.on k) now
        | .error _ => (sessionContract client taskId).closes (.ok ()) φ before now) φ before
      now := by
  unfold follow Program.state
  simp only [Program.bind_eq_bind, Program.bind, Program.Keeps]
  refine Program.keeps_bind.mpr (keeps_send_away h ?_)
  rintro (fault | _) before now hattends
  · exact closes_of_attends hattends
  · exact ⟨_, rfl, hattends.add⟩

/-- How it ends to take in a client. -/
def Connected (client taskId : String) :
    Ending State (Unit × List (Note Ask Ask.Reply)) (Turn Unit) Phase :=
  fun result φ before now => match result with
    | .ok (.again job) => ∃ k, job = .follow client taskId k ∧
      Attends client taskId before (.on k) now
    | _ => (sessionContract client taskId).closes (.ok ()) φ before now

theorem keeps_connect (h : Attends client taskId before .away now) :
    (connect (some s) client taskId ()).Keeps (climate client).noted
      (sessionContract client taskId) (Connected client taskId) φ before now := by
  refine Program.keeps_bind.mpr (keeps_send_away h ?_)
  rintro (fault | _) before now hattends
  · exact closes_of_attends hattends
  unfold Program.state
  simp only [Program.bind_eq_bind, Program.bind, Program.Keeps]
  split
  · refine Program.keeps_bind.mpr ((keeps_follow hattends).mono ?_)
    rintro (fault | job) φ before now hend
    · exact hend
    · exact hend
  · refine Program.keeps_bind.mpr (keeps_send_away hattends ?_)
    rintro (fault | _) before now hattends
    · exact closes_of_attends hattends
    refine Program.keeps_bind.mpr (keeps_send_away hattends ?_)
    rintro (fault | _) before now hattends
    · exact closes_of_attends hattends
    · exact closes_of_attends hattends

theorem keeps_session (hpauses : ∀ c ∈ s.coordinator, c.channel = busChannel) (turns : Nat)
    (hgood : Good client x) (hat : Phase.away.At client taskId x.2.bus) :
    (session s client taskId turns).Keeps (climate client).noted (sessionContract client taskId)
      (sessionContract client taskId).closes .away x x := by
  refine Program.keeps_bind.mpr ((keeps_connect (attends_refl hgood hat trivial)).mono ?_)
  rintro (fault | _ | job) φ before now hend
  · exact hend
  · exact hend
  · obtain ⟨k, rfl, hattends⟩ := hend
    exact keeps_serve hpauses turns hattends

end Pageflow.Socket
