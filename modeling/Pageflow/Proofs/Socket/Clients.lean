import Pageflow.Proofs.Activity.Noted
import Pageflow.Proofs.Progress.Watch

/-! The sinks of a client on the bus. Its session adds one and removes it again; whatever else is
done to the bus leaves the sinks of the client where they are, but that one closes when sending to
the client fails. -/
namespace Pageflow.Progress

/-- Of a sink that sends to the client, whether it is closed. -/
def Sink.socket? (client : String) : Sink → Option Bool
  | .socket name closed => if name = client then some closed else none
  | _ => none

/-- What becomes of a sink: one of the client stays so, and closes only if sending `failed`. -/
def Fate (failed : Prop) (x y : Option Bool) : Prop :=
  y = x ∨ failed ∧ x = some false ∧ y = some true

/-- Of what is due `n`, what came of it is `m`: less only if sending `failed`. -/
def Meets (failed : Prop) (m n : Nat) : Prop := m ≤ n ∧ (m = n ∨ failed)

namespace Bus

def socket? (b : Bus) (client : String) (id : SinkId) : Option Bool :=
  (b.sink? id).bind (Sink.socket? client)

/-- Whether a sink is one of the client. -/
def serves (b : Bus) (client : String) (id : SinkId) : Bool := (b.socket? client id).isSome

/-- How often an event goes to the client that is sent to the sinks. -/
def due (b : Bus) (client : String) (ids : List SinkId) : Nat :=
  ids.countP fun id => b.socket? client id = some false

/-- What is registered is a sink of the bus. -/
def Sound (b : Bus) : Prop := ∀ r ∈ b.registrations, r.1 < b.sinks.length

def registered (b : Bus) (id : SinkId) : List (SinkId × Option String) :=
  b.registrations.filter (·.1 = id)

/-- Whether an event of the task that is published now goes to the client. -/
def Subscribed (b : Bus) (client taskId : String) : Prop :=
  ∃ id ∈ b.audience taskId, b.socket? client id = some false

/-- What is done to the bus but by the session of the client. -/
structure Changes (client : String) (failed : Prop) (x y : Bus) : Prop where
  sinks : x.sinks.length ≤ y.sinks.length
  fate : ∀ id, Fate failed (x.socket? client id) (y.socket? client id)
  registered : ∀ id, x.serves client id = true → y.registered id = x.registered id
  sound : x.Sound → y.Sound

end Bus

section

variable {p q r : Prop} {x y z : Option Bool} {k l m n : Nat}

theorem Fate.refl : Fate p x x := .inl rfl

theorem Fate.mono (h : Fate p x y) (hpq : p → q) : Fate q x y :=
  h.imp_right fun hclosed => ⟨hpq hclosed.1, hclosed.2⟩

theorem Fate.trans (h : Fate p x y) (h' : Fate q y z) (hpr : p → r) (hqr : q → r) :
    Fate r x z := by
  rcases h with rfl | ⟨hp, rfl, rfl⟩
  · exact h'.mono hqr
  · -- A closed sink does not open again.
    refine .inr ⟨hpr hp, rfl, ?_⟩
    rcases h' with rfl | ⟨-, hopen, -⟩
    · rfl
    · cases hopen

theorem Fate.isSome (h : Fate p x y) : y.isSome = x.isSome := by
  rcases h with rfl | ⟨-, rfl, rfl⟩ <;> rfl

theorem Meets.refl : Meets p n n := ⟨Nat.le_refl n, .inl rfl⟩

theorem Meets.trans (h : Meets p (k + m) n) (h' : Meets q l m) (hpr : p → r) (hqr : q → r) :
    Meets r (k + l) n := by
  refine ⟨Nat.le_trans (Nat.add_le_add_left h'.1 k) h.1, ?_⟩
  rcases h.2, h'.2 with ⟨hsame | hp, hsame' | hq⟩
  · exact .inl (hsame' ▸ hsame)
  · exact .inr (hqr hq)
  · exact .inr (hpr hp)
  · exact .inr (hpr hp)

end

namespace Bus

variable {b b' b'' : Bus} {client taskId : String} {id j : SinkId} {ids : List SinkId}
  {f : Sink → Sink} {p q r : Prop}

theorem subscribed_iff : b.Subscribed client taskId ↔ 0 < b.due client (b.audience taskId) := by
  unfold Subscribed due
  rw [List.countP_pos_iff]
  simp only [decide_eq_true_eq]

theorem due_cons : b.due client (id :: ids) =
    b.due client ids + if b.socket? client id = some false then 1 else 0 := by
  unfold due
  rw [List.countP_cons]
  simp only [decide_eq_true_eq]

theorem socket?_of_sink? {sink : Sink} (h : b.sink? id = some sink) :
    b.socket? client id = sink.socket? client := by
  unfold socket?
  rw [h]
  rfl

theorem serves_of_open (h : b.socket? client id = some false) : b.serves client id = true :=
  Option.isSome_of_eq_some h

/-- Of the sinks that an event of a task is sent to, those of one client. -/
theorem due_audience_le {k : SinkId} (h : ∀ id, b.serves client id = true ↔ id = k) :
    b.due client (b.audience taskId) ≤ (b.registered k).length := by
  unfold due audience registered
  rw [List.countP_map, List.countP_filter, ← List.countP_eq_length_filter]
  refine List.countP_mono_left fun r _ hr => ?_
  rw [Bool.and_eq_true] at hr
  exact decide_eq_true ((h r.1).mp (serves_of_open (of_decide_eq_true hr.1)))

theorem mem_audience_lt (hb : b.Sound) (hid : id ∈ b.audience taskId) : id < b.sinks.length := by
  obtain ⟨r, hr, rfl⟩ := List.mem_map.mp hid
  exact hb r (List.mem_filter.mp hr).1

/-- A sink that closes is no longer sent to. -/
theorem meets_due (h : ∀ id ∈ ids, Fate p (b.socket? client id) (b'.socket? client id)) :
    Meets p (b'.due client ids) (b.due client ids) := by
  refine ⟨List.countP_mono_left fun id hid hopen => ?_, ?_⟩
  · rcases h id hid with hsame | ⟨-, hopen', -⟩
    · rw [← hsame]
      exact hopen
    · exact decide_eq_true hopen'
  · refine or_iff_not_imp_right.mpr fun hspared => List.countP_congr fun id hid => ?_
    rw [(h id hid).resolve_right fun hclosed => hspared hclosed.1]

theorem Changes.refl : b.Changes client p b :=
  ⟨Nat.le_refl _, fun _ => .refl, fun _ _ => rfl, fun h => h⟩

theorem Changes.mono (h : b.Changes client p b') (hpq : p → q) : b.Changes client q b' :=
  ⟨h.sinks, fun id => (h.fate id).mono hpq, h.registered, h.sound⟩

theorem Changes.serves (h : b.Changes client p b') (id : SinkId) :
    b'.serves client id = b.serves client id :=
  (h.fate id).isSome

theorem Changes.trans (h : b.Changes client p b') (h' : b'.Changes client q b'') (hpr : p → r)
    (hqr : q → r) : b.Changes client r b'' where
  sinks := Nat.le_trans h.sinks h'.sinks
  fate id := (h.fate id).trans (h'.fate id) hpr hqr
  registered id hid :=
    (h'.registered id ((h.serves id).trans hid)).trans (h.registered id hid)
  sound hb := h'.sound (h.sound hb)

theorem changes_modifySink (hf : ∀ sink, b.sink? id = some sink →
      Fate p (sink.socket? client) ((f sink).socket? client)) :
    b.Changes client p (b.modifySink id f) where
  sinks := Nat.le_of_eq (List.length_modify ..).symm
  fate j := by
    unfold socket?
    rw [sink?_modifySink]
    split
    · rename_i heq
      subst heq
      cases hsink : b.sink? id with
      | none => exact .refl
      | some sink => exact hf sink hsink
    · exact .refl
  registered _ _ := rfl
  sound hb r hr := Nat.lt_of_lt_of_eq (hb r hr) (List.length_modify ..).symm

end Bus

/-- A sink of the client that is told to close has failed. -/
theorem Sink.fate_close {client name : String} {sink : Sink} {p : Prop}
    (hsame : (sink.socket? client).isSome = ((Sink.socket name false).socket? client).isSome)
    (hfailed : name = client → p) :
    Fate p (sink.socket? client) ((Sink.socket name true).socket? client) := by
  by_cases hname : name = client
  · have hshut : (Sink.socket name true).socket? client = some true := if_pos hname
    have hopen : (Sink.socket name false).socket? client = some false := if_pos hname
    rw [hopen] at hsame
    obtain ⟨closed, hclosed⟩ := Option.isSome_iff_exists.mp hsame
    rw [hshut, hclosed]
    cases closed with
    | true => exact .refl
    | false => exact .inr ⟨hfailed hname, rfl, rfl⟩
  · have hnone : ∀ closed, (Sink.socket name closed).socket? client = none := fun _ => if_neg hname
    rw [hnone] at hsame ⊢
    exact .inl (Option.isNone_iff_eq_none.mp (Option.isSome_eq_false_iff.mp hsame)).symm

theorem Sink.socket?_keep (client : String) (e : Event) (sink : Sink) :
    (sink.keep e).socket? client = sink.socket? client := by
  cases sink <;> rfl

end Pageflow.Progress

namespace Pageflow.Socket
open Progress

/-- What is shared while every answer is put on record. -/
abbrev Site : Type := (Unit × List (Note Ask Ask.Reply)) × State

/-- Whether a question sends the text to the client. -/
def tells (client text : String) : Ask → Bool
  | .send name (.text content) => name = client && content = text
  | _ => false

/-- How often the text was sent to the client. -/
def told (client text : String) (notes : List (Note Ask Ask.Reply)) : Nat :=
  notes.countP fun note => tells client text note.1

/-- An event was sent to the client in vain. -/
def Failed (client : String) (notes : List (Note Ask Ask.Reply)) : Prop :=
  ∃ (e : Event) (fault : Fault), ⟨.send client (.text e.line), .error fault⟩ ∈ notes

/-- What was answered meanwhile. -/
def since (x y : Site) : List (Note Ask Ask.Reply) := y.1.2.drop x.1.2.length

/-- Sinks may be added, but none becomes or ceases to be one of the client. -/
structure Grows (client : String) (x y : Site) : Prop where
  notes : x.1.2 <+: y.1.2
  sinks : x.2.bus.sinks.length ≤ y.2.bus.sinks.length
  fate : ∀ id < x.2.bus.sinks.length, Fate (Failed client (since x y))
    (x.2.bus.socket? client id) (y.2.bus.socket? client id)

/-- The sinks of the client are left where they are. -/
structure Leaves (client : String) (x y : Site) : Prop where
  notes : x.1.2 <+: y.1.2
  changes : x.2.bus.Changes client (Failed client (since x y)) y.2.bus

/-- A sink of the client that is closed has failed to send to it. -/
structure Good (client : String) (x : Site) : Prop where
  sound : x.2.bus.Sound
  closed : ∀ id, x.2.bus.socket? client id = some true → Failed client x.1.2

section

variable {client : String} {x y z : Site} {w : Unit × List (Note Ask Ask.Reply)} {id : SinkId}
  {notes notes' : List (Note Ask Ask.Reply)} {p : Prop}

theorem Failed.mono (h : Failed client notes) (hnotes : notes ⊆ notes') :
    Failed client notes' := by
  obtain ⟨e, fault, hmem⟩ := h
  exact ⟨e, fault, hnotes hmem⟩

theorem since_self : since x x = [] := List.drop_length

theorem since_answered {s : State} {q : Ask} {r : Ask.Reply q} (hw : w.2 = x.1.2 ++ [⟨q, r⟩]) :
    since x (w, s) = [⟨q, r⟩] := by
  unfold since
  rw [hw]
  exact List.drop_left

theorem since_trans (h : x.1.2 <+: y.1.2) (h' : y.1.2 <+: z.1.2) :
    since x z = since x y ++ since y z := by
  obtain ⟨new, hy⟩ := h
  obtain ⟨new', hz⟩ := h'
  unfold since
  rw [← hz, List.drop_left, ← hy, List.append_assoc, List.drop_left, List.drop_left]

theorem Failed.overall (h : Failed client (since x y)) : Failed client y.1.2 :=
  h.mono (List.drop_subset _ _)

theorem Failed.later (h : Failed client (since x y)) (hxy : x.1.2 <+: y.1.2)
    (hyz : y.1.2 <+: z.1.2) : Failed client (since x z) := by
  rw [since_trans hxy hyz]
  exact h.mono (List.subset_append_left _ _)

theorem Failed.earlier (h : Failed client (since y z)) (hxy : x.1.2 <+: y.1.2)
    (hyz : y.1.2 <+: z.1.2) : Failed client (since x z) := by
  rw [since_trans hxy hyz]
  exact h.mono (List.subset_append_right _ _)

theorem Grows.refl : Grows client x x := ⟨List.prefix_refl _, Nat.le_refl _, fun _ _ => .refl⟩

theorem Grows.changes {s : State} (h : Grows client x y)
    (hchanges : y.2.bus.Changes client (Failed client (since x y)) s.bus) :
    Grows client x (y.1, s) where
  notes := h.notes
  sinks := Nat.le_trans h.sinks hchanges.sinks
  fate k hk := (h.fate k hk).trans (hchanges.fate k) id id

theorem Leaves.grows (h : Leaves client x y) : Grows client x y :=
  ⟨h.notes, h.changes.sinks, fun id _ => h.changes.fate id⟩

theorem Leaves.refl : Leaves client x x := ⟨List.prefix_refl _, .refl⟩

theorem Leaves.of_bus {s : State} (hnotes : x.1.2 <+: w.2) (hbus : s.bus = x.2.bus) :
    Leaves client x (w, s) :=
  ⟨hnotes, hbus.symm ▸ .refl⟩

theorem Good.changes (h : Good client x) (hnotes : x.1.2 ⊆ y.1.2)
    (hchanges : x.2.bus.Changes client p y.2.bus) (hp : p → Failed client y.1.2) :
    Good client y where
  sound := hchanges.sound h.sound
  closed id hid := by
    rcases hchanges.fate id with hsame | ⟨hfailed, -, -⟩
    · exact (h.closed id (hsame.symm.trans hid)).mono hnotes
    · exact hp hfailed

theorem Good.leaves (h : Good client x) (hleaves : Leaves client x y) : Good client y :=
  h.changes hleaves.notes.subset hleaves.changes Failed.overall

end

/-- What others do meanwhile: they may add and remove sinks and registrations of their own. -/
def Elsewhere (client : String) (x y : State) : Prop := x.bus.Changes client False y.bus

theorem Elsewhere.leaves {client : String} {x y : Site} (h : Elsewhere client x.2 y.2)
    (hnotes : y.1.2 = x.1.2) : Leaves client x y :=
  ⟨hnotes ▸ List.prefix_refl _, h.mono False.elim⟩

/-- Others may have their turn at every question, and anything may be answered. -/
def climate (client : String) : Climate State Ask Ask.Reply Unit where
  admits _ _ := True
  atOnce _ := False
  answers _ _ _ _ := True
  happens x y := Elsewhere client x.2 y.2

/-! ## Calls -/

/-- How far a call has come: the session of the client, or the publishing of an event. -/
inductive Phase where
  /-- The client has no sink. -/
  | away
  | on (sink : SinkId)
  | off (sink : SinkId)
  | fresh
  /-- Publishing waits for the sink `id`, one of the client if `mine`, and goes on to others. -/
  | waiting (mine : Bool) (id : SinkId) (rest : List SinkId)
  /-- Publishing has ended, while so many sinks of the client were left. -/
  | past (left : Nat)

namespace Phase

/-- Whether the call is the session. -/
def Follows : Phase → Prop
  | .away | .on _ | .off _ => True
  | _ => False

/-- Whether the call has begun to publish. -/
def Tells : Phase → Prop
  | .waiting _ _ _ | .past _ => True
  | _ => False

variable (client taskId : String)

def At : Phase → Bus → Prop
  | .away, b => ∀ id, b.serves client id = false
  | .on k, b => (∀ id, b.serves client id = true ↔ id = k) ∧ b.registered k = [(k, some taskId)]
  | .off k, b => (∀ id, b.serves client id = true ↔ id = k) ∧ b.registered k = []
  | .waiting mine id rest, b =>
    (∀ j ∈ id :: rest, j < b.sinks.length) ∧ b.serves client id = mine
  | .fresh, _ | .past _, _ => True

/-- How often the event is still to be sent to the client. -/
def due : Phase → Bus → Nat
  | .fresh, b => b.due client (b.audience taskId)
  | .waiting mine _ rest, b => mine.toNat + b.due client rest
  | .past left, _ => left
  | .away, _ | .on _, _ | .off _, _ => 0

variable {client taskId} {φ : Phase} {x y : Site} {b b' : Bus} {p : Prop}

theorem At.changes (hat : φ.At client taskId b) (h : b.Changes client p b') :
    φ.At client taskId b' := by
  cases φ with
  | away => exact fun id => (h.serves id).trans (hat id)
  | on k | off k =>
    refine ⟨fun id => by rw [h.serves]; exact hat.1 id, ?_⟩
    rw [h.registered k ((hat.1 k).mpr rfl)]
    exact hat.2
  | waiting mine id rest =>
    exact ⟨fun j hj => Nat.lt_of_lt_of_le (hat.1 j hj) h.sinks, (h.serves id).trans hat.2⟩
  | fresh | past => trivial

/-- The publishing of an event is not disturbed by sinks that are added. -/
theorem At.grows (hat : φ.At client taskId x.2.bus) (hφ : ¬ φ.Follows) (h : Grows client x y) :
    φ.At client taskId y.2.bus ∧ (φ ≠ .fresh → Meets (Failed client (since x y))
      (φ.due client taskId y.2.bus) (φ.due client taskId x.2.bus)) := by
  cases φ with
  | away | on | off => exact absurd trivial hφ
  | waiting mine id rest =>
    -- All sinks that are waited for are there already, so a new one is none of them.
    refine ⟨⟨fun j hj => Nat.lt_of_lt_of_le (hat.1 j hj) h.sinks, ?_⟩, fun _ => ?_⟩
    · exact (h.fate id (hat.1 id List.mem_cons_self)).isSome.trans hat.2
    · exact Meets.refl.trans (Bus.meets_due fun j hj =>
        h.fate j (hat.1 j (List.mem_cons_of_mem _ hj))) (fun h => h) fun h => h
  | fresh => exact ⟨trivial, fun hne => absurd rfl hne⟩
  | past => exact ⟨trivial, fun _ => .refl⟩

/-- The event of a task goes to the client once, if at all. -/
theorem At.due_audience_le (hat : φ.At client taskId b) (hφ : φ.Follows) :
    b.due client (b.audience taskId) ≤ 1 := by
  cases φ with
  | away =>
    have hnone : b.due client (b.audience taskId) = 0 :=
      List.countP_eq_zero.mpr fun id _ hopen => by
        have hserves := Bus.serves_of_open (of_decide_eq_true hopen)
        rw [hat id] at hserves
        cases hserves
    rw [hnone]
    exact Nat.zero_le 1
  | on k | off k =>
    refine Nat.le_trans (Bus.due_audience_le hat.1) ?_
    rw [hat.2]
    simp
  | waiting | fresh | past => exact hφ.elim

theorem At.subscribed {k : SinkId} (hat : (on k).At client taskId x.2.bus) (hgood : Good client x)
    (hspared : ¬ Failed client x.1.2) : x.2.bus.Subscribed client taskId := by
  obtain ⟨closed, hclosed⟩ := Option.isSome_iff_exists.mp ((hat.1 k).mpr rfl)
  have hopen : x.2.bus.socket? client k = some false := by
    cases closed with
    | true => exact absurd (hgood.closed k hclosed) hspared
    | false => exact hclosed
  have hmem : (k, some taskId) ∈ x.2.bus.registered k := by
    rw [hat.2]
    exact List.mem_singleton.mpr rfl
  refine ⟨k, List.mem_map.mpr ⟨(k, some taskId), ?_, rfl⟩, hopen⟩
  exact List.mem_filter.mpr ⟨(List.mem_filter.mp hmem).1, by simp⟩

end Phase
end Pageflow.Socket
