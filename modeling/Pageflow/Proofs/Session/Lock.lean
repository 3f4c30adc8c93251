import Pageflow.Proofs.Session.Uses

/-! The lock of a session. Every use that holds or wants it has a ticket of its
own in the queue, only the holder launches or closes, and while it does nobody
else takes a context in hand. -/
namespace Pageflow.Session
open Browser

/-- The ticket of a use that holds the lock from one turn to the next. -/
def Phase.inside? : Phase → Option Nat
  | .preparing t | .launching t | .closing t | .stopping t => some t
  | _ => none

/-- Phases in which no context can be in hand. -/
def Phase.Bare : Phase → Prop
  | .preparing _ | .launching _ | .stopping _ => True
  | _ => False

structure Locked (s : State) (phase : Nat → Phase) : Prop where
  queued : ∀ i t, (phase i).ticket? = some t → t ∈ s.queue
  inside : ∀ i t, (phase i).inside? = some t → s.holds t
  apart : ∀ i j t, (phase i).ticket? = some t → (phase j).ticket? = some t → i = j
  issued : ∀ t ∈ s.queue, t < s.nextTicket
  bare : ∀ i, (phase i).Bare → s.context = none

section

variable {s : State} {φ : Phase} {t t' : Nat}

theorem Phase.ticket?_of_inside? (h : φ.inside? = some t) : φ.ticket? = some t := by
  cases φ with
  | preparing | launching | closing | stopping => exact h
  | _ => cases h

theorem Phase.Bare.inside? (h : φ.Bare) : ∃ t, φ.inside? = some t := by
  cases φ with
  | preparing t | launching t | stopping t => exact ⟨t, rfl⟩
  | _ => exact h.elim

namespace State

theorem holds_iff : s.holds t ↔ s.queue.head? = some t := decide_eq_true_iff

theorem holds_unique (h : s.holds t) (h' : s.holds t') : t = t' := by
  rw [holds_iff] at h h'
  exact Option.some.inj (h.symm.trans h')

theorem holds_leave_of_ne (h : s.holds t) (hne : t ≠ t') : (s.leave t').holds t := by
  rw [holds_iff] at h ⊢
  unfold leave
  cases hqueue : s.queue with
  | nil =>
    rw [hqueue] at h
    cases h
  | cons first rest =>
    rw [hqueue] at h
    cases h
    simp [hne]

theorem holds_enqueue (h : s.holds t) : s.enqueue.2.holds t := by
  rw [holds_iff] at h ⊢
  unfold enqueue
  cases hqueue : s.queue with
  | nil =>
    rw [hqueue] at h
    cases h
  | cons first rest =>
    rw [hqueue] at h
    exact h

theorem mem_leave : t ∈ (s.leave t').queue ↔ t ∈ s.queue ∧ t ≠ t' := by
  simp [leave]

theorem mem_enqueue : t ∈ s.enqueue.2.queue ↔ t ∈ s.queue ∨ t = s.nextTicket := by
  simp [enqueue]

/-- Whoever fails, all are told, each once. -/
theorem tellAll_eq (names : List String) (s : State) :
    tellAll names s = { s with told := s.told ++ names } := by
  induction names generalizing s with
  | nil => rw [List.append_nil]; rfl
  | cons name rest ih =>
    have hnext : tellAll (name :: rest) s = tellAll rest (s.tell name).2 := by
      rw [tellAll]
      split <;> simp [*]
    rw [hnext, ih, tell, List.append_assoc, List.singleton_append]

theorem drop_eq (s : State) :
    s.drop = if s.isLive then { s with context := none, told := s.told ++ s.observers } else s := by
  rw [drop, tellAll_eq]

@[simp] theorem context_drop : s.drop.context = none := by
  rw [drop_eq]
  unfold isLive
  split
  · rfl
  · rename_i h
    exact Option.not_isSome_iff_eq_none.mp h

@[simp] theorem queue_drop : s.drop.queue = s.queue := by
  rw [drop_eq]
  split <;> rfl

@[simp] theorem nextTicket_drop : s.drop.nextTicket = s.nextTicket := by
  rw [drop_eq]
  split <;> rfl

end State
end

/-- What a turn does to the lock: a ticket is taken, given back, or kept. -/
inductive Locks : Phase → State → Phase → State → Prop where
  | take {φ φ' : Phase} {s s' : State} (hbefore : φ.ticket? = none)
    (hafter : φ'.ticket? = some s.nextTicket) (hinside : φ'.inside? = none)
    (hqueue : s'.queue = s.enqueue.2.queue) (hnext : s'.nextTicket = s.nextTicket + 1) :
    Locks φ s φ' s'
  | leave {φ φ' : Phase} {s s' : State} {t : Nat} (hbefore : φ.ticket? = some t)
    (hafter : φ'.ticket? = none) (hqueue : s'.queue = (s.leave t).queue)
    (hnext : s'.nextTicket = s.nextTicket) : Locks φ s φ' s'
  | keep {φ φ' : Phase} {s s' : State} (hticket : φ'.ticket? = φ.ticket?)
    (hinside : ∀ t, φ'.inside? = some t → φ.inside? = some t ∨ s.holds t)
    (hqueue : s'.queue = s.queue) (hnext : s'.nextTicket = s.nextTicket) : Locks φ s φ' s'

section

variable {u : Use} {φ φ' : Phase} {x y : Contexts × State}

theorem Phase.inside?_eq_none {φ : Phase} (h : φ.ticket? = none) : φ.inside? = none := by
  cases φ with
  | preparing | launching | closing | stopping => cases h
  | _ => rfl

theorem Turns.locks (hturns : Turns u φ x φ' y) : Locks φ x.2 φ' y.2 := by
  cases hturns with
  | enqueue => exact .take rfl rfl rfl rfl rfl
  | abandon hticket => exact .leave hticket rfl rfl rfl
  | find | idle => exact .leave rfl rfl rfl rfl
  | take | stopped => exact .leave rfl rfl rfl rfl
  | dropShut => exact .leave rfl rfl (by simp [State.leave]) (by simp [State.leave])
  | prepare hholds | shutting hholds | stop hholds =>
    refine .keep rfl (fun t ht => ?_) rfl rfl
    cases ht
    exact .inr hholds
  | prepareOn | launch => exact .keep rfl (fun t ht => .inl ht) rfl rfl
  | dropStop =>
    exact .keep rfl (fun t ht => .inl ht) State.queue_drop State.nextTicket_drop
  | refused | told => exact .keep rfl (fun t => nofun) State.queue_drop State.nextTicket_drop
  | opened | unopened | visit | page | paged => exact .keep rfl (fun t => nofun) rfl rfl

/-- A turn takes a context in hand while launching, or leaves in hand what was
there, or nothing. -/
theorem Turns.context (hturns : Turns u φ x φ' y) :
    (∃ t c, φ = .launching t ∧ c ∉ x.1.returned ∧ y.1 = x.1.launch c ∧ y.2.context = some c) ∨
      (y.2.context = x.2.context ∨ y.2.context = none) ∧ y.1.returned = x.1.returned := by
  cases hturns with
  | take hnew => exact .inl ⟨_, _, rfl, hnew, rfl, rfl⟩
  | refused | told => exact .inr ⟨.inr State.context_drop, rfl⟩
  | dropStop hreturned => exact .inr ⟨.inr State.context_drop, hreturned⟩
  | dropShut hreturned => exact .inr ⟨.inr (by simp [State.leave]), hreturned⟩
  | _ => exact .inr ⟨.inl rfl, rfl⟩

theorem Turns.bare (hturns : Turns u φ x φ' y) (hbare : φ'.Bare) :
    φ.Bare ∧ y.2.context = x.2.context ∨ y.2.context = none := by
  cases hturns with
  | prepare _ hnone | stop _ hnone => exact .inr hnone
  | prepareOn | launch => exact .inl ⟨trivial, rfl⟩
  | dropStop => exact .inr State.context_drop
  | _ => exact hbare.elim

end

section

variable {call : Nat → Use} {w w' : Contexts} {s s' : State} {phase : Nat → Phase} {who : Nat}
  {φ : Phase}

theorem Locked.exclusive (hlocked : Locked s phase) {i j t t' : Nat}
    (hi : (phase i).inside? = some t) (hj : (phase j).inside? = some t') : i = j := by
  obtain rfl := State.holds_unique (hlocked.inside i t hi) (hlocked.inside j t' hj)
  exact hlocked.apart i j t (Phase.ticket?_of_inside? hi) (Phase.ticket?_of_inside? hj)

theorem holds_of_queue (hqueue : s'.queue = s.queue) {t : Nat} (hholds : s.holds t) :
    s'.holds t := by
  rw [State.holds_iff] at hholds ⊢
  rw [hqueue, hholds]

theorem Locked.fresh_ticket (hlocked : Locked s phase) {i t : Nat}
    (hi : (phase i).ticket? = some t) : t ≠ s.nextTicket :=
  Nat.ne_of_lt (hlocked.issued t (hlocked.queued i t hi))

section

variable (hlocked : Locked s phase) (hlocks : Locks (phase who) s φ s')
include hlocked hlocks

theorem Locked.queued_self {t : Nat} (ht : φ.ticket? = some t) : t ∈ s'.queue := by
  cases hlocks with
  | take _ hafter _ hqueue _ =>
    rw [hafter] at ht
    cases ht
    rw [hqueue, State.mem_enqueue]
    exact .inr rfl
  | leave _ hafter _ _ =>
    rw [hafter] at ht
    cases ht
  | keep hticket _ hqueue _ =>
    rw [hqueue]
    exact hlocked.queued who t (hticket.symm.trans ht)

/-- Nobody is put out of the queue by another. -/
theorem Locked.queued_other {i t : Nat} (hi : i ≠ who) (ht : (phase i).ticket? = some t) :
    t ∈ s'.queue := by
  have hmem := hlocked.queued i t ht
  cases hlocks with
  | take _ _ _ hqueue _ =>
    rw [hqueue, State.mem_enqueue]
    exact .inl hmem
  | leave hbefore _ hqueue _ =>
    rw [hqueue, State.mem_leave]
    refine ⟨hmem, ?_⟩
    rintro rfl
    exact hi (hlocked.apart i who t ht hbefore)
  | keep _ _ hqueue _ => rwa [hqueue]

theorem Locked.inside_self {t : Nat} (ht : φ.inside? = some t) : s'.holds t := by
  cases hlocks with
  | take _ _ hinside _ _ =>
    rw [hinside] at ht
    cases ht
  | leave _ hafter _ _ =>
    rw [Phase.inside?_eq_none hafter] at ht
    cases ht
  | keep _ hinside hqueue _ =>
    refine holds_of_queue hqueue ?_
    rcases hinside t ht with hbefore | hholds
    · exact hlocked.inside who t hbefore
    · exact hholds

/-- Nobody loses the lock to another: new tickets go to the end of the queue. -/
theorem Locked.inside_other {i t : Nat} (hi : i ≠ who) (ht : (phase i).inside? = some t) :
    s'.holds t := by
  have hholds := hlocked.inside i t ht
  cases hlocks with
  | take _ _ _ hqueue _ => exact holds_of_queue hqueue (State.holds_enqueue hholds)
  | leave hbefore _ hqueue _ =>
    refine holds_of_queue hqueue (State.holds_leave_of_ne hholds ?_)
    rintro rfl
    exact hi (hlocked.apart i who t (Phase.ticket?_of_inside? ht) hbefore)
  | keep _ _ hqueue _ => exact holds_of_queue hqueue hholds

theorem Locked.ticket?_other {i t : Nat} (hi : i ≠ who) (ht : φ.ticket? = some t) :
    (phase i).ticket? ≠ some t := by
  intro hold
  cases hlocks with
  | take _ hafter _ _ _ =>
    rw [hafter] at ht
    cases ht
    exact hlocked.fresh_ticket hold rfl
  | leave _ hafter _ _ =>
    rw [hafter] at ht
    cases ht
  | keep hticket _ _ _ => exact hi (hlocked.apart i who t hold (hticket.symm.trans ht))

theorem Locked.issued_after {t : Nat} (ht : t ∈ s'.queue) : t < s'.nextTicket := by
  cases hlocks with
  | take _ _ _ hqueue hnext =>
    rw [hqueue, State.mem_enqueue] at ht
    rw [hnext]
    rcases ht with hmem | rfl
    · exact Nat.lt_succ_of_lt (hlocked.issued t hmem)
    · exact Nat.lt_succ_self _
  | leave _ _ hqueue hnext =>
    rw [hqueue, State.mem_leave] at ht
    rw [hnext]
    exact hlocked.issued t ht.1
  | keep _ _ hqueue hnext =>
    rw [hqueue] at ht
    rw [hnext]
    exact hlocked.issued t ht

end

/-- While a use finds no context in hand, no other puts one there: only the holder of
the lock does. -/
theorem Locked.bare_other (hlocked : Locked s phase) {u : Use}
    (hturns : Turns u (phase who) (w, s) φ (w', s')) {i : Nat} (hi : i ≠ who)
    (hbare : (phase i).Bare) : s'.context = none := by
  obtain ⟨t, ht⟩ := hbare.inside?
  rcases hturns.context with ⟨t', _, hlaunching, -⟩ | ⟨hsame | hnone, -⟩
  · have hinside : (phase who).inside? = some t' := by rw [hlaunching]; rfl
    exact absurd (hlocked.exclusive ht hinside) hi
  · exact hsame.trans (hlocked.bare i hbare)
  · exact hnone

theorem Locked.turn (hlocked : Locked s phase) {u : Use}
    (hturns : Turns u (phase who) (w, s) φ (w', s')) :
    Locked s' (Function.update phase who φ) where
  queued := (Function.forall_update_iff phase fun _ ψ => ∀ t, ψ.ticket? = some t →
    t ∈ s'.queue).mpr ⟨fun _ => hlocked.queued_self hturns.locks,
      fun _ hi _ => hlocked.queued_other hturns.locks hi⟩
  inside := (Function.forall_update_iff phase fun _ ψ => ∀ t, ψ.inside? = some t →
    s'.holds t).mpr ⟨fun _ => hlocked.inside_self hturns.locks,
      fun _ hi _ => hlocked.inside_other hturns.locks hi⟩
  apart := apart_update (P := fun (ψ : Phase) t => ψ.ticket? = some t) hlocked.apart
    fun _ _ hi => hlocked.ticket?_other hturns.locks hi
  issued _ := hlocked.issued_after hturns.locks
  bare := by
    refine (Function.forall_update_iff phase fun _ ψ => ψ.Bare → s'.context = none).mpr
      ⟨fun hbare => ?_, fun _ hi => hlocked.bare_other hturns hi⟩
    rcases hturns.bare hbare with ⟨hbefore, hsame⟩ | hnone
    · exact hsame.trans (hlocked.bare who hbefore)
    · exact hnone

end
end Pageflow.Session
