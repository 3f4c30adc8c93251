import Pageflow.Proofs.Activity.Contract

/-! Two ways to say more about an ensemble than one contract does: its answers put on
record, and two contracts kept at once. -/
namespace Pageflow

variable {σ A : Type} {R : A → Type} {W α β Φ Ψ : Type}

/-- A question and what was answered to it. -/
abbrev Note (A : Type) (R : A → Type) : Type := (q : A) × R q

/-- What is shared, without the record of the answers. -/
abbrev unnoted (x : (W × List (Note A R)) × σ) : W × σ := (x.1.1, x.2)

/-- The same surroundings, where every answer given is put on record. -/
def Climate.noted (env : Climate σ A R W) : Climate σ A R (W × List (Note A R)) where
  admits i x := env.admits i (unnoted x)
  atOnce := env.atOnce
  answers q x r w := env.answers q (unnoted x) r w.1 ∧ w.2 = x.1.2 ++ [⟨q, r⟩]
  happens x y := env.happens (unnoted x) (unnoted y) ∧ y.1.2 = x.1.2

/-- The notes taken in one turn. -/
def Move.notes (m : Move σ (W × List (Note A R))) : List (Note A R) :=
  m.after.1.2.drop m.before.1.2.length

def Contract.noted (c : Contract σ A W α Φ) : Contract σ A (W × List (Note A R)) α Φ where
  start := c.start
  rely φ x := c.rely φ (unnoted x)
  rests := c.rests
  moves φ x φ' y := c.moves φ (unnoted x) φ' (unnoted y)
  ends := c.ends

/-- Both contracts, each with its own phases. -/
def Contract.both (c : Contract σ A W α Φ) (d : Contract σ A W α Ψ) : Contract σ A W α (Φ × Ψ) where
  start := (c.start, d.start)
  rely φ x := c.rely φ.1 x ∧ d.rely φ.2 x
  rests φ q := c.rests φ.1 q ∧ d.rests φ.2 q
  moves φ x φ' y := c.moves φ.1 x φ'.1 y ∧ d.moves φ.2 x φ'.2 y
  ends φ result := c.ends φ.1 result ∧ d.ends φ.2 result

/-- What a turn puts on record when a question was open before it, or none. -/
def Records : Option A → W × List (Note A R) → W × List (Note A R) → Prop
  | none, w, w' => w'.2 = w.2
  | some q, w, w' => ∃ r, w'.2 = w.2 ++ [⟨q, r⟩]

theorem Move.notes_eq {m : Move σ (W × List (Note A R))} {l : List (Note A R)}
    (h : m.after.1.2 = m.before.1.2 ++ l) : m.notes = l := by
  rw [Move.notes, h, List.drop_left]

/-- What was put on record in a turn answers the question that was open. -/
theorem Records.question {m : Move σ (W × List (Note A R))} {open? : Option A} {q : A} {r : R q}
    (h : Records open? m.before.1 m.after.1) (hnotes : m.notes = [⟨q, r⟩]) : open? = some q := by
  cases open? with
  | none =>
    rw [Move.notes_eq (h.trans (List.append_nil _).symm)] at hnotes
    cases hnotes
  | some q' =>
    obtain ⟨r', hr'⟩ := h
    rw [Move.notes_eq hr'] at hnotes
    cases hnotes
    rfl

/-- The same contract, where a phase remembers which question is open in it. -/
def Contract.remembering (c : Contract σ A (W × List (Note A R)) α Φ) :
    Contract σ A (W × List (Note A R)) α (Φ × Option A) where
  start := (c.start, none)
  rely φ x := c.rely φ.1 x
  rests φ q := c.rests φ.1 q ∧ φ.2 = some q
  moves φ x φ' y := c.moves φ.1 x φ'.1 y ∧ Records φ.2 x.1 y.1 ∧
    ∀ q, φ'.2 = some q → c.rests φ'.1 q
  ends φ result := c.ends φ.1 result

namespace Program

theorem Keeps.noted {env : Climate σ A R W} {c : Contract σ A W α Φ} {p : Program σ A R β}
    {post : Ending σ W β Φ} {φ : Φ} {before now : (W × List (Note A R)) × σ}
    (h : p.Keeps env c post φ (unnoted before) (unnoted now)) :
    p.Keeps env.noted c.noted (fun result φ before now =>
      post result φ (unnoted before) (unnoted now)) φ before now := by
  induction p generalizing φ before now with
  | done value => exact h
  | fail fault => exact h
  | read next ih => exact ih now.2 h
  | write s next ih => exact ih h
  | ask q next ih =>
    obtain ⟨honce, hlater⟩ := h
    refine ⟨fun hq r w hanswer => ih r (honce hq r w.1 hanswer.1), fun hq => ?_⟩
    obtain ⟨φ', hmoves, hrests, hnext⟩ := hlater hq
    exact ⟨φ', hmoves, hrests, fun later r w hrely hanswer =>
      ih r (hnext (unnoted later) r w.1 hrely hanswer.1)⟩

theorem Keeps.both {env : Climate σ A R W} {c : Contract σ A W α Φ} {d : Contract σ A W α Ψ}
    {p : Program σ A R β} {post : Ending σ W β Φ} {post' : Ending σ W β Ψ} {φ : Φ} {ψ : Ψ}
    {before now : W × σ} (hc : p.Keeps env c post φ before now)
    (hd : p.Keeps env d post' ψ before now) :
    p.Keeps env (c.both d) (fun result φ before now =>
      post result φ.1 before now ∧ post' result φ.2 before now) (φ, ψ) before now := by
  induction p generalizing φ ψ before now with
  | done value => exact ⟨hc, hd⟩
  | fail fault => exact ⟨hc, hd⟩
  | read next ih => exact ih now.2 hc hd
  | write s next ih => exact ih hc hd
  | ask q next ih =>
    refine ⟨fun hq r w hanswer => ih r (hc.1 hq r w hanswer) (hd.1 hq r w hanswer), fun hq => ?_⟩
    obtain ⟨φ', hmoves, hrests, hnext⟩ := hc.2 hq
    obtain ⟨ψ', hmoves', hrests', hnext'⟩ := hd.2 hq
    exact ⟨(φ', ψ'), ⟨hmoves, hmoves'⟩, ⟨hrests, hrests'⟩, fun later r w hrely hanswer =>
      ih r (hnext later r w hrely.1 hanswer) (hnext' later r w hrely.2 hanswer)⟩

/-- A call that is answered only when its turn comes puts one answer on record in each turn. -/
theorem Keeps.remembering {env : Climate σ A R W} (hwaits : ∀ q, ¬ env.atOnce q)
    {c : Contract σ A (W × List (Note A R)) α Φ} {p : Program σ A R β}
    {post : Ending σ (W × List (Note A R)) β Φ} {φ : Φ} {open? : Option A}
    {before now : (W × List (Note A R)) × σ} (h : p.Keeps env.noted c post φ before now)
    (hrecords : Records open? before.1 now.1) :
    p.Keeps env.noted c.remembering (fun result φ before now =>
      post result φ.1 before now ∧ Records φ.2 before.1 now.1) (φ, open?) before now := by
  induction p generalizing φ open? before now with
  | done value => exact ⟨h, hrecords⟩
  | fail fault => exact ⟨h, hrecords⟩
  | read next ih => exact ih now.2 h hrecords
  | write s next ih => exact ih h hrecords
  | ask q next ih =>
    refine ⟨fun hq => absurd hq (hwaits q), fun hq => ?_⟩
    obtain ⟨φ', hmoves, hrests, hnext⟩ := h.2 hq
    refine ⟨(φ', some q), ⟨hmoves, hrecords, ?_⟩, ⟨hrests, rfl⟩, fun later r w hrely hanswer => ?_⟩
    · rintro _ ⟨⟩
      exact hrests
    · exact ih r (hnext later r w hrely hanswer) ⟨r, hanswer.2⟩

/-- A whole call, remembering its questions. -/
theorem Keeps.remembers {env : Climate σ A R W} (hwaits : ∀ q, ¬ env.atOnce q)
    {c : Contract σ A (W × List (Note A R)) α Φ} {p : Program σ A R α}
    {x : (W × List (Note A R)) × σ} (h : p.Keeps env.noted c c.closes c.start x x) :
    p.Keeps env.noted c.remembering c.remembering.closes c.remembering.start x x := by
  have hrecords : Records none x.1 x.1 := rfl
  refine (h.remembering hwaits hrecords).mono ?_
  rintro result φ before now ⟨⟨φ', hmoves, hends⟩, hrecords⟩
  exact ⟨(φ', none), ⟨hmoves, hrecords, nofun⟩, hends⟩

end Program

/-- What ends two calls at once. -/
theorem Contract.closes_both {c : Contract σ A W α Φ} {d : Contract σ A W α Ψ} {result : Result α}
    {φ : Φ × Ψ} {before now : W × σ} (hc : c.closes result φ.1 before now)
    (hd : d.closes result φ.2 before now) : (c.both d).closes result φ before now := by
  obtain ⟨φ', hmoves, hends⟩ := hc
  obtain ⟨ψ', hmoves', hends'⟩ := hd
  exact ⟨(φ', ψ'), ⟨hmoves, hmoves'⟩, hends, hends'⟩

end Pageflow
