import Pageflow.Proofs.Activity.Noted
import Pageflow.Proofs.Activity.Run

/-! What was answered in a run: its questions with their answers, or those of them that matter. A
run of a program made of parts notes what its parts note, one after the other. -/
namespace Pageflow.Program

variable {σ A : Type} {R : A → Type} {W α β : Type}

/-- The questions of a run and the answers given, in their order. -/
def notes (env : Responses σ A R W) : Program σ A R α → W × σ → List (Note A R)
  | done _, _ => []
  | fail _, _ => []
  | read next, x => (next x.2).notes env x
  | write s next, x => next.notes env (x.1, s)
  | ask q next, x => ⟨q, (env q x).1⟩ :: (next (env q x).1).notes env (env q x).2

/-- From `x` the program ends with `result` at `y`, and `noted` are the notes of this run that
`matter`. -/
structure Noting (env : Responses σ A R W) (matter : Note A R → Bool) (p : Program σ A R α)
    (x : W × σ) (noted : List (Note A R)) (result : Result α) (y : W × σ) : Prop where
  run : p.run env x = (result, y)
  noted : (p.notes env x).filter matter = noted

variable {env : Responses σ A R W} {matter : Note A R → Bool} {x y z : W × σ}
  {first rest noted : List (Note A R)} {p : Program σ A R α} {f : α → Program σ A R β}

theorem notes_bind (p : Program σ A R α) (f : α → Program σ A R β) (x : W × σ) :
    (p.bind f).notes env x = p.notes env x ++
      match p.run env x with
      | (.ok value, y) => (f value).notes env y
      | (.error _, _) => [] := by
  induction p generalizing x with
  | done value => rfl
  | fail fault => rfl
  | read next ih => exact ih x.2 x
  | write s next ih => exact ih (x.1, s)
  | ask q next ih => exact congrArg (⟨q, (env q x).1⟩ :: ·) (ih (env q x).1 (env q x).2)

theorem notes_attempt (p : Program σ A R α) (x : W × σ) :
    p.attempt.notes env x = p.notes env x := by
  induction p generalizing x with
  | done value => rfl
  | fail fault => rfl
  | read next ih => exact ih x.2 x
  | write s next ih => exact ih (x.1, s)
  | ask q next ih => exact congrArg (⟨q, (env q x).1⟩ :: ·) (ih (env q x).1 (env q x).2)

theorem noting_ofResult (result : Result α) (x : W × σ) :
    (ofResult result : Program σ A R α).Noting env matter x [] result x := by
  cases result <;> exact ⟨rfl, rfl⟩

theorem noting_done (value : α) (x : W × σ) :
    (done value : Program σ A R α).Noting env matter x [] (.ok value) x :=
  ⟨rfl, rfl⟩

theorem noting_read {next : σ → Program σ A R α} {result : Result α}
    (h : (next x.2).Noting env matter x noted result y) :
    (read next).Noting env matter x noted result y :=
  ⟨h.run, h.noted⟩

theorem noting_ask {q : A} {r : R q} {next : R q → Program σ A R α} {result : Result α}
    (hreply : env q x = (r, z)) (hmatters : matter ⟨q, r⟩ = true)
    (hnext : (next r).Noting env matter z rest result y) :
    (ask q next).Noting env matter x (⟨q, r⟩ :: rest) result y where
  run := (run_ask next hreply).trans hnext.run
  noted := by
    simp only [notes, hreply]
    rw [List.filter_cons_of_pos hmatters, hnext.noted]

/-- A question that does not matter leaves no note. -/
theorem noting_aside {q : A} {r : R q} {next : R q → Program σ A R α} {result : Result α}
    (hreply : env q x = (r, z)) (haside : matter ⟨q, r⟩ = false)
    (hnext : (next r).Noting env matter z rest result y) :
    (ask q next).Noting env matter x rest result y where
  run := (run_ask next hreply).trans hnext.run
  noted := by
    simp only [notes, hreply]
    rw [List.filter_cons_of_neg (Bool.eq_false_iff.mp haside), hnext.noted]

theorem Noting.bind {value : α} {result : Result β} (hp : p.Noting env matter x first (.ok value) z)
    (hf : (f value).Noting env matter z rest result y) :
    (p.bind f).Noting env matter x (first ++ rest) result y where
  run := (run_bind_ok hp.run f).trans hf.run
  noted := by rw [notes_bind, hp.run, List.filter_append, hp.noted, hf.noted]

theorem Noting.attempt {result : Result α} (hp : p.Noting env matter x noted result y) :
    p.attempt.Noting env matter x noted (.ok result) y where
  run := by rw [run_attempt, hp.run]
  noted := (congrArg _ (notes_attempt p x)).trans hp.noted

theorem Noting.rescueIf_ok {value : α} (hp : p.Noting env matter x noted (.ok value) y)
    (accepts : Fault → Bool) (recover : Fault → Program σ A R α) :
    (p.rescueIf accepts recover).Noting env matter x noted (.ok value) y := by
  rw [← List.append_nil noted]
  exact hp.attempt.bind (noting_done value y)

theorem Noting.rescueIf_accepted {fault : Fault} {result : Result α} {accepts : Fault → Bool}
    {recover : Fault → Program σ A R α} (hp : p.Noting env matter x first (.error fault) z)
    (haccepts : accepts fault = true)
    (hrecover : (recover fault).Noting env matter z rest result y) :
    (p.rescueIf accepts recover).Noting env matter x (first ++ rest) result y := by
  refine hp.attempt.bind ?_
  simpa only [haccepts, ↓reduceIte] using hrecover

theorem Noting.bind_error {fault : Fault} (hp : p.Noting env matter x noted (.error fault) y)
    (f : α → Program σ A R β) : (p.bind f).Noting env matter x noted (.error fault) y where
  run := by rw [run_bind, hp.run]
  noted := by rw [notes_bind, hp.run, List.append_nil, hp.noted]

/-! ## Whatever is answered -/

/-- From wherever it begins, a run notes and ends as `post` says. -/
def Reports (env : Responses σ A R W) (matter : Note A R → Bool)
    (post : List (Note A R) → Result α → Prop) (p : Program σ A R α) : Prop :=
  ∀ x, ∃ noted result y, p.Noting env matter x noted result y ∧ post noted result

variable {post : List (Note A R) → Result α → Prop} {post' : List (Note A R) → Result β → Prop}

theorem reports_ofResult {result : Result α} (h : post [] result) :
    (ofResult result).Reports env matter post :=
  fun x => ⟨[], result, x, noting_ofResult result x, h⟩

theorem reports_done {value : α} (h : post [] (.ok value)) :
    (done value).Reports env matter post :=
  reports_ofResult h

theorem reports_fail {fault : Fault} (h : post [] (.error fault)) :
    (fail fault).Reports env matter post :=
  reports_ofResult h

theorem Reports.mono {post'' : List (Note A R) → Result α → Prop} (hp : p.Reports env matter post)
    (h : ∀ noted result, post noted result → post'' noted result) :
    p.Reports env matter post'' := by
  intro x
  obtain ⟨noted, result, y, hnoting, hpost⟩ := hp x
  exact ⟨noted, result, y, hnoting, h noted result hpost⟩

theorem Reports.bind (hp : p.Reports env matter post)
    (hfail : ∀ noted fault, post noted (.error fault) → post' noted (.error fault))
    (hf : ∀ noted value, post noted (.ok value) →
      (f value).Reports env matter fun rest result => post' (noted ++ rest) result) :
    (p.bind f).Reports env matter post' := by
  intro x
  obtain ⟨noted, fault | value, z, hnoting, hpost⟩ := hp x
  · exact ⟨noted, _, z, hnoting.bind_error f, hfail noted fault hpost⟩
  · obtain ⟨rest, result, y, hrest, hpost'⟩ := hf noted value hpost z
    exact ⟨noted ++ rest, result, y, hnoting.bind hrest, hpost'⟩

theorem Reports.attempt_bind {f : Result α → Program σ A R β} (hp : p.Reports env matter post)
    (hf : ∀ noted result, post noted result →
      (f result).Reports env matter fun rest result => post' (noted ++ rest) result) :
    (p.attempt.bind f).Reports env matter post' := by
  intro x
  obtain ⟨noted, result, z, hnoting, hpost⟩ := hp x
  obtain ⟨rest, result', y, hrest, hpost'⟩ := hf noted result hpost z
  exact ⟨noted ++ rest, result', y, hnoting.attempt.bind hrest, hpost'⟩

/-- A fault that is not accepted is raised as it was; any other one is recovered from. -/
theorem Reports.rescueIf {accepts : Fault → Bool} {recover : Fault → Program σ A R α}
    {post' : List (Note A R) → Result α → Prop} (hp : p.Reports env matter post)
    (hok : ∀ noted value, post noted (.ok value) → post' noted (.ok value))
    (hraised : ∀ noted fault, post noted (.error fault) → accepts fault = false →
      post' noted (.error fault))
    (hrecover : ∀ noted fault, post noted (.error fault) → accepts fault = true →
      (recover fault).Reports env matter fun rest result => post' (noted ++ rest) result) :
    (p.rescueIf accepts recover).Reports env matter post' := by
  refine hp.attempt_bind fun noted result hpost => ?_
  cases result with
  | ok value => exact reports_done (by simpa using hok noted value hpost)
  | error fault =>
    cases haccepts : accepts fault with
    | false =>
      simp only [haccepts, Bool.false_eq_true, ↓reduceIte]
      exact reports_fail (by simpa using hraised noted fault hpost haccepts)
    | true =>
      simp only [haccepts, ↓reduceIte]
      exact hrecover noted fault hpost haccepts

end Pageflow.Program
