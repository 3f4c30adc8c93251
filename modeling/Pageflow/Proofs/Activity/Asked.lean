import Pageflow.Proofs.Activity.Noting

/-! What a program asks in a run. A run of a program made of parts is made of runs of the
parts, with their questions one after the other. -/
namespace Pageflow.Program

variable {σ A : Type} {R : A → Type} {W α β : Type}

/-- The questions of a run, in the order they are asked. -/
def asked (env : Responses σ A R W) : Program σ A R α → W × σ → List A
  | done _, _ => []
  | fail _, _ => []
  | read next, x => (next x.2).asked env x
  | write s next, x => next.asked env (x.1, s)
  | ask q next, x => q :: (next (env q x).1).asked env (env q x).2

/-- From `x` the program asks `calls`, and ends with `result` at `y`. -/
structure Runs (env : Responses σ A R W) (p : Program σ A R α) (x : W × σ) (calls : List A)
    (result : Result α) (y : W × σ) : Prop where
  asked : p.asked env x = calls
  run : p.run env x = (result, y)

variable {env : Responses σ A R W} {x y : W × σ} {calls : List A}

theorem runs_run (env : Responses σ A R W) (p : Program σ A R α) (x : W × σ) :
    p.Runs env x (p.asked env x) (p.run env x).1 (p.run env x).2 :=
  ⟨rfl, rfl⟩

theorem runs_of_toOption {p : Program σ A R α} {value : α}
    (h : (p.run env x).1.toOption = some value) :
    p.Runs env x (p.asked env x) (.ok value) (p.run env x).2 := by
  have hruns := runs_run env p x
  rcases hresult : (p.run env x).1 with fault | a
  · rw [hresult] at h
    cases h
  · rw [hresult] at h hruns
    cases h
    exact hruns

/-- A run is settled by where it begins. -/
theorem Runs.unique {p : Program σ A R α} {result result' : Result α} {y' : W × σ}
    {calls' : List A} (h : p.Runs env x calls result y) (h' : p.Runs env x calls' result' y') :
    calls = calls' ∧ result = result' ∧ y = y' := by
  obtain ⟨hresult, hend⟩ := Prod.mk.inj (h.run.symm.trans h'.run)
  exact ⟨h.asked.symm.trans h'.asked, hresult, hend⟩

theorem runs_ofResult {last result : Result α} :
    (ofResult last : Program σ A R α).Runs env x calls result y ↔
      calls = [] ∧ result = last ∧ y = x := by
  constructor
  · rintro ⟨rfl, hrun⟩
    cases last <;> cases hrun <;> exact ⟨rfl, rfl, rfl⟩
  · rintro ⟨rfl, rfl, rfl⟩
    cases result <;> exact ⟨rfl, rfl⟩

theorem runs_done {value : α} {result : Result α} :
    (done value : Program σ A R α).Runs env x calls result y ↔
      calls = [] ∧ result = .ok value ∧ y = x := by
  change (ofResult (.ok value)).Runs env x calls result y ↔ _
  exact runs_ofResult

theorem runs_fail {fault : Fault} {result : Result α} :
    (fail fault : Program σ A R α).Runs env x calls result y ↔
      calls = [] ∧ result = .error fault ∧ y = x := by
  change (ofResult (.error fault)).Runs env x calls result y ↔ _
  exact runs_ofResult

theorem runs_ask {q : A} {next : R q → Program σ A R α} {result : Result α} :
    (ask q next).Runs env x calls result y ↔ ∃ rest, calls = q :: rest ∧
      (next (env q x).1).Runs env (env q x).2 rest result y := by
  constructor
  · rintro ⟨rfl, hrun⟩
    exact ⟨_, rfl, rfl, hrun⟩
  · rintro ⟨rest, rfl, rfl, hrun⟩
    exact ⟨rfl, hrun⟩

theorem runs_read {next : σ → Program σ A R α} {result : Result α} :
    (read next).Runs env x calls result y ↔ (next x.2).Runs env x calls result y :=
  ⟨fun ⟨hasked, hrun⟩ => ⟨hasked, hrun⟩, fun ⟨hasked, hrun⟩ => ⟨hasked, hrun⟩⟩

theorem runs_update {change : σ → α × σ} {result : Result α} :
    (update change : Program σ A R α).Runs env x calls result y ↔
      calls = [] ∧ result = .ok (change x.2).1 ∧ y = (x.1, (change x.2).2) := by
  constructor
  · rintro ⟨rfl, hrun⟩
    cases hrun
    exact ⟨rfl, rfl, rfl⟩
  · rintro ⟨rfl, rfl, rfl⟩
    exact ⟨rfl, rfl⟩

theorem runs_modify {change : σ → σ} {result : Result Unit} :
    (modify change : Program σ A R Unit).Runs env x calls result y ↔
      calls = [] ∧ result = .ok () ∧ y = (x.1, change x.2) := by
  change (update fun s => ((), change s)).Runs env x calls result y ↔ _
  exact runs_update

theorem asked_eq_map_notes (p : Program σ A R α) (x : W × σ) :
    p.asked env x = (p.notes env x).map (·.1) := by
  induction p generalizing x with
  | done value => rfl
  | fail fault => rfl
  | read next ih => exact ih x.2 x
  | write s next ih => exact ih (x.1, s)
  | ask q next ih => exact congrArg (q :: ·) (ih (env q x).1 (env q x).2)

theorem asked_bind (p : Program σ A R α) (f : α → Program σ A R β) (x : W × σ) :
    (p.bind f).asked env x = p.asked env x ++
      match p.run env x with
      | (.ok value, y) => (f value).asked env y
      | (.error _, _) => [] := by
  rw [asked_eq_map_notes, notes_bind, List.map_append, ← asked_eq_map_notes]
  congr 1
  rcases p.run env x with ⟨fault | value, y⟩
  · rfl
  · exact (asked_eq_map_notes (f value) y).symm

theorem asked_attempt (p : Program σ A R α) (x : W × σ) :
    p.attempt.asked env x = p.asked env x := by
  rw [asked_eq_map_notes, notes_attempt, asked_eq_map_notes]

/-- A part that succeeded goes on with what it yielded; one that failed ends the whole. -/
theorem runs_bind {p : Program σ A R α} {f : α → Program σ A R β} {result : Result β} :
    (p.bind f).Runs env x calls result y ↔
      (∃ value first rest z, calls = first ++ rest ∧ p.Runs env x first (.ok value) z ∧
        (f value).Runs env z rest result y) ∨
      ∃ fault, result = .error fault ∧ p.Runs env x calls (.error fault) y := by
  constructor
  · rintro ⟨rfl, hrun⟩
    rw [run_bind] at hrun
    rw [asked_bind]
    rcases hp : p.run env x with ⟨fault | value, z⟩
    · simp only [hp, Prod.mk.injEq] at hrun ⊢
      obtain ⟨rfl, rfl⟩ := hrun
      exact .inr ⟨fault, rfl, by simp, hp⟩
    · simp only [hp] at hrun ⊢
      exact .inl ⟨value, _, _, z, rfl, ⟨rfl, hp⟩, rfl, hrun⟩
  · rintro (⟨value, first, rest, z, rfl, ⟨rfl, hp⟩, rfl, hf⟩ | ⟨fault, rfl, rfl, hp⟩)
    · exact ⟨by simp only [asked_bind, hp], by simp only [run_bind, hp, hf]⟩
    · exact ⟨by simp only [asked_bind, hp, List.append_nil], by simp only [run_bind, hp]⟩

theorem runs_bind_ok {p : Program σ A R α} {f : α → Program σ A R β} {value : β} :
    (p.bind f).Runs env x calls (.ok value) y ↔
      ∃ a first rest z, calls = first ++ rest ∧ p.Runs env x first (.ok a) z ∧
        (f a).Runs env z rest (.ok value) y := by
  rw [runs_bind]
  exact or_iff_left (by rintro ⟨fault, hfault, -⟩; cases hfault)

/-- A part that is only followed by its value made into another ends where the whole ends. -/
theorem runs_bind_done {p : Program σ A R α} {f : α → β} {result : Result β}
    (h : (p.bind fun a => done (f a)).Runs env x calls result y) :
    ∃ inner, p.Runs env x calls inner y ∧ result = f <$> inner := by
  rcases runs_bind.mp h with ⟨value, first, _, z, rfl, hp, hdone⟩ | ⟨fault, rfl, hp⟩
  · obtain ⟨rfl, rfl, rfl⟩ := runs_done.mp hdone
    exact ⟨.ok value, by rwa [List.append_nil], rfl⟩
  · exact ⟨.error fault, hp, rfl⟩

theorem runs_attempt {p : Program σ A R α} {result : Result (Result α)} :
    p.attempt.Runs env x calls result y ↔
      ∃ inner, result = .ok inner ∧ p.Runs env x calls inner y := by
  constructor
  · rintro ⟨rfl, hrun⟩
    rw [run_attempt] at hrun
    cases hrun
    exact ⟨_, rfl, (asked_attempt p x).symm, rfl⟩
  · rintro ⟨inner, rfl, rfl, hrun⟩
    exact ⟨asked_attempt p x, by rw [run_attempt, hrun]⟩

/-- What comes after an attempt is reached however the attempt ends. -/
theorem runs_attempt_bind {p : Program σ A R α} {f : Result α → Program σ A R β}
    {result : Result β} :
    (p.attempt.bind f).Runs env x calls result y ↔
      ∃ inner first rest z, calls = first ++ rest ∧ p.Runs env x first inner z ∧
        (f inner).Runs env z rest result y := by
  rw [runs_bind]
  constructor
  · rintro (⟨inner, first, rest, z, rfl, hattempt, hrest⟩ | ⟨_, -, hattempt⟩)
    · obtain ⟨_, hinner, hp⟩ := runs_attempt.mp hattempt
      cases hinner
      exact ⟨inner, first, rest, z, rfl, hp, hrest⟩
    · obtain ⟨_, hinner, -⟩ := runs_attempt.mp hattempt
      cases hinner
  · rintro ⟨inner, first, rest, z, rfl, hp, hrest⟩
    exact .inl ⟨inner, first, rest, z, rfl, runs_attempt.mpr ⟨inner, rfl, hp⟩, hrest⟩

theorem runs_rescueIf_ok {p : Program σ A R α} {accepts : Fault → Bool}
    {recover : Fault → Program σ A R α} {value : α} :
    (p.rescueIf accepts recover).Runs env x calls (.ok value) y ↔
      p.Runs env x calls (.ok value) y ∨
      ∃ fault first rest z, accepts fault = true ∧ calls = first ++ rest ∧
        p.Runs env x first (.error fault) z ∧ (recover fault).Runs env z rest (.ok value) y := by
  unfold rescueIf
  rw [runs_attempt_bind]
  constructor
  · rintro ⟨result, first, rest, z, rfl, hp, hnext⟩
    cases result with
    | ok a =>
      obtain ⟨rfl, hvalue, rfl⟩ := runs_done.mp hnext
      cases hvalue
      exact .inl (by rwa [List.append_nil])
    | error fault =>
      by_cases haccepts : accepts fault = true
      · simp only [haccepts, ↓reduceIte] at hnext
        exact .inr ⟨fault, first, rest, z, haccepts, rfl, hp, hnext⟩
      · simp only [haccepts, Bool.false_eq_true, ↓reduceIte] at hnext
        cases (runs_fail.mp hnext).2.1
  · rintro (hp | ⟨fault, first, rest, z, haccepts, rfl, hp, hrecover⟩)
    · exact ⟨_, calls, [], y, by simp, hp, runs_done.mpr ⟨rfl, rfl, rfl⟩⟩
    · exact ⟨_, first, rest, z, rfl, hp, by simpa only [haccepts, ↓reduceIte] using hrecover⟩

/-- A part whose faults are only made into something else ends where the whole ends. -/
theorem runs_rescueIf_settled {p : Program σ A R α} {accepts : Fault → Bool}
    {recover : Fault → Program σ A R α} {result : Result α}
    (hsettled : ∀ fault, ∃ last, recover fault = ofResult last)
    (h : (p.rescueIf accepts recover).Runs env x calls result y) :
    ∃ inner, p.Runs env x calls inner y ∧ ∀ value, inner = .ok value → result = .ok value := by
  obtain ⟨inner, first, rest, z, rfl, hp, hrest⟩ := runs_attempt_bind.mp h
  cases inner with
  | ok value =>
    obtain ⟨rfl, rfl, rfl⟩ := runs_done.mp hrest
    exact ⟨.ok value, by rwa [List.append_nil], fun _ => id⟩
  | error fault =>
    obtain ⟨last, hlast⟩ := hsettled fault
    have hend : rest = [] ∧ y = z := by
      dsimp only at hrest
      split at hrest
      · rw [hlast] at hrest
        exact ⟨(runs_ofResult.mp hrest).1, (runs_ofResult.mp hrest).2.2⟩
      · exact ⟨(runs_fail.mp hrest).1, (runs_fail.mp hrest).2.2⟩
    obtain ⟨rfl, rfl⟩ := hend
    exact ⟨.error fault, by rwa [List.append_nil], nofun⟩

/-- What is ignored fails only if it is cancelled. -/
theorem runs_of_ignore {p : Program σ A R Unit} {result : Result Unit}
    (h : p.ignore.Runs env x calls result y) :
    ∃ inner, p.Runs env x calls inner y ∧ (inner ≠ .error .cancelled → result = .ok ()) := by
  obtain ⟨inner, first, rest, z, rfl, hp, hrest⟩ := runs_attempt_bind.mp h
  cases inner with
  | ok value =>
    obtain ⟨rfl, rfl, rfl⟩ := runs_done.mp hrest
    exact ⟨_, by rwa [List.append_nil], fun _ => rfl⟩
  | error fault =>
    cases fault with
    | cancelled =>
      obtain ⟨rfl, rfl, rfl⟩ := runs_fail.mp hrest
      exact ⟨_, by rwa [List.append_nil], fun hspared => absurd rfl hspared⟩
    | _ =>
      obtain ⟨rfl, rfl, rfl⟩ := runs_done.mp hrest
      exact ⟨_, by rwa [List.append_nil], fun _ => rfl⟩

/-- The last part is run in any case; if it fails, so does the whole. -/
theorem runs_ensure {p : Program σ A R α} {last : Program σ A R Unit} {result : Result α} :
    (p.ensure last).Runs env x calls result y ↔
      ∃ inner closing first rest z, calls = first ++ rest ∧ p.Runs env x first inner z ∧
        last.Runs env z rest closing y ∧ result = closing >>= fun _ => inner := by
  unfold ensure
  rw [runs_attempt_bind]
  constructor
  · rintro ⟨inner, first, rest, z, rfl, hp, hrest⟩
    rcases runs_bind.mp hrest with ⟨_, closing, _, z', rfl, hlast, hend⟩ | ⟨fault, rfl, hlast⟩
    · obtain ⟨rfl, rfl, rfl⟩ := runs_ofResult.mp hend
      exact ⟨_, .ok (), first, closing, z, by simp, hp, hlast, rfl⟩
    · exact ⟨_, .error fault, first, rest, z, rfl, hp, hlast, rfl⟩
  · rintro ⟨inner, closing, first, rest, z, rfl, hp, hlast, rfl⟩
    refine ⟨inner, first, rest, z, rfl, hp, ?_⟩
    cases closing with
    | error fault => exact runs_bind.mpr (.inr ⟨fault, rfl, hlast⟩)
    | ok value =>
      exact runs_bind.mpr (.inl ⟨(), rest, [], y, by simp, hlast,
        runs_ofResult.mpr ⟨rfl, rfl, rfl⟩⟩)

theorem runs_ensure_ok {p : Program σ A R α} {last : Program σ A R Unit} {value : α} :
    (p.ensure last).Runs env x calls (.ok value) y ↔
      ∃ first rest z, calls = first ++ rest ∧ p.Runs env x first (.ok value) z ∧
        last.Runs env z rest (.ok ()) y := by
  rw [runs_ensure]
  constructor
  · rintro ⟨inner, closing, first, rest, z, rfl, hp, hlast, hended⟩
    cases closing with
    | error fault => cases hended
    | ok nothing =>
      obtain rfl : inner = .ok value := hended.symm
      exact ⟨first, rest, z, rfl, hp, hlast⟩
  · rintro ⟨first, rest, z, rfl, hp, hlast⟩
    exact ⟨_, _, first, rest, z, rfl, hp, hlast, rfl⟩

end Pageflow.Program
