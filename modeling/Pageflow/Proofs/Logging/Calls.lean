import Mathlib.Data.List.Induction
import Pageflow.Logging.Setup

/-! Several calls of the logging setup in one process. What holds in the end is what one of them
asked for: the last one outside the local environment, or else the first of all. A later call inside
the local environment finds a handler and leaves both the level and the format as they are, so the
last call decides only if it is that one or asks for the same. -/
namespace Pageflow.Logging

/-! ## One call -/

/-- The level that a call asks for, if it names one. -/
def Call.wanted? (c : Call) : Option Int := levels.lookup c.levelName

def Call.Recognised (c : Call) : Prop := c.wanted?.isSome

instance : DecidablePred Call.Recognised := fun c =>
  inferInstanceAs (Decidable (c.wanted?.isSome = true))

/-- The root logger is as a call asks for: it has the level, and one handler that writes JSON lines
outside the local environment and plain text inside it. -/
structure State.Obeys (s : State) (c : Call) : Prop where
  level_eq : c.wanted? = some s.level
  handlers_eq : s.handlers = [!c.isLocal]

instance (s : State) (c : Call) : Decidable (s.Obeys c) :=
  decidable_of_iff (c.wanted? = some s.level ∧ s.handlers = [!c.isLocal])
    ⟨fun h => ⟨h.1, h.2⟩, fun h => ⟨h.level_eq, h.handlers_eq⟩⟩

variable {s : State} {c d : Call}

theorem State.Obeys.iff_same (h : s.Obeys d) :
    s.Obeys c ↔ c.wanted? = d.wanted? ∧ c.isLocal = d.isLocal := by
  rw [h.level_eq]
  constructor
  · intro hc
    have hhandlers := h.handlers_eq.symm.trans hc.handlers_eq
    exact ⟨hc.level_eq, by simpa using hhandlers.symm⟩
  · rintro ⟨hlevel, hlocal⟩
    exact ⟨hlevel, by rw [h.handlers_eq, hlocal]⟩

/-- Inside the local environment a handler that is there stays as it is, and so does the level. -/
theorem configure_of_kept (hlocal : c.isLocal = true) (hhandlers : s.handlers ≠ []) :
    configure s c = (.ok (), { s with httpx := 30, httpcore := 30 }) := by
  have hkept : (c.isLocal && !s.handlers.isEmpty) = true := by simp [hlocal, hhandlers]
  rw [configure, if_pos hkept]

/-- Outside it, or without a handler, a call that names a level is obeyed. -/
theorem configure_of_set (hset : c.isLocal = false ∨ s.handlers = []) {n : Int}
    (hlevel : c.wanted? = some n) :
    configure s c = (.ok (), ⟨n, [!c.isLocal], 30, 30⟩) := by
  have hnotKept : ¬ (c.isLocal && !s.handlers.isEmpty) = true := by
    rcases hset with hlocal | hhandlers
    · simp [hlocal]
    · simp [hhandlers]
  have hlevelOf : levelOf c.levelName = .ok n := by
    unfold Call.wanted? at hlevel
    simp only [levelOf, hlevel]
  rw [configure, if_neg hnotKept]
  simp only [hlevelOf]

theorem configure_ok (hname : c.Recognised) : (configure s c).1 = .ok () := by
  obtain ⟨n, hlevel⟩ := Option.isSome_iff_exists.mp hname
  by_cases hkept : c.isLocal = true ∧ s.handlers ≠ []
  · rw [configure_of_kept hkept.1 hkept.2]
  · rw [not_and_or, Bool.not_eq_true, not_not] at hkept
    rw [configure_of_set hkept hlevel]

theorem obeys_configure (hname : c.Recognised) (hset : c.isLocal = false ∨ s.handlers = []) :
    (configure s c).2.Obeys c := by
  obtain ⟨n, hlevel⟩ := Option.isSome_iff_exists.mp hname
  rw [configure_of_set hset hlevel]
  exact ⟨hlevel, rfl⟩

theorem State.Obeys.kept (h : s.Obeys d) (hlocal : c.isLocal = true) :
    (configure s c).2.Obeys d := by
  have hhandlers : s.handlers ≠ [] := by simp [h.handlers_eq]
  rw [configure_of_kept hlocal hhandlers]
  exact ⟨h.level_eq, h.handlers_eq⟩

/-! ## Several calls -/

/-- All calls one after another. -/
def configureAll (s : State) (calls : List Call) : State :=
  calls.foldl (fun s call => (configure s call).2) s

theorem configureAll_concat (s : State) (calls : List Call) (last : Call) :
    configureAll s (calls ++ [last]) = (configure (configureAll s calls) last).2 := by
  simp [configureAll]

/-- The call that stands: the last one outside the local environment, or else the first. -/
def standing? (calls : List Call) : Option Call :=
  (calls.reverse.find? (!·.isLocal)).or calls.head?

theorem standing?_concat (calls : List Call) (last : Call) :
    standing? (calls ++ [last]) =
      if last.isLocal then (standing? calls).or (some last) else some last := by
  unfold standing?
  rw [List.reverse_append, List.reverse_singleton, List.singleton_append, List.find?_cons,
    List.head?_append]
  cases last.isLocal <;> simp

theorem standing?_eq_none_iff {calls : List Call} : standing? calls = none ↔ calls = [] := by
  rw [standing?, Option.or_eq_none_iff, List.head?_eq_none_iff]
  constructor
  · exact fun h => h.2
  · rintro rfl
    exact ⟨rfl, rfl⟩

/-- Only if all calls are local does a local one stand, and then it is the first. -/
theorem standing?_local {calls : List Call} (hstands : standing? calls = some d) :
    (d.isLocal = true ↔ ∀ c ∈ calls, c.isLocal = true) ∧
      (d.isLocal = true → calls.head? = some d) := by
  unfold standing? at hstands
  cases hfind : calls.reverse.find? (!·.isLocal) with
  | some outside =>
    rw [hfind] at hstands
    obtain rfl : outside = d := Option.some.inj hstands
    have houtside : outside.isLocal = false := by simpa using List.find?_some hfind
    have hmem : outside ∈ calls := List.mem_reverse.mp (List.mem_of_find?_eq_some hfind)
    simp only [houtside, Bool.false_eq_true, false_iff, false_implies, and_true]
    exact fun hall => by simpa [houtside] using hall outside hmem
  | none =>
    rw [hfind] at hstands
    have hall : ∀ c ∈ calls, c.isLocal = true := by simpa using List.find?_eq_none.mp hfind
    have hfirst : calls.head? = some d := hstands
    exact ⟨iff_of_true (hall d (List.mem_of_head? hfirst)) hall, fun _ => hfirst⟩

/-- Whether the call that stands asks for the same as the last one. -/
theorem standing?_same_iff {calls : List Call} {last : Call}
    (hstands : standing? (calls ++ [last]) = some d) :
    last.wanted? = d.wanted? ∧ last.isLocal = d.isLocal ↔
      (last.isLocal = true → (∀ c ∈ calls, c.isLocal = true) ∧
        ∀ first ∈ calls.head?, first.wanted? = last.wanted?) := by
  rw [standing?_concat] at hstands
  cases hlocal : last.isLocal with
  | false =>
    rw [hlocal] at hstands
    obtain rfl : last = d := Option.some.inj hstands
    exact iff_of_true ⟨rfl, hlocal.symm⟩ nofun
  | true =>
    rw [hlocal] at hstands
    cases hbefore : standing? calls with
    | none =>
      obtain rfl := standing?_eq_none_iff.mp hbefore
      obtain rfl : last = d := Option.some.inj hstands
      exact iff_of_true ⟨rfl, hlocal.symm⟩ fun _ => ⟨nofun, nofun⟩
    | some stands =>
      rw [hbefore] at hstands
      obtain rfl : stands = d := Option.some.inj hstands
      obtain ⟨hall, hfirst⟩ := standing?_local hbefore
      rw [← hall]
      constructor
      · rintro ⟨hlevel, hstandsLocal⟩ -
        refine ⟨hstandsLocal.symm, fun first hmem => ?_⟩
        rw [hfirst hstandsLocal.symm] at hmem
        rw [← Option.some.inj hmem, hlevel]
      · intro hsame
        obtain ⟨hstandsLocal, hlevel⟩ := hsame rfl
        exact ⟨(hlevel stands (hfirst hstandsLocal)).symm, hstandsLocal.symm⟩

/-- The root logger is as the call that stands asks for. -/
theorem configureAll_obeys (hbare : s.handlers = []) (calls : List Call)
    (hnames : ∀ c ∈ calls, c.Recognised) (hstands : standing? calls = some d) :
    (configureAll s calls).Obeys d := by
  -- From the right: the last call stands, or it leaves what the calls before it did.
  induction calls using List.reverseRecOn generalizing d with
  | nil => cases hstands
  | append_singleton calls last ih =>
    have hlast := hnames last (by simp)
    have hbefore : ∀ c ∈ calls, c.Recognised := fun c hc => hnames c (List.mem_append_left _ hc)
    rw [standing?_concat] at hstands
    rw [configureAll_concat]
    cases hlocal : last.isLocal with
    | false =>
      rw [hlocal] at hstands
      obtain rfl : last = d := Option.some.inj hstands
      exact obeys_configure hlast (.inl hlocal)
    | true =>
      rw [hlocal] at hstands
      cases hstanding : standing? calls with
      | none =>
        rw [hstanding] at hstands
        obtain rfl : last = d := Option.some.inj hstands
        obtain rfl := standing?_eq_none_iff.mp hstanding
        exact obeys_configure hlast (.inr hbare)
      | some stands =>
        rw [hstanding] at hstands
        obtain rfl : stands = d := Option.some.inj hstands
        exact (ih hbefore hstanding).kept hlocal

/-- The last of several calls decides the level and the format exactly if it is made outside the
local environment, or all calls are made inside it and the first one asked for the same level. No
call with the name of a level fails. -/
theorem obeys_last_iff (hbare : s.handlers = []) (calls : List Call) (last : Call)
    (hnames : ∀ c ∈ calls ++ [last], c.Recognised) :
    (∀ now, ∀ c ∈ calls ++ [last], (configure now c).1 = .ok ()) ∧
      ((configureAll s (calls ++ [last])).Obeys last ↔
        (last.isLocal = true → (∀ c ∈ calls, c.isLocal = true) ∧
          ∀ first ∈ calls.head?, first.wanted? = last.wanted?)) := by
  refine ⟨fun now c hc => configure_ok (hnames c hc), ?_⟩
  obtain ⟨stands, hstands⟩ : ∃ stands, standing? (calls ++ [last]) = some stands := by
    rw [← Option.ne_none_iff_exists', Ne, standing?_eq_none_iff]
    exact List.append_ne_nil_of_right_ne_nil calls (List.cons_ne_nil last [])
  rw [(configureAll_obeys hbare _ hnames hstands).iff_same, standing?_same_iff hstands]

/-- Local by default. -/
def textInfo : Call := ⟨some "info", none, []⟩

/-- Local by name, with its level from the environment. -/
def textInfoAgain : Call := ⟨none, some " local ", [("PAGERUN_LOG_LEVEL", "Info")]⟩

theorem obeys_last_iff_sameLevel : State.initial.handlers = [] ∧
    (∀ c ∈ [textInfo] ++ [textInfoAgain], c.Recognised) ∧
    (configureAll .initial ([textInfo] ++ [textInfoAgain])).Obeys textInfoAgain := by
  have hnames : ∀ c ∈ [textInfo] ++ [textInfoAgain], c.Recognised := by decide +kernel
  refine ⟨rfl, hnames, (obeys_last_iff rfl [textInfo] textInfoAgain hnames).2.mpr fun _ => ?_⟩
  decide +kernel

/-- JSON lines, as in a deployment. -/
def jsonInfo : Call := ⟨some "info", some "prod", []⟩

def textDebug : Call := ⟨some "debug", some "local", []⟩

/-- A local call after one from elsewhere changes neither the level nor the format. -/
theorem textDebug_not_obeyed : State.initial.handlers = [] ∧
    (∀ c ∈ [jsonInfo] ++ [textDebug], c.Recognised) ∧
    configureAll .initial ([jsonInfo] ++ [textDebug]) = ⟨20, [true], 30, 30⟩ ∧
    ¬ (configureAll .initial ([jsonInfo] ++ [textDebug])).Obeys textDebug := by
  decide +kernel

end Pageflow.Logging
