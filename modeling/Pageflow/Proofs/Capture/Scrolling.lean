import Mathlib.Order.Bounds.Basic
import Pageflow.Capture.Scroll
import Pageflow.Proofs.Capture.Rounds

/-! Scrolling to the bottom of any page. A round takes a picture, and goes on with a gesture and a
rest unless the page has come to rest; whatever call fails ends the rounds. The page may show and
refuse what it likes. -/
namespace Pageflow.Capture
open Browser

/-! ## Coming to rest

When a page has come to rest. The loop remembers one picture and a count; together they tell
whether the last pictures are all the same, for any sequence of pictures. -/

section

variable {shots : ℕ → Picture} {k j : ℕ}

/-- The picture `j` and the `k` pictures before it are all the same. -/
def Still (shots : ℕ → Picture) (k j : ℕ) : Prop := k ≤ j ∧ ∀ i ≤ k, shots (j - i) = shots j

/-- What the loop remembers after the first pictures of a sequence. -/
def Stillness.after (shots : ℕ → Picture) : ℕ → Stillness
  | 0 => ⟨0, none⟩
  | j + 1 => (after shots j).next (shots j)

theorem still_zero (shots : ℕ → Picture) (j : ℕ) : Still shots 0 j :=
  ⟨Nat.zero_le j, fun i hi => by rw [Nat.le_zero.1 hi, Nat.sub_zero]⟩

theorem still_succ_succ : Still shots (k + 1) (j + 1) ↔
    shots j = shots (j + 1) ∧ Still shots k j := by
  constructor
  · rintro ⟨hle, hsame⟩
    have hlast : shots j = shots (j + 1) := hsame 1 (by omega)
    refine ⟨hlast, by omega, fun i hi => ?_⟩
    have hi' := hsame (i + 1) (by omega)
    rwa [Nat.add_sub_add_right, ← hlast] at hi'
  · rintro ⟨hlast, hle, hsame⟩
    refine ⟨by omega, fun i hi => ?_⟩
    cases i with
    | zero => rfl
    | succ i =>
      rw [Nat.add_sub_add_right, ← hlast]
      exact hsame i (by omega)

/-- By induction on the number of pictures: another picture that differs starts the count anew. -/
theorem le_unchanged_iff (shots : ℕ → Picture) (k j : ℕ) :
    k ≤ (Stillness.after shots (j + 1)).unchanged ↔ Still shots k j := by
  induction j generalizing k with
  | zero =>
    have hfirst : (Stillness.after shots 1).unchanged = 0 := rfl
    rw [hfirst]
    constructor
    · intro hk
      rw [Nat.le_zero.1 hk]
      exact still_zero shots 0
    · exact fun h => h.1
  | succ j ih =>
    cases k with
    | zero => exact iff_of_true (Nat.zero_le _) (still_zero shots _)
    | succ k =>
      rw [still_succ_succ, ← ih]
      by_cases hsame : shots j = shots (j + 1)
      · have hcount : (Stillness.after shots (j + 2)).unchanged = (Stillness.after shots (j + 1)).unchanged + 1 :=
          if_pos (congrArg some hsame)
        rw [hcount, Nat.add_le_add_iff_right]
        exact (and_iff_right hsame).symm
      · have hcount : (Stillness.after shots (j + 2)).unchanged = 0 :=
          if_neg fun h => hsame (Option.some.inj h)
        rw [hcount]
        exact iff_of_false (Nat.not_succ_le_zero k) fun h => hsame h.1

theorem reached_iff {rounds : Int} (hrounds : 1 ≤ rounds) (shots : ℕ → Picture) (j : ℕ) :
    (Stillness.after shots (j + 1)).reached rounds = true ↔ Still shots rounds.toNat j := by
  rw [← le_unchanged_iff, Stillness.reached, Bool.and_eq_true, decide_eq_true_iff,
    decide_eq_true_iff]
  omega

/-! ## The first still window -/

/-- Where a search from `i` on for a still window ends that may take `left` more pictures. -/
def stops (shots : ℕ → Picture) (k i left : ℕ) : Set ℕ :=
  {j | i ≤ j ∧ (j = i + left ∨ Still shots k j)}

theorem isLeast_stops_zero (shots : ℕ → Picture) (k i : ℕ) : IsLeast (stops shots k i 0) i :=
  ⟨⟨le_rfl, .inl rfl⟩, fun _ h => h.1⟩

theorem isLeast_stops_still {i : ℕ} (h : Still shots k i) (left : ℕ) :
    IsLeast (stops shots k i left) i :=
  ⟨⟨le_rfl, .inr h⟩, fun _ h => h.1⟩

theorem isLeast_stops_succ {i left n : ℕ} (hmoves : ¬ Still shots k i)
    (h : IsLeast (stops shots k (i + 1) left) n) : IsLeast (stops shots k i (left + 1)) n := by
  obtain ⟨⟨hle, hstops⟩, hleast⟩ := h
  refine ⟨⟨by omega, hstops.imp_left fun heq => by omega⟩, fun j hj => ?_⟩
  obtain ⟨hij, hend | hstill⟩ := hj
  · exact hleast ⟨by omega, .inl (by omega)⟩
  · have hne : i ≠ j := fun heq => hmoves (heq ▸ hstill)
    exact hleast ⟨by omega, .inr hstill⟩

end

/-! ## One round and all rounds -/

/-- A number of milliseconds whose seconds a double can hold. -/
def Fits (ms : Int) : Prop := ∃ q, Activity.seconds ms = .finite q

/-- The fault that a question was answered with. -/
def fault? : Note Ask Ask.Reply → Option Fault
  | ⟨.page _ _, .error fault⟩ | ⟨.element _ _, .error fault⟩ | ⟨.sleep _, .error fault⟩ => some fault
  | _ => none

/-- The picture that a page gave of its viewport. -/
def shot? : Note Ask Ask.Reply → Option Picture
  | ⟨.page _ (.screenshot _), .ok picture⟩ => some picture
  | _ => none

/-- Whether a note is of a gesture that was completed. -/
def isGesture : Note Ask Ask.Reply → Bool
  | ⟨.page _ (.wheel _ _), .ok _⟩ => true
  | _ => false

/-- Whether a question asks for a picture of the viewport. -/
def looks : Ask → Bool
  | .page _ (.screenshot _) => true
  | _ => false

section

variable (page : PageRef) (o : ScrollOptions)

/-- The notes of a round that is gone through. -/
def fullRound (picture : Picture) : List (Note Ask Ask.Reply) :=
  [⟨.page page (.screenshot false), .ok picture⟩, ⟨.page page (.wheel 0 o.delta), .ok ()⟩,
    ⟨.sleep (Activity.seconds o.pauseMs), .ok ()⟩]

/-- What can be noted of a round and come of it. A pause too long to be slept fails at once, and
sleeping fails by a cancellation only. -/
inductive ScrollCourse (s : Stillness) :
    List (Note Ask Ask.Reply) → Result (Option Stillness) → Prop where
  | unseen (fault : Fault) :
    ScrollCourse s [⟨.page page (.screenshot false), .error fault⟩] (.error fault)
  | rested (picture : Picture) (hrests : (s.next picture).reached o.stableRounds = true) :
    ScrollCourse s [⟨.page page (.screenshot false), .ok picture⟩] (.ok none)
  | stuck (picture : Picture) (hmoves : (s.next picture).reached o.stableRounds = false)
    (fault : Fault) :
    ScrollCourse s [⟨.page page (.screenshot false), .ok picture⟩,
      ⟨.page page (.wheel 0 o.delta), .error fault⟩] (.error fault)
  | sleepless (picture : Picture) (hmoves : (s.next picture).reached o.stableRounds = false)
    (hlong : ¬ Fits o.pauseMs) {fault : Fault} (hfault : fault.isCancelled = false) :
    ScrollCourse s [⟨.page page (.screenshot false), .ok picture⟩,
      ⟨.page page (.wheel 0 o.delta), .ok ()⟩] (.error fault)
  | woken (picture : Picture) (hmoves : (s.next picture).reached o.stableRounds = false) :
    ScrollCourse s [⟨.page page (.screenshot false), .ok picture⟩,
      ⟨.page page (.wheel 0 o.delta), .ok ()⟩,
      ⟨.sleep (Activity.seconds o.pauseMs), .error .cancelled⟩] (.error .cancelled)
  | gone (picture : Picture) (hmoves : (s.next picture).reached o.stableRounds = false) :
    ScrollCourse s (fullRound page o picture) (.ok (some (s.next picture)))

/-- What can be noted of `left` rounds at most and come of them. -/
inductive ScrollsCourse : Stillness → (left : ℕ) → List (Note Ask Ask.Reply) → Result ℕ → Prop where
  | usedUp (s : Stillness) : ScrollsCourse s 0 [] (.ok 0)
  | rested {s : Stillness} (left : ℕ) {noted : List (Note Ask Ask.Reply)}
    (hround : ScrollCourse page o s noted (.ok none)) : ScrollsCourse s (left + 1) noted (.ok 0)
  | broken {s : Stillness} (left : ℕ) {noted : List (Note Ask Ask.Reply)} {fault : Fault}
    (hround : ScrollCourse page o s noted (.error fault)) (hfault : fault.isCancelled = false) :
    ScrollsCourse s (left + 1) noted (.ok 0)
  | cancelled {s : Stillness} (left : ℕ) {noted : List (Note Ask Ask.Reply)}
    (hround : ScrollCourse page o s noted (.error .cancelled)) :
    ScrollsCourse s (left + 1) noted (.error .cancelled)
  | gone {s : Stillness} {left : ℕ} (picture : Picture)
    (hmoves : (s.next picture).reached o.stableRounds = false)
    {rest : List (Note Ask Ask.Reply)} {result : Result ℕ}
    (hrest : ScrollsCourse (s.next picture) left rest result) :
    ScrollsCourse s (left + 1) (fullRound page o picture ++ rest) ((· + 1) <$> result)

end

/-! ## Runs -/

section

variable {W : Type} {env : Responses State Ask Ask.Reply W} {page : PageRef} {o : ScrollOptions}

/-- Every note counts. -/
abbrev everything (_ : Note Ask Ask.Reply) : Bool := true

/-- Sleeping ends in time or is cancelled. -/
def SleepsWell (env : Responses State Ask Ask.Reply W) : Prop :=
  ∀ seconds x, (env (.sleep seconds) x).1 = .ok () ∨ (env (.sleep seconds) x).1 = .error .cancelled

theorem reports_sleepMs (hslept : SleepsWell env) (ms : Int) :
    (Activity.sleepMs ms).Reports env everything fun noted result =>
      (noted = [⟨.sleep (Activity.seconds ms), result⟩] ∧
        (result = .ok () ∨ result = .error .cancelled)) ∨
      ∃ fault, fault.isCancelled = false ∧ ¬ Fits ms ∧ noted = [] ∧ result = .error fault := by
  unfold Activity.sleepMs
  split
  · next hlong =>
    refine Program.reports_fail (.inr ⟨.foreign _ _, rfl, ?_, rfl, rfl⟩)
    rintro ⟨q, hq⟩
    rw [hq] at hlong
    cases hlong
  · exact fun x => ⟨_, _, _, Program.noting_ask rfl rfl (Program.noting_ofResult _ _),
      .inl ⟨rfl, hslept _ x⟩⟩

theorem reports_scrollRound (hslept : SleepsWell env) (s : Stillness) :
    (scrollRound page o s).Reports env everything (ScrollCourse page o s) := by
  refine (reports_pageCall (fun _ _ => rfl) page (.screenshot false)).bind ?_ ?_
  · rintro _ fault rfl
    exact .unseen fault
  rintro _ picture rfl
  by_cases hrests : (s.next picture).reached o.stableRounds = true
  · simp only [hrests, ↓reduceIte]
    exact Program.reports_done (.rested picture hrests)
  have hmoves : (s.next picture).reached o.stableRounds = false := Bool.eq_false_iff.2 hrests
  simp only [hmoves, Bool.false_eq_true, ↓reduceIte]
  refine (reports_pageCall (fun _ _ => rfl) page (.wheel 0 o.delta)).bind ?_ ?_
  · rintro _ fault rfl
    exact .stuck picture hmoves fault
  rintro _ _ rfl
  refine (reports_sleepMs hslept o.pauseMs).bind ?_ ?_
  · rintro _ fault (⟨rfl, ⟨⟨⟩⟩ | ⟨⟨⟩⟩⟩ | ⟨_, hfault, hlong, rfl, ⟨⟩⟩)
    · exact .woken picture hmoves
    · exact .sleepless picture hmoves hlong hfault
  · rintro _ _ (⟨rfl, -⟩ | ⟨_, -, -, -, ⟨⟩⟩)
    exact Program.reports_done (.gone picture hmoves)

theorem eq_cancelled {fault : Fault} (h : fault.isCancelled = true) : fault = .cancelled := by
  cases fault <;> first | rfl | cases h

theorem reports_scrollRounds (hslept : SleepsWell env) (left rounds : ℕ) (s : Stillness) :
    (scrollRounds page o rounds s left).Reports env everything fun noted result =>
      ∃ gestures, ScrollsCourse page o s left noted gestures ∧
        result = (rounds + ·) <$> gestures := by
  induction left generalizing rounds s with
  | zero => exact Program.reports_done ⟨_, .usedUp s, rfl⟩
  | succ left ih =>
    -- A round whose fault is passed over ends the rounds as one that finds the page at rest.
    have hround : ((scrollRound page o s).rescue fun _ => pure none).Reports env everything
        fun noted result =>
          match result with
          | .ok (some next) => ScrollCourse page o s noted (.ok (some next))
          | .ok none => ScrollsCourse page o s (left + 1) noted (.ok 0)
          | .error fault => fault = .cancelled ∧ ScrollCourse page o s noted (.error .cancelled) := by
      refine (reports_scrollRound hslept s).rescueIf ?_ ?_ ?_
      · rintro noted (_ | next) hcourse
        · exact .rested left hcourse
        · exact hcourse
      · intro noted fault hcourse hraised
        obtain rfl := eq_cancelled (by simpa using hraised)
        exact ⟨rfl, hcourse⟩
      · intro noted fault hcourse hpassed
        refine Program.reports_done ?_
        rw [List.append_nil]
        exact .broken left hcourse (by simpa using hpassed)
    refine hround.bind ?_ ?_
    · rintro noted _ ⟨rfl, hcourse⟩
      exact ⟨_, .cancelled left hcourse, rfl⟩
    · rintro noted (_ | next) hcourse
      · refine Program.reports_done ⟨.ok 0, ?_, rfl⟩
        rwa [List.append_nil]
      · obtain _ | _ | _ | _ | _ | ⟨picture, hmoves⟩ := hcourse
        refine (ih (rounds + 1) _).mono ?_
        rintro rest _ ⟨gestures, hrest, rfl⟩
        refine ⟨_, .gone picture hmoves hrest, ?_⟩
        cases gestures with
        | error fault => rfl
        | ok n =>
          have hsum : rounds + 1 + n = rounds + (n + 1) := by omega
          exact congrArg Except.ok hsum

end

/-! ## What all courses have in common -/

section

variable {page : PageRef} {o : ScrollOptions} {s : Stillness} {left : ℕ}
  {noted : List (Note Ask Ask.Reply)} {result : Result ℕ}

theorem mem_dropLast_append {α : Type} {a : α} {front back : List α}
    (h : a ∈ (front ++ back).dropLast) : a ∈ front ∨ a ∈ back.dropLast := by
  cases back with
  | nil => exact .inl (List.mem_of_mem_dropLast (by simpa using h))
  | cons b back =>
    rw [List.dropLast_append_of_ne_nil (List.cons_ne_nil b back)] at h
    exact List.mem_append.1 h

theorem ScrollCourse.looks {result : Result (Option Stillness)}
    (h : ScrollCourse page o s noted result) : (noted.map (·.1)).countP looks = 1 := by
  cases h <;> rfl

theorem ScrollCourse.last {result : Result (Option Stillness)}
    (h : ScrollCourse page o s noted result) : ∀ note ∈ noted.dropLast, fault? note = none := by
  cases h <;> simp [fullRound, fault?]

theorem ScrollCourse.of_cancelled (h : ScrollCourse page o s noted (.error .cancelled)) :
    ∃ note ∈ noted, fault? note = some .cancelled := by
  cases h with
  | unseen => exact ⟨_, List.mem_singleton_self _, rfl⟩
  | stuck => exact ⟨_, List.mem_of_mem_getLast? rfl, rfl⟩
  | sleepless picture hmoves hlong hfault => cases hfault
  | woken => exact ⟨_, List.mem_of_mem_getLast? rfl, rfl⟩

/-- A round that fails without a cancellation fails in a call of the page, before its gesture is
completed, if the pause can be slept. -/
theorem ScrollCourse.of_broken {fault : Fault} (h : ScrollCourse page o s noted (.error fault))
    (hfault : fault.isCancelled = false) (hfits : Fits o.pauseMs) :
    noted.countP isGesture = 0 ∧ ∃ note ∈ noted, browses note = true ∧ fault? note = some fault := by
  cases h with
  | unseen => exact ⟨rfl, _, List.mem_singleton_self _, rfl, rfl⟩
  | stuck => exact ⟨rfl, _, List.mem_of_mem_getLast? rfl, rfl, rfl⟩
  | sleepless picture hmoves hlong => exact absurd hfits hlong
  | woken => cases hfault

theorem fault?_fullRound (picture : Picture) :
    ∀ note ∈ fullRound page o picture, fault? note = none := by
  simp [fullRound, fault?]

theorem ScrollsCourse.raised (h : ScrollsCourse page o s left noted result) {fault : Fault}
    (hresult : result = .error fault) :
    fault = .cancelled ∧ ∃ note ∈ noted, fault? note = some .cancelled := by
  induction h with
  | usedUp | rested | broken => cases hresult
  | cancelled left hround =>
    cases hresult
    exact ⟨rfl, hround.of_cancelled⟩
  | @gone s left picture hmoves rest result hrest ih =>
    cases result with
    | ok n => cases hresult
    | error fault' =>
      obtain ⟨hfault, note, hmem, hnote⟩ := ih hresult
      exact ⟨hfault, note, List.mem_append_right _ hmem, hnote⟩

theorem ScrollsCourse.looks_le (h : ScrollsCourse page o s left noted result) :
    (noted.map (·.1)).countP looks ≤ left := by
  induction h with
  | usedUp => exact le_rfl
  | rested left hround => exact hround.looks.trans_le (Nat.succ_pos left)
  | broken left hround => exact hround.looks.trans_le (Nat.succ_pos left)
  | cancelled left hround => exact hround.looks.trans_le (Nat.succ_pos left)
  | gone picture hmoves hrest ih =>
    rw [List.map_append, List.countP_append, Nat.add_comm]
    exact Nat.add_le_add_right ih 1

theorem ScrollsCourse.last (h : ScrollsCourse page o s left noted result) :
    ∀ note ∈ noted.dropLast, fault? note = none := by
  induction h with
  | usedUp => exact List.forall_mem_nil _
  | rested left hround => exact hround.last
  | broken left hround => exact hround.last
  | cancelled left hround => exact hround.last
  | gone picture hmoves hrest ih =>
    exact fun note hnote => (mem_dropLast_append hnote).elim (fault?_fullRound picture note) (ih note)

theorem ScrollsCourse.completed (h : ScrollsCourse page o s left noted result)
    (hfits : Fits o.pauseMs) {n : ℕ} (hresult : result = .ok n) : noted.countP isGesture = n := by
  induction h generalizing n with
  | usedUp =>
    cases hresult
    rfl
  | rested left hround =>
    cases hresult
    cases hround
    rfl
  | broken left hround hfault =>
    cases hresult
    exact (hround.of_broken hfault hfits).1
  | cancelled => cases hresult
  | @gone s left picture hmoves rest result hrest ih =>
    cases result with
    | error fault => cases hresult
    | ok m =>
      cases hresult
      rw [List.countP_append, ih rfl, Nat.add_comm]
      rfl

/-- By induction on the course: `i` pictures were taken before, and the loop remembers what they
amount to. -/
theorem ScrollsCourse.stops (h : ScrollsCourse page o s left noted result)
    (hstable : 1 ≤ o.stableRounds) (hfits : Fits o.pauseMs)
    (hcalm : ∀ note ∈ noted, browses note = true → fault? note = none) {shots : ℕ → Picture} {i n : ℕ}
    (hs : s = .after shots i)
    (hshots : ∀ j picture, (noted.filterMap shot?)[j]? = some picture → shots (i + j) = picture)
    (hresult : result = .ok n) :
    IsLeast (stops shots o.stableRounds.toNat i left) (i + n) := by
  induction h generalizing i n with
  | usedUp =>
    cases hresult
    exact isLeast_stops_zero shots _ i
  | rested left hround =>
    cases hresult
    obtain _ | ⟨picture, hrests⟩ := hround
    obtain rfl := hshots 0 picture rfl
    subst hs
    exact isLeast_stops_still ((reached_iff hstable shots i).1 hrests) _
  | broken left hround hfault =>
    obtain ⟨-, note, hmem, hbrowses, hnote⟩ := hround.of_broken hfault hfits
    rw [hcalm note hmem hbrowses] at hnote
    cases hnote
  | cancelled => cases hresult
  | @gone s left picture hmoves rest result hrest ih =>
    cases result with
    | error fault => cases hresult
    | ok m =>
      cases hresult
      obtain rfl := hshots 0 picture rfl
      subst hs
      have hmore : ¬ Still shots o.stableRounds.toNat i := fun hstill => by
        have hrests := (reached_iff hstable shots i).2 hstill
        rw [Nat.add_zero] at hmoves
        rw [Stillness.after, hmoves] at hrests
        cases hrests
      have hnext := ih (fun note hnote => hcalm note (List.mem_append_right _ hnote)) (i := i + 1)
        rfl (fun j picture hj => ?_) rfl
      · rw [Nat.add_assoc, Nat.add_comm 1] at hnext
        exact isLeast_stops_succ hmore hnext
      · rw [Nat.add_assoc, Nat.add_comm 1]
        exact hshots (j + 1) picture hj

end

/-! ## Parking the mouse -/

/-- A call of a page or an element that neither takes a picture of the viewport nor scrolls. -/
structure Aside (note : Note Ask Ask.Reply) : Prop where
  browses : browses note = true
  looks : looks note.1 = false
  isGesture : isGesture note = false

/-- What can be noted of such calls and come of them: the first one that fails is the last. -/
inductive Asides {α : Type} : List (Note Ask Ask.Reply) → Result α → Prop where
  | fine {noted : List (Note Ask Ask.Reply)} (haside : ∀ note ∈ noted, Aside note)
    (hcalm : ∀ note ∈ noted, fault? note = none) (value : α) : Asides noted (.ok value)
  | failed {noted : List (Note Ask Ask.Reply)} {last : Note Ask Ask.Reply} {fault : Fault}
    (haside : ∀ note ∈ noted, Aside note) (hcalm : ∀ note ∈ noted, fault? note = none)
    (hlast : Aside last) (hfault : fault? last = some fault) :
    Asides (noted ++ [last]) (.error fault)

section

variable {W α β : Type} {env : Responses State Ask Ask.Reply W} {page : PageRef}
  {noted rest : List (Note Ask Ask.Reply)}

theorem Asides.error {fault : Fault} (h : Asides noted (.error fault : Result α)) :
    Asides noted (.error fault : Result β) := by
  cases h with
  | failed haside hcalm hlast hfault => exact .failed haside hcalm hlast hfault

theorem Asides.append {value : α} {result : Result β} (h : Asides noted (.ok value))
    (hrest : Asides rest result) : Asides (noted ++ rest) result := by
  obtain ⟨haside, hcalm, _⟩ := h
  cases hrest with
  | fine haside' hcalm' value =>
    exact .fine (List.forall_mem_append.2 ⟨haside, haside'⟩)
      (List.forall_mem_append.2 ⟨hcalm, hcalm'⟩) value
  | failed haside' hcalm' hlast hfault =>
    rw [← List.append_assoc]
    exact .failed (List.forall_mem_append.2 ⟨haside, haside'⟩)
      (List.forall_mem_append.2 ⟨hcalm, hcalm'⟩) hlast hfault

theorem reports_asides_bind {p : Activity α} {f : α → Activity β}
    (hp : p.Reports env everything Asides) (hf : ∀ value, (f value).Reports env everything Asides) :
    (p.bind f).Reports env everything Asides :=
  hp.bind (fun _ _ h => h.error) fun _ value h => (hf value).mono fun _ _ hrest => h.append hrest

theorem reports_asides_done (value : α) :
    (.done value : Activity α).Reports env everything Asides :=
  Program.reports_done (.fine (List.forall_mem_nil _) (List.forall_mem_nil _) value)

theorem reports_asides_page (page : PageRef) (c : PageCall)
    (haside : ∀ answer, Aside ⟨.page page c, answer⟩) :
    (page.call c).Reports env everything Asides := by
  refine (reports_pageCall (fun _ _ => rfl) page c).mono ?_
  rintro _ (fault | value) rfl
  · exact .failed (List.forall_mem_nil _) (List.forall_mem_nil _) (haside _) rfl
  · exact .fine (by simpa using haside _) (by simp [fault?]) value

theorem reports_asides_element (element : ElementRef) (c : ElementCall) :
    (element.call c).Reports env everything Asides := by
  refine (reports_elementCall (fun _ _ => rfl) element c).mono ?_
  rintro _ (fault | value) rfl
  · exact .failed (List.forall_mem_nil _) (List.forall_mem_nil _) ⟨rfl, rfl, rfl⟩ rfl
  · exact .fine (by simpa using ⟨rfl, rfl, rfl⟩) (by simp [fault?]) value

theorem reports_hover (page : PageRef) (selector : String) :
    (hover page selector).Reports env everything Asides := by
  refine reports_asides_bind (reports_asides_page page _ fun answer =>
    ⟨rfl, rfl, by cases answer <;> rfl⟩) fun found => ?_
  cases found with
  | none => exact reports_asides_done ()
  | some element =>
    refine reports_asides_bind (reports_asides_element element _) fun place => ?_
    cases place with
    | none => exact reports_asides_done ()
    | some box =>
      exact reports_asides_page page (.moveMouse _ _) fun answer =>
        ⟨rfl, rfl, by cases answer <;> rfl⟩

end

/-! ## The whole way -/

/-- How scrolling ends: with an answer, unless it was cancelled, after as many pictures as rounds are
allowed at most and after the first call that fails. Its answer is the number of gestures that were
completed, and where the page refused nothing, the end of the first still window or, if that is
smaller, the number of rounds. -/
structure ScrollEnds (o : ScrollOptions) (noted : List (Note Ask Ask.Reply)) (result : Result ℕ) :
    Prop where
  raised {fault : Fault} : result = .error fault →
    fault = .cancelled ∧ ∃ note ∈ noted, fault? note = some .cancelled
  looks_le : (noted.map (·.1)).countP looks ≤ o.maxRounds.toNat
  last : ∀ note ∈ noted.dropLast, fault? note = none
  completed {n : ℕ} : Fits o.pauseMs → result = .ok n → n = noted.countP isGesture
  still {n : ℕ} {shots : ℕ → Picture} : Fits o.pauseMs →
    (∀ note ∈ noted, browses note = true → fault? note = none) →
    (∀ j picture, (noted.filterMap shot?)[j]? = some picture → shots j = picture) → result = .ok n →
    IsLeast {j | j = o.maxRounds.toNat ∨ Still shots o.stableRounds.toNat j} n

variable {W : Type}

section

variable {o : ScrollOptions} {page : PageRef} {noted rest : List (Note Ask Ask.Reply)}
  {result : Result ℕ}

theorem ScrollsCourse.ends (h : ScrollsCourse page o ⟨0, none⟩ o.maxRounds.toNat noted result)
    (hstable : 1 ≤ o.stableRounds) : ScrollEnds o noted result where
  raised := h.raised
  looks_le := h.looks_le
  last := h.last
  completed hfits hresult := (h.completed hfits hresult).symm
  still {n shots} hfits hcalm hshots hresult := by
    have hleast : IsLeast (Capture.stops shots o.stableRounds.toNat 0 o.maxRounds.toNat) (0 + n) :=
      h.stops hstable hfits hcalm rfl
        (fun j picture hj => by rw [Nat.zero_add]; exact hshots j picture hj) hresult
    simpa [Capture.stops] using hleast

theorem Aside.shot? {note : Note Ask Ask.Reply} (h : Aside note) : shot? note = none := by
  unfold Capture.shot?
  split
  · cases h.looks
  · rfl

/-- Calls beside the rounds that are answered change nothing of how the rounds end. -/
theorem ScrollEnds.after_asides (haside : ∀ note ∈ noted, Aside note)
    (hcalm : ∀ note ∈ noted, fault? note = none) (h : ScrollEnds o rest result) :
    ScrollEnds o (noted ++ rest) result := by
  have hlooks : (noted.map (·.1)).countP looks = 0 := by
    simpa using fun note hnote => (haside note hnote).looks
  have hgestures : noted.countP isGesture = 0 := by
    simpa using fun note hnote => (haside note hnote).isGesture
  have hshots : noted.filterMap shot? = [] :=
    List.filterMap_eq_nil_iff.2 fun note hnote => (haside note hnote).shot?
  constructor
  case raised =>
    intro fault hresult
    obtain ⟨hfault, note, hmem, hnote⟩ := h.raised hresult
    exact ⟨hfault, note, List.mem_append_right _ hmem, hnote⟩
  case looks_le =>
    rw [List.map_append, List.countP_append, hlooks, Nat.zero_add]
    exact h.looks_le
  case last =>
    exact fun note hnote => (mem_dropLast_append hnote).elim (hcalm note) (h.last note)
  case completed =>
    intro n hfits hresult
    rw [List.countP_append, hgestures, Nat.zero_add]
    exact h.completed hfits hresult
  case still =>
    intro n shots hfits hfine hagree hresult
    rw [List.filterMap_append, hshots, List.nil_append] at hagree
    exact h.still hfits (fun note hnote => hfine note (List.mem_append_right _ hnote)) hagree hresult

theorem scrollEnds_failed {last : Note Ask Ask.Reply} {fault : Fault} (hlast : Aside last)
    (hfault : fault? last = some fault)
    (hresult : result = .ok 0 ∨ result = .error .cancelled ∧ fault = .cancelled) :
    ScrollEnds o [last] result := by
  constructor
  case raised =>
    rintro _ rfl
    obtain hok | ⟨hcancelled, rfl⟩ := hresult
    · cases hok
    · cases hcancelled
      exact ⟨rfl, last, List.mem_singleton_self last, hfault⟩
  case looks_le => simp [hlast.looks]
  case last => exact List.forall_mem_nil _
  case completed =>
    rintro n - rfl
    obtain hok | ⟨hcancelled, -⟩ := hresult
    · cases hok
      simp [hlast.isGesture]
    · cases hcancelled
  case still =>
    intro n shots _ hfine
    rw [hfine last (List.mem_singleton_self last) hlast.browses] at hfault
    cases hfault

end

/-- What can be noted of parking the mouse and come of it. A fault that is passed over ends the
scrolling before its first round. -/
inductive ParkCourse (o : ScrollOptions) : List (Note Ask Ask.Reply) → Result Bool → Prop where
  | parked {noted : List (Note Ask Ask.Reply)} (haside : ∀ note ∈ noted, Aside note)
    (hcalm : ∀ note ∈ noted, fault? note = none) : ParkCourse o noted (.ok true)
  | failed {noted : List (Note Ask Ask.Reply)} (hends : ScrollEnds o noted (.ok 0)) :
    ParkCourse o noted (.ok false)
  | cancelled {noted : List (Note Ask Ask.Reply)}
    (hends : ScrollEnds o noted (.error .cancelled)) : ParkCourse o noted (.error .cancelled)

theorem reports_park (env : Responses State Ask Ask.Reply W) (page : PageRef) (selector : String)
    (o : ScrollOptions) :
    Program.Reports env everything (ParkCourse o) (Program.rescue (do
      if !selector.isEmpty then hover page selector
      pure true) fun _ => pure false) := by
  have hhover : Program.Reports env everything
      (fun noted result => Asides noted result ∧ result ≠ .ok false) (do
      if !selector.isEmpty then hover page selector
      pure true) := by
    have hdone : (Program.done true : Activity Bool).Reports env everything
        fun noted result => Asides noted result ∧ result ≠ .ok false :=
      Program.reports_done
        ⟨.fine (List.forall_mem_nil _) (List.forall_mem_nil _) true, nofun⟩
    split
    · refine (reports_hover page selector).bind (fun _ _ h => ⟨h.error, nofun⟩) ?_
      exact fun _ _ h => hdone.mono fun _ _ hrest => ⟨h.append hrest.1, hrest.2⟩
    · exact hdone
  refine hhover.rescueIf ?_ ?_ ?_
  · rintro noted value ⟨hasides, htrue⟩
    obtain ⟨haside, hcalm, _ | _⟩ := hasides
    · exact absurd rfl htrue
    · exact .parked haside hcalm
  · rintro noted fault ⟨hasides, -⟩ hraised
    obtain rfl := eq_cancelled (by simpa using hraised)
    obtain _ | ⟨haside, hcalm, hlast, hfault⟩ := hasides
    exact .cancelled ((scrollEnds_failed hlast hfault (.inr ⟨rfl, rfl⟩)).after_asides haside hcalm)
  · rintro noted fault ⟨hasides, -⟩ -
    obtain _ | ⟨haside, hcalm, hlast, hfault⟩ := hasides
    refine Program.reports_done ?_
    rw [List.append_nil]
    exact .failed ((scrollEnds_failed hlast hfault (.inl rfl)).after_asides haside hcalm)

theorem scrollToBottom_endsStill (env : Responses State Ask Ask.Reply W) (hslept : SleepsWell env)
    (page : PageRef) (selector : String) (o : ScrollOptions) (hstable : 1 ≤ o.stableRounds) :
    (scrollToBottom page selector o).Reports env everything (ScrollEnds o) := by
  refine (reports_park env page selector o).bind ?_ ?_
  · rintro noted _ (_ | _ | hends)
    exact hends
  · rintro noted _ (⟨haside, hcalm⟩ | hends)
    · refine (reports_scrollRounds hslept _ 0 _).mono ?_
      rintro rest _ ⟨gestures, hcourse, rfl⟩
      have hsame : (0 + ·) <$> gestures = gestures := by
        cases gestures <;> simp
      rw [hsame]
      exact (hcourse.ends hstable).after_asides haside hcalm
    · refine Program.reports_done ?_
      rwa [List.append_nil]

/-- A page that keeps still from its third picture on. -/
def settling : Responses State Ask Ask.Reply ℕ
  | .page _ (.screenshot _), (n, s) => (.ok (.raw (["top", "middle"].getD n "bottom")), (n + 1, s))
  | .page _ (.wheel _ _), x => (.ok (), x)
  | q, x => (q.refused, x)

theorem sleepsWell_settling : SleepsWell settling := fun _ _ => .inl rfl

theorem scrollToBottom_endsStill_settling :
    SleepsWell settling ∧ 1 ≤ ({} : ScrollOptions).stableRounds ∧ ∃ noted y,
      (scrollToBottom ⟨0⟩ "" {}).Noting settling everything (0, {}) noted (.ok 5) y ∧
      ScrollEnds {} noted (.ok 5) := by
  have hrun : ((scrollToBottom ⟨0⟩ "" {}).run settling (0, {})).1 = .ok 5 := by
    decide +kernel
  obtain ⟨noted, result, y, hnoting, hends⟩ :=
    scrollToBottom_endsStill settling sleepsWell_settling ⟨0⟩ "" {} (by decide) (0, {})
  rw [hnoting.run] at hrun
  subst hrun
  exact ⟨sleepsWell_settling, by decide, noted, y, hnoting, hends⟩

/-- A page that keeps still from the beginning. -/
def steady : Responses State Ask Ask.Reply Unit
  | .page _ (.screenshot _), x => (.ok (.raw "page"), x)
  | .page _ (.wheel _ _), x => (.ok (), x)
  | q, x => (q.refused, x)

theorem sleepMs_huge : Activity.sleepMs (10 ^ 400) =
    .fail (.foreign "OverflowError" "integer division result too large for a float") := by
  have hseconds : Activity.seconds (10 ^ 400) = .infinite false := by decide +kernel
  rw [Activity.sleepMs, hseconds]

/-- A pause that no number of seconds can hold is refused after the first gesture, and that gesture
is not counted. Two rounds are allowed, too few for a still window. -/
theorem scrollToBottom_sleepless : ∃ noted y,
    (scrollToBottom ⟨0⟩ "" { pauseMs := 10 ^ 400, maxRounds := 2 }).Noting steady everything ((), {})
      noted (.ok 0) y ∧
    (∀ note ∈ noted, fault? note = none) ∧ noted.countP isGesture = 1 ∧
    ∀ shots, IsLeast {j | j = 2 ∨ Still shots 3 j} 2 := by
  have hround (s : Stillness) : scrollRound ⟨0⟩ { pauseMs := 10 ^ 400, maxRounds := 2 } s = (do
      let picture ← PageRef.call ⟨0⟩ (.screenshot false)
      let s := s.next picture
      if s.reached 3 then return none
      PageRef.call ⟨0⟩ (.wheel 0 800)
      .fail (.foreign "OverflowError" "integer division result too large for a float")) := by
    simp only [scrollRound, sleepMs_huge]
    rfl
  have hscroll : scrollToBottom ⟨0⟩ "" { pauseMs := 10 ^ 400, maxRounds := 2 } =
      scrollRounds ⟨0⟩ { pauseMs := 10 ^ 400, maxRounds := 2 } 0 ⟨0, none⟩ 2 := rfl
  rw [hscroll, scrollRounds, hround]
  refine ⟨[⟨.page ⟨0⟩ (.screenshot false), .ok (.raw "page")⟩, ⟨.page ⟨0⟩ (.wheel 0 800), .ok ()⟩],
    ((), {}), ⟨rfl, rfl⟩, ?_, rfl, fun shots => ⟨.inl rfl, ?_⟩⟩
  · simp [fault?]
  · rintro j (rfl | ⟨hle, -⟩)
    · exact le_rfl
    · omega

end Pageflow.Capture
