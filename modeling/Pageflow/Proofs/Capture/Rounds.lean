import Pageflow.Proofs.Capture.Region
import Pageflow.Proofs.Network.Idle

/-! Long captures of any page. A tile costs a round of four questions, and a capture goes from round
to round until one does not move the element, the tiles allowed are taken, or a question fails. The
page may answer as it likes: what it tells of its content and of its position need not agree with
anything it told before. -/
namespace Pageflow.Capture
open Browser

def overflows (m : Metrics) : Bool :=
  !(Measures.ofMetrics m).content.le (Measures.ofMetrics m).viewport

/-- The note of metrics that are read. -/
def metered (page : PageRef) (selector : String) (m : Metrics) : Note Ask Ask.Reply :=
  ⟨.page page (.measure selector), .ok (some m)⟩

/-- What a page answers while a tile is captured. -/
@[ext] structure Round where
  picture : Picture
  before : Metrics
  after : Metrics

def Round.moved (r : Round) : Bool :=
  !(Measures.ofMetrics r.after).top.eq (Measures.ofMetrics r.before).top

/-- Rounds after which no other is begun: each but the last moved the element, and the last did not
unless it was the last one allowed. -/
structure Stopped (tiles : Nat) (rounds : List Round) : Prop where
  begun : rounds ≠ []
  length_le : rounds.length ≤ tiles
  moved : ∀ r ∈ rounds.dropLast, r.moved = true
  rested : rounds.length < tiles → ∀ r ∈ rounds.getLast?, r.moved = false

theorem stopped_singleton {tiles : Nat} (r : Round) (htiles : 1 ≤ tiles)
    (h : 1 < tiles → r.moved = false) : Stopped tiles [r] where
  begun := List.cons_ne_nil _ _
  length_le := htiles
  moved := by simp
  rested := by simpa using h

theorem Stopped.cons {tiles : Nat} {rounds : List Round} (h : Stopped tiles rounds) {r : Round}
    (hr : r.moved = true) : Stopped (tiles + 1) (r :: rounds) where
  begun := List.cons_ne_nil _ _
  length_le := Nat.succ_le_succ h.length_le
  moved := by
    rw [List.dropLast_cons_of_ne_nil h.begun]
    exact List.forall_mem_cons.mpr ⟨hr, h.moved⟩
  rested hlt := by
    rw [List.getLast?_cons_of_ne_nil h.begun]
    exact h.rested (Nat.lt_of_succ_lt_succ hlt)

section

variable (page : PageRef) (o : LongOptions) (selector : String) (element : ElementRef)

def Round.questions : List Ask :=
  [.element element .screenshot, .page page (.measure selector),
    .page page (.advance selector o.overlap), .page page (.measure selector)]

def Round.notes (r : Round) : List (Note Ask Ask.Reply) :=
  [⟨.element element .screenshot, .ok r.picture⟩, metered page selector r.before,
    ⟨.page page (.advance selector o.overlap), .ok ()⟩, metered page selector r.after]

/-- The notes of a round that was begun and is broken off. -/
def BrokenOff (noted : List (Note Ask Ask.Reply)) : Prop :=
  ∃ more < 4, noted.map (·.1) = (Round.questions page o selector element).take (more + 1)

/-- The notes up to the first metrics. -/
def opening (first : Metrics) : List (Note Ask Ask.Reply) :=
  [⟨.page page (.waitFor selector o.timeoutMs), .ok (some element)⟩, metered page selector first]

/-- What can be noted of a tile and come of it. -/
inductive TileCourse : List (Note Ask Ask.Reply) → Result (Picture × Bool) → Prop where
  | round (r : Round) : TileCourse (r.notes page o selector element) (.ok (r.picture, r.moved))
  | broken {noted : List (Note Ask Ask.Reply)} (fault : Fault)
    (hbroken : BrokenOff page o selector element noted) : TileCourse noted (.error fault)

/-- What can be noted of `tiles` tiles at most and come of them. -/
inductive TilesCourse (tiles : Nat) :
    List (Note Ask Ask.Reply) → Result (List Picture) → Prop where
  | stopped (rounds : List Round) (hstopped : Stopped tiles rounds) :
    TilesCourse tiles (rounds.flatMap (Round.notes page o selector element))
      (.ok (rounds.map Round.picture))
  | broken (rounds : List Round) (noted : List (Note Ask Ask.Reply)) (fault : Fault)
    (hlength : rounds.length < tiles) (hmoved : ∀ r ∈ rounds, r.moved = true)
    (hbroken : BrokenOff page o selector element noted) :
    TilesCourse tiles (rounds.flatMap (Round.notes page o selector element) ++ noted)
      (.error fault)

/-- What can be noted of a capture piece by piece and come of it: a round is broken off, or the
rounds stopped and the last metrics are not there, or they are and the pictures are stitched. -/
inductive LongCourse (tiles : Nat) : List (Note Ask Ask.Reply) → Result Picture → Prop where
  | broken {noted : List (Note Ask Ask.Reply)} (fault : Fault)
    (htiles : TilesCourse page o selector element tiles noted (.error fault)) :
    LongCourse tiles noted (.error fault)
  | unfinished (rounds : List Round) (hstopped : Stopped tiles rounds)
    (reply : Result (Option Metrics)) (fault : Fault) (hunmeasured : ∀ m, reply ≠ .ok (some m)) :
    LongCourse tiles
      (rounds.flatMap (Round.notes page o selector element) ++
        [⟨.page page (.measure selector), reply⟩]) (.error fault)
  | stitched (rounds : List Round) (hstopped : Stopped tiles rounds) (last : Metrics) :
    LongCourse tiles
      (rounds.flatMap (Round.notes page o selector element) ++ [metered page selector last])
      (.image <$> stitch (rounds.map Round.picture)
        ⟨(Measures.ofMetrics last).content, (Measures.ofMetrics last).viewport,
          Double.ofInt o.overlap, (Measures.ofMetrics last).ratio⟩)

end

/-- What can be noted of a long capture and come of it: the element does not show up, it cannot be
measured, it does not overflow, or it is captured piece by piece. -/
inductive Course (page : PageRef) (o : LongOptions) (selector : String) (tiles : Nat) :
    List (Note Ask Ask.Reply) → Result Picture → Prop where
  | unseen (reply : Result (Option ElementRef)) (fault : Fault)
    (hunseen : ∀ element, reply ≠ .ok (some element)) :
    Course page o selector tiles [⟨.page page (.waitFor selector o.timeoutMs), reply⟩]
      (.error fault)
  | unmeasured (element : ElementRef) (reply : Result (Option Metrics)) (fault : Fault)
    (hunmeasured : ∀ m, reply ≠ .ok (some m)) :
    Course page o selector tiles
      [⟨.page page (.waitFor selector o.timeoutMs), .ok (some element)⟩,
        ⟨.page page (.measure selector), reply⟩] (.error fault)
  | direct (element : ElementRef) (first : Metrics) (hfits : overflows first = false)
    (reply : Result Picture) :
    Course page o selector tiles
      (opening page o selector element first ++ [⟨.element element .screenshot, reply⟩]) reply
  | long (element : ElementRef) (first : Metrics) (hover : overflows first = true)
    {noted : List (Note Ask Ask.Reply)} {result : Result Picture}
    (hlong : LongCourse page o selector element tiles noted result) :
    Course page o selector tiles (opening page o selector element first ++ noted) result

/-! ## Runs -/

section

variable {W : Type} {env : Responses State Ask Ask.Reply W} {page : PageRef} {o : LongOptions}
  {selector : String} {element : ElementRef}

section

variable {matter : Note Ask Ask.Reply → Bool}
  (hmatter : ∀ note, browses note = true → matter note = true)
include hmatter

theorem reports_pageCall (page : PageRef) (c : PageCall) :
    (page.call c).Reports env matter fun noted result => noted = [⟨.page page c, result⟩] :=
  fun _ => ⟨_, _, _, Program.noting_ask rfl (hmatter _ rfl) (Program.noting_ofResult _ _), rfl⟩

theorem reports_elementCall (element : ElementRef) (c : ElementCall) :
    (element.call c).Reports env matter fun noted result =>
      noted = [⟨.element element c, result⟩] :=
  fun _ => ⟨_, _, _, Program.noting_ask rfl (hmatter _ rfl) (Program.noting_ofResult _ _), rfl⟩

end

theorem reports_waitVisible (page : PageRef) (selector : String) (ms : Int) :
    (page.waitVisible selector ms).Reports env browses fun noted result =>
      ∃ reply, noted = [⟨.page page (.waitFor selector ms), reply⟩] ∧
        ∀ element, result = .ok element ↔ reply = .ok (some element) := by
  refine (reports_pageCall (fun _ => id) page _).attempt_bind ?_
  rintro _ reply rfl
  split
  · exact Program.reports_done ⟨_, rfl, by simp⟩
  · exact Program.reports_fail ⟨_, rfl, by simp⟩
  · exact Program.reports_fail ⟨_, rfl, by simp⟩
  · exact Program.reports_fail ⟨_, rfl, by simp⟩

theorem reports_measure (page : PageRef) (selector : String) :
    (measure page selector).Reports env browses fun noted result =>
      (∃ m, noted = [metered page selector m] ∧ result = .ok (.ofMetrics m)) ∨
      ∃ reply fault, (∀ m, reply ≠ .ok (some m)) ∧
        noted = [⟨.page page (.measure selector), reply⟩] ∧ result = .error fault := by
  refine (reports_pageCall (fun _ => id) page _).bind ?_ ?_
  · rintro _ fault rfl
    exact .inr ⟨_, fault, by simp, rfl, rfl⟩
  · rintro _ (_ | m) rfl
    · exact Program.reports_fail (.inr ⟨_, _, by simp, rfl, rfl⟩)
    · exact Program.reports_done (.inl ⟨m, rfl, rfl⟩)

/-- While a capture waits for a quiet network it asks the page nothing. -/
theorem reports_settle (page : PageRef) (o : LongOptions) :
    (settle page o).Reports env browses fun noted _ => noted = [] := by
  have hwait : (Network.waitForIdle page
      { idleMs := o.idleMs, timeoutMs := o.idleTimeoutMs }).Confined
      (fun q => ∀ reply, browses ⟨q, reply⟩ = false) fun _ _ => False :=
    Network.confined_waitForIdle (fun _ => rfl) (fun _ _ => rfl) page _
  have hsettle : (settle page o).Confined (fun q => ∀ reply, browses ⟨q, reply⟩ = false)
      fun _ _ => False :=
    Program.confined_ite (hwait.rescueIf fun _ => Program.confined_done ())
      (Program.confined_done ())
  exact hsettle.reports fun note hnote => hnote note.2

theorem reports_captureTile :
    (captureTile page o element selector).Reports env browses
      (TileCourse page o selector element) := by
  -- Each question breaks the round off where it fails; the notes are those up to there.
  refine (reports_elementCall (fun _ => id) element .screenshot).bind ?_ ?_
  · rintro _ fault rfl
    exact .broken fault ⟨0, by decide, rfl⟩
  rintro _ picture rfl
  refine (reports_measure page selector).bind ?_ ?_
  · rintro _ fault (⟨_, -, ⟨⟩⟩ | ⟨reply, _, -, rfl, -⟩)
    exact .broken fault ⟨1, by decide, rfl⟩
  rintro _ _ (⟨before, rfl, ⟨⟩⟩ | ⟨_, _, -, -, ⟨⟩⟩)
  refine (reports_pageCall (fun _ => id) page (.advance selector o.overlap)).bind ?_ ?_
  · rintro _ fault rfl
    exact .broken fault ⟨2, by decide, rfl⟩
  rintro _ _ rfl
  refine (reports_settle page o).bind ?_ ?_
  · rintro _ fault rfl
    exact .broken fault ⟨2, by decide, rfl⟩
  rintro _ _ rfl
  refine (reports_measure page selector).bind ?_ ?_
  · rintro _ fault (⟨_, -, ⟨⟩⟩ | ⟨reply, _, -, rfl, -⟩)
    exact .broken fault ⟨3, by decide, rfl⟩
  rintro _ _ (⟨after, rfl, ⟨⟩⟩ | ⟨_, _, -, -, ⟨⟩⟩)
  exact Program.reports_done (.round ⟨picture, before, after⟩)

/-- The rounds of the loop: one that moves the element is followed by those that are left. -/
theorem reports_captureTiles (left : Nat) :
    (captureTiles page o element selector left).Reports env browses
      (TilesCourse page o selector element (left + 1)) := by
  induction left with
  | zero =>
    refine reports_captureTile.bind ?_ ?_
    · rintro noted fault (_ | ⟨_, hbroken⟩)
      exact .broken [] noted fault Nat.one_pos (List.forall_mem_nil _) hbroken
    · rintro _ _ (r | _)
      exact Program.reports_done
        (.stopped [r] (stopped_singleton r le_rfl fun h => absurd h (lt_irrefl 1)))
  | succ left ih =>
    refine reports_captureTile.bind ?_ ?_
    · rintro noted fault (_ | ⟨_, hbroken⟩)
      exact .broken [] noted fault (Nat.succ_pos _) (List.forall_mem_nil _) hbroken
    rintro _ _ (r | _)
    by_cases hmoved : r.moved = true
    -- The rounds that are left stop or break off as they would alone; this one comes before them.
    · simp only [hmoved, ↓reduceIte]
      refine ih.bind ?_ ?_
      · rintro _ fault (_ | ⟨rounds, noted, _, hlength, hrounds, hbroken⟩)
        rw [← List.append_assoc, ← List.flatMap_cons]
        exact .broken (r :: rounds) noted fault (Nat.succ_lt_succ hlength)
          (List.forall_mem_cons.mpr ⟨hmoved, hrounds⟩) hbroken
      · rintro _ _ (⟨rounds, hstopped⟩ | _)
        refine Program.reports_done ?_
        rw [List.append_nil, ← List.flatMap_cons]
        exact .stopped (r :: rounds) (hstopped.cons hmoved)
    · simp only [hmoved, Bool.false_eq_true, ↓reduceIte]
      exact Program.reports_done (.stopped [r]
        (stopped_singleton r (Nat.succ_pos _) fun _ => Bool.eq_false_iff.mpr hmoved))

theorem reports_captureLong :
    (captureLong page o selector).Reports env browses
      (Course page o selector ((o.maxTiles - 1).toNat + 1)) := by
  refine (reports_waitVisible page selector o.timeoutMs).bind ?_ ?_
  · rintro _ fault ⟨reply, rfl, hreply⟩
    exact .unseen reply fault fun element h => nomatch (hreply element).mpr h
  rintro _ element ⟨reply, rfl, hreply⟩
  obtain rfl := (hreply element).mp rfl
  refine (reports_measure page selector).bind ?_ ?_
  · rintro _ fault (⟨_, -, ⟨⟩⟩ | ⟨reply, _, hunmeasured, rfl, -⟩)
    exact .unmeasured element reply fault hunmeasured
  rintro _ _ (⟨first, rfl, ⟨⟩⟩ | ⟨_, _, -, -, ⟨⟩⟩)
  by_cases hfits : (Measures.ofMetrics first).content.le (Measures.ofMetrics first).viewport = true
  · simp only [hfits, ↓reduceIte]
    refine (reports_elementCall (fun _ => id) element .screenshot).mono ?_
    rintro _ reply rfl
    exact .direct element first (by simp [overflows, hfits]) reply
  have hover : overflows first = true := by simpa [overflows] using hfits
  simp only [hfits, Bool.false_eq_true, ↓reduceIte]
  refine (reports_captureTiles _).bind ?_ ?_
  · rintro noted fault htiles
    exact .long element first hover (.broken fault htiles)
  rintro _ _ (⟨rounds, hstopped⟩ | _)
  refine (reports_measure page selector).bind ?_ ?_
  · rintro _ fault (⟨_, -, ⟨⟩⟩ | ⟨reply, _, hunmeasured, rfl, -⟩)
    exact .long element first hover (.unfinished rounds hstopped reply fault hunmeasured)
  rintro _ _ (⟨last, rfl, ⟨⟩⟩ | ⟨_, _, -, -, ⟨⟩⟩)
  have hstitched := @LongCourse.stitched page o selector element _ rounds hstopped last
  generalize stitch _ _ = image at hstitched ⊢
  cases image with
  | error fault => exact Program.reports_fail (.long element first hover hstitched)
  | ok image => exact Program.reports_done (.long element first hover hstitched)

end

end Pageflow.Capture
