import Pageflow.Capture.LongCapture
import Pageflow.Proofs.Activity.Noting
import Pageflow.Proofs.Number.Double

/-! A long capture of an element that stands still. Nothing about the page is
fixed but what this element answers: its measures, its picture at each position,
and how far a scroll takes it. -/
namespace Pageflow.Capture
open Browser

/-- A scrollable element whose content does not change: heights in CSS pixels,
`ratio` image pixels to each, and the rows of image pixels of its content. A
double holds the halves between whole heights up to 2 ^ 52; browsers count
heights in 32 bits. -/
structure Region where
  content : Nat
  client : Nat
  ratio : Nat
  width : Nat
  row : Nat → List Pixel
  row_length : ∀ i, (row i).length = width
  ratio_pos : 0 < ratio
  client_lt : client < content
  exact : content * ratio ≤ 2 ^ 52

namespace Region

variable (r : Region)

def view (top : Nat) : Image :=
  ⟨r.width, (List.range' (top * r.ratio) (r.client * r.ratio)).map r.row⟩

/-- The position after a scroll: a height less an overlap further, at least a
pixel, and not beyond the end of the content. -/
def scrolled (overlap : Int) (top : Nat) : Nat :=
  min (r.content - r.client) (top + (max 1 ((r.client : Int) - overlap)).toNat)

def metrics (top : Nat) : Metrics :=
  { scrollHeight := some (Double.ofInt r.content), clientHeight := some (Double.ofInt r.client)
    scrollTop := some (Double.ofInt top), pixelRatio := some (Double.ofInt r.ratio) }

def measures (top : Nat) : Measures :=
  { content := Double.ofInt r.content, viewport := Double.ofInt r.client
    top := Double.ofInt top, ratio := Double.ofInt r.ratio }

theorem content_le : r.content ≤ 2 ^ 52 :=
  (Nat.le_mul_of_pos_right _ r.ratio_pos).trans r.exact

theorem ratio_le : r.ratio ≤ 2 ^ 52 := by
  have hpos : 0 < r.content := Nat.zero_lt_of_lt r.client_lt
  exact (Nat.le_mul_of_pos_left _ hpos).trans r.exact

theorem ofMetrics_metrics (top : Nat) : Measures.ofMetrics (r.metrics top) = r.measures top := by
  have hratio := r.ratio_le
  have hpos := r.ratio_pos
  have hnonzero : (Double.ofInt r.ratio).isZero = false := by
    rw [Double.isZero_ofInt (by omega), decide_eq_false_iff_not]
    omega
  simp only [Measures.ofMetrics, metrics, measures, Option.getD_some, hnonzero,
    Bool.false_eq_true, ↓reduceIte]

end Region

/-- The surroundings show a region under a selector: the element is found, it
answers as the region does at the position `top` of the world, a scroll moves
that position and nothing else does, and time passes undisturbed. -/
structure Region.Shown (r : Region) {W : Type} (env : Responses State Ask Ask.Reply W)
    (top : W → Nat) (page : PageRef) (selector : String) (element : ElementRef) : Prop where
  found : ∀ ms x, ∃ y, env (.page page (.waitFor selector ms)) x = (.ok (some element), y) ∧
    top y.1 = top x.1
  measured : ∀ x, ∃ y, env (.page page (.measure selector)) x =
    (.ok (some (r.metrics (top x.1))), y) ∧ top y.1 = top x.1
  pictured : ∀ x, ∃ y, env (.element element .screenshot) x =
    (.ok (.image (r.view (top x.1))), y) ∧ top y.1 = top x.1
  advanced : ∀ overlap x, ∃ y, env (.page page (.advance selector overlap)) x = (.ok (), y) ∧
    top y.1 = r.scrolled overlap (top x.1)
  elapsed : ∀ x, top (env .elapsed x).2.1 = top x.1
  slept : ∀ seconds x, ∃ y, env (.sleep seconds) x = (.ok (), y) ∧ top y.1 = top x.1

/-- Surroundings that hold nothing but the element, and its position as their
world. -/
def Region.display (r : Region) (element : ElementRef) : Responses State Ask Ask.Reply Nat
  | .page _ (.waitFor _ _), x => (.ok (some element), x)
  | .page _ (.measure _), x => (.ok (some (r.metrics x.1)), x)
  | .page _ (.advance _ overlap), x => (.ok (), (r.scrolled overlap x.1, x.2))
  | .element _ .screenshot, x => (.ok (.image (r.view x.1)), x)
  | .sleep _, x => (.ok (), x)
  | q, x => (q.refused, x)

theorem Region.shown_display (r : Region) (page : PageRef) (selector : String)
    (element : ElementRef) : r.Shown (r.display element) id page selector element where
  found _ x := ⟨x, rfl, rfl⟩
  measured x := ⟨x, rfl, rfl⟩
  pictured x := ⟨x, rfl, rfl⟩
  advanced overlap x := ⟨(r.scrolled overlap x.1, x.2), rfl, rfl⟩
  elapsed _ := rfl
  slept _ x := ⟨x, rfl, rfl⟩

/-- A note of a question to a page or to an element. -/
def browses (note : Note Ask Ask.Reply) : Bool :=
  match note.1 with
  | .page _ _ | .element _ _ => true
  | _ => false

/-- The note of a measurement of a region at a position. -/
def Region.measured (r : Region) (page : PageRef) (selector : String) (top : Nat) :
    Note Ask Ask.Reply :=
  ⟨.page page (.measure selector), .ok (some (r.metrics top))⟩

section

variable {W : Type} {env : Responses State Ask Ask.Reply W} {x y : W × State}

theorem noting_pageCall {page : PageRef} {c : PageCall} {reply : Result c.Answer}
    (h : env (.page page c) x = (reply, y)) :
    (page.call c).Noting env browses x [⟨.page page c, reply⟩] reply y :=
  Program.noting_ask h rfl (Program.noting_ofResult reply y)

theorem noting_elementCall {element : ElementRef} {c : ElementCall} {reply : Result c.Answer}
    (h : env (.element element c) x = (reply, y)) :
    (element.call c).Noting env browses x [⟨.element element c, reply⟩] reply y :=
  Program.noting_ask h rfl (Program.noting_ofResult reply y)

end

namespace Region.Shown

variable {r : Region} {W : Type} {env : Responses State Ask Ask.Reply W} {top : W → Nat}
  {page : PageRef} {selector : String} {element : ElementRef}

theorem noting_waitVisible (h : r.Shown env top page selector element) (ms : Int) (x : W × State) :
    ∃ y, (page.waitVisible selector ms).Noting env browses x
        [⟨.page page (.waitFor selector ms), .ok (some element)⟩] (.ok element) y ∧
      top y.1 = top x.1 := by
  obtain ⟨y, hanswer, htop⟩ := h.found ms x
  exact ⟨y, (noting_pageCall hanswer).attempt.bind (Program.noting_done element y), htop⟩

theorem noting_measure (h : r.Shown env top page selector element) (x : W × State) :
    ∃ y, (measure page selector).Noting env browses x [r.measured page selector (top x.1)]
        (.ok (r.measures (top x.1))) y ∧ top y.1 = top x.1 := by
  obtain ⟨y, hanswer, htop⟩ := h.measured x
  refine ⟨y, (noting_pageCall hanswer).bind ?_, htop⟩
  rw [← r.ofMetrics_metrics]
  exact Program.noting_done _ y

theorem noting_screenshot (h : r.Shown env top page selector element) (x : W × State) :
    ∃ y, (element.call .screenshot).Noting env browses x
        [⟨.element element .screenshot, .ok (.image (r.view (top x.1)))⟩]
        (.ok (.image (r.view (top x.1)))) y ∧ top y.1 = top x.1 := by
  obtain ⟨y, hanswer, htop⟩ := h.pictured x
  exact ⟨y, noting_elementCall hanswer, htop⟩

theorem noting_advance (h : r.Shown env top page selector element) (overlap : Int)
    (x : W × State) :
    ∃ y, (page.call (.advance selector overlap)).Noting env browses x
        [⟨.page page (.advance selector overlap), .ok ()⟩] (.ok ()) y ∧
      top y.1 = r.scrolled overlap (top x.1) := by
  obtain ⟨y, hanswer, htop⟩ := h.advanced overlap x
  exact ⟨y, noting_pageCall hanswer, htop⟩

/-- Looking for a quiet network ends well or with the one fault that a long
capture passes over, wherever the clock and the monitor stand, and asks the page
nothing. -/
theorem noting_poll (h : r.Shown env top page selector element) (q : Network.Quiet)
    (deadline : Double) (polls : Nat) (x : W × State) :
    ∃ y result, (Network.poll page q deadline polls).Noting env browses x [] result y ∧
      (result = .ok () ∨ result = .error (.networkIdle q.idleMs q.timeoutMs)) ∧
      top y.1 = top x.1 := by
  induction polls generalizing x with
  | zero => exact ⟨x, _, ⟨rfl, rfl⟩, .inr rfl, rfl⟩
  | succ polls ih =>
    have helapsed := h.elapsed x
    generalize hreply : env .elapsed x = reply at helapsed
    obtain ⟨now, x₁⟩ := reply
    simp only [Network.poll, Program.bind_eq_bind, Activity.elapsed, Program.state, Program.bind]
    by_cases hidle : (x₁.2.monitor page).isIdle now q.idleMs = true
    · refine ⟨x₁, .ok (), Program.noting_aside hreply rfl (Program.noting_read ?_), .inl rfl,
        helapsed⟩
      simp only [hidle, ↓reduceIte]
      exact Program.noting_done () x₁
    by_cases hlate : deadline.le now = true
    · refine ⟨x₁, _, Program.noting_aside hreply rfl (Program.noting_read ?_), .inr rfl, helapsed⟩
      simp only [hidle, hlate, Bool.false_eq_true, ↓reduceIte]
      exact ⟨rfl, rfl⟩
    · obtain ⟨x₂, hsleep, htop⟩ := h.slept (Activity.seconds q.pollMs) x₁
      obtain ⟨y, result, hrest, hresult, hy⟩ := ih x₂
      refine ⟨y, result, Program.noting_aside hreply rfl (Program.noting_read ?_), hresult,
        hy.trans (htop.trans helapsed)⟩
      simp only [hidle, hlate, Bool.false_eq_true, ↓reduceIte]
      exact Program.noting_aside hsleep rfl hrest

theorem noting_settle (h : r.Shown env top page selector element) (o : LongOptions)
    (x : W × State) :
    ∃ y, (settle page o).Noting env browses x [] (.ok ()) y ∧ top y.1 = top x.1 := by
  unfold settle
  split
  · have helapsed := h.elapsed x
    generalize hreply : env .elapsed x = reply at helapsed
    obtain ⟨start, x₁⟩ := reply
    obtain ⟨y, result, hpoll, hresult, hy⟩ :=
      h.noting_poll { idleMs := o.idleMs, timeoutMs := o.idleTimeoutMs }
        (start + Activity.seconds o.idleTimeoutMs)
        ({ idleMs := o.idleMs, timeoutMs := o.idleTimeoutMs } : Network.Quiet).polls x₁
    have hwait : (Network.waitForIdle page
        { idleMs := o.idleMs, timeoutMs := o.idleTimeoutMs }).Noting env browses x [] result y :=
      Program.noting_aside hreply rfl hpoll
    refine ⟨y, ?_, hy.trans helapsed⟩
    rcases hresult with rfl | rfl
    · exact hwait.rescueIf_ok _ _
    · exact hwait.rescueIf_accepted rfl (Program.noting_done () y)
  · exact ⟨x, Program.noting_done () x, rfl⟩

end Region.Shown
end Pageflow.Capture
