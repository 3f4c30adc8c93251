import Pageflow.Capture.LongCapture
import Pageflow.Capture.Scroll
import Pageflow.Proofs.Network.Idle

/-! Looking for elements, scrolling and capturing: whatever a call keeps up, it keeps up
meanwhile, and nothing is cancelled that was not cancelled from outside. -/
namespace Pageflow

open Browser

variable {W α Φ : Type} {u : Upkeep W α Φ}

theorem Browser.PageRef.kept_waitVisible (page : PageRef) (selector : String)
    (timeoutMs : Int) : u.Kept (page.waitVisible selector timeoutMs) := by
  refine kept_bind_attempt (page.kept_call _) fun result hfine => ?_
  split
  · exact kept_done _
  · exact kept_fail rfl
  · exact kept_fail rfl
  · exact kept_fault hfine

namespace Capture

theorem uncancelled_toPixels (size ratio : Double) : Uncancelled (toPixels size ratio) := by
  unfold toPixels
  dsimp only
  split
  · exact uncancelled_ok _
  · split
    · simp [Uncancelled]
    · simp [Uncancelled]

theorem uncancelled_heights (s : Scale) : Uncancelled s.heights :=
  (uncancelled_toPixels _ _).bind fun _ => (uncancelled_toPixels _ _).bind fun _ =>
    (uncancelled_toPixels _ _).bind fun _ => uncancelled_ok _

theorem uncancelled_decode (picture : Picture) : Uncancelled picture.decode := by
  cases picture with
  | image i => exact uncancelled_ok i
  | raw => simp [Uncancelled, Picture.decode]

theorem uncancelled_stitchImages (tiles : List Image) (s : Scale) :
    Uncancelled (stitchImages tiles s) := by
  refine (uncancelled_heights s).bind fun heights => ?_
  dsimp only
  split
  · exact Uncancelled.bind (by simp [Uncancelled, throw, throwThe, MonadExceptOf.throw])
      fun _ => uncancelled_ok _
  · exact uncancelled_ok _

theorem uncancelled_stitch (tiles : List Picture) (s : Scale) : Uncancelled (stitch tiles s) := by
  unfold stitch
  split
  · simp [Uncancelled]
  · exact (Uncancelled.mapM uncancelled_decode tiles).bind fun images =>
      uncancelled_stitchImages images s

/-! ## Scrolling -/

theorem kept_hover (page : PageRef) (selector : String) : u.Kept (hover page selector) := by
  refine kept_bind (page.kept_call _) fun found => ?_
  cases found with
  | none => exact kept_done ()
  | some element =>
    refine kept_bind (element.kept_call _) fun place => ?_
    cases place with
    | none => exact kept_done ()
    | some box => exact page.kept_call _

theorem kept_scrollRound (page : PageRef) (o : ScrollOptions) (s : Stillness) :
    u.Kept (scrollRound page o s) :=
  kept_bind (page.kept_call _) fun _ => kept_ite (kept_done _)
    (kept_bind (page.kept_call _) fun _ => kept_bind (Activity.kept_sleepMs _) fun _ => kept_done _)

theorem kept_scrollRounds (page : PageRef) (o : ScrollOptions) (rounds : Nat) (s : Stillness)
    (left : Nat) : u.Kept (scrollRounds page o rounds s left) := by
  induction left generalizing rounds s with
  | zero => exact kept_done _
  | succ left ih =>
    refine kept_bind (kept_rescueIf (kept_scrollRound page o s) fun _ => kept_done _) fun next => ?_
    cases next with
    | none => exact kept_done _
    | some s => exact ih (rounds + 1) s

theorem kept_scrollToBottom (page : PageRef) (selector : String) (o : ScrollOptions) :
    u.Kept (scrollToBottom page selector o) :=
  kept_bind (kept_rescueIf (kept_ite
      (kept_bind (kept_hover page selector) fun _ => kept_done _) (kept_done _))
    fun _ => kept_done _) fun _ => kept_ite (kept_scrollRounds page o 0 _ _) (kept_done _)

/-! ## Long captures -/

theorem kept_measure (page : PageRef) (selector : String) : u.Kept (measure page selector) := by
  refine kept_bind (page.kept_call _) fun metrics => ?_
  cases metrics with
  | none => exact kept_fail rfl
  | some m => exact kept_done _

theorem kept_settle (page : PageRef) (o : LongOptions) : u.Kept (settle page o) :=
  kept_ite (kept_rescueIf (Network.kept_waitForIdle page _) fun _ => kept_done _) (kept_done _)

theorem kept_captureTile (page : PageRef) (o : LongOptions) (element : ElementRef)
    (selector : String) : u.Kept (captureTile page o element selector) :=
  kept_bind (element.kept_call _) fun _ => kept_bind (kept_measure page selector) fun _ =>
    kept_bind (page.kept_call _) fun _ => kept_bind (kept_settle page o) fun _ =>
      kept_bind (kept_measure page selector) fun _ => kept_done _

theorem kept_captureTiles (page : PageRef) (o : LongOptions) (element : ElementRef)
    (selector : String) (left : Nat) : u.Kept (captureTiles page o element selector left) := by
  induction left with
  | zero => exact kept_bind (kept_captureTile page o element selector) fun _ => kept_done _
  | succ left ih =>
    exact kept_bind (kept_captureTile page o element selector) fun ⟨_, _⟩ =>
      kept_ite (kept_bind ih fun _ => kept_done _) (kept_done _)

theorem kept_captureLong (page : PageRef) (o : LongOptions) (selector : String) :
    u.Kept (captureLong page o selector) :=
  kept_bind (page.kept_waitVisible _ _) fun element =>
    kept_bind (kept_measure page selector) fun _ => kept_ite (element.kept_call _)
      (kept_bind (kept_captureTiles page o element selector _) fun tiles =>
        kept_bind (kept_measure page selector) fun _ =>
          kept_bind (kept_ofResult (uncancelled_stitch tiles _)) fun _ => kept_done _)

end Capture
end Pageflow
