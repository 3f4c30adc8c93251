import Pageflow.Proofs.Activity.Success
import Pageflow.Session.Manager

/-! Opening and closing pages: of what activities share only the session changes, and
closing a page never fails. -/
namespace Pageflow.Session
open Browser

variable {W α β Φ : Type} {u : Upkeep W α Φ}

/-- What is kept up does not depend on the session. -/
def Handles (u : Upkeep W α Φ) : Prop :=
  ∀ φ before now session, u.holds φ before now → u.holds φ before (now.1, { now.2 with session })

section

variable (hu : Handles u)
include hu

theorem kept_change (f : State → State) : u.Kept (change f) :=
  kept_modify fun _ _ _ => hu _ _ _ _

theorem kept_withLock {p : Activity β} (hp : u.Kept p) : u.Kept (withLock p) :=
  kept_bind (kept_update fun _ _ _ => hu _ _ _ _) fun _ =>
    kept_ensure (kept_bind (kept_question fun _ => id) fun _ => hp) (kept_change hu _)

theorem kept_start (o : Options) : u.Kept (start o) :=
  kept_read fun _ => kept_ite
    (kept_bind (BrowserCall.kept_run _) fun _ => kept_bind (kept_change hu _) fun _ =>
      BrowserCall.kept_run _)
    (BrowserCall.kept_run _)

theorem kept_launch (o : Options) : u.Kept (launch o) :=
  kept_bind (kept_question fun _ => id) fun _ =>
    kept_bind (kept_rescueIf (kept_start hu o) fun _ => kept_fail rfl) fun _ =>
      kept_bind (kept_change hu _) fun _ => kept_done _

theorem kept_context (o : Options) : u.Kept (context o) := by
  refine kept_withLock hu (kept_read fun s => ?_)
  simp only [Program.bind]
  split
  · exact kept_done _
  · exact kept_launch hu o

theorem kept_newPage (c : ContextRef) : u.Kept (newPage c) :=
  kept_rescueIf (BrowserCall.kept_run _) fun _ => kept_bind (kept_change hu _) fun _ =>
    kept_fail rfl

theorem kept_acquire (o : Options) : u.Kept (acquire o) :=
  kept_bind (kept_context hu o) fun c => kept_bind (kept_newPage hu c) fun page =>
    kept_bind (page.kept_call _) fun _ => kept_bind (page.kept_call _) fun _ => kept_done _

end

theorem kept_release (page : PageRef) : u.Kept (release page) :=
  kept_rescueIf (kept_bind (page.kept_call _) fun _ =>
    kept_ite (page.kept_call _) (kept_done _)) fun _ => kept_done ()

theorem succeeds_release (hspares : ¬ u.cancels) (page : PageRef) : u.Succeeds (release page) :=
  succeeds_rescue hspares (kept_bind (page.kept_call _) fun _ =>
    kept_ite (page.kept_call _) (kept_done _)) fun _ => succeeds_done ()

variable {env : Climate Pageflow.State Ask Ask.Reply W}
  {within : W × Pageflow.State → W × Pageflow.State → Prop}

theorem calm_acquire (htolerates : env.Tolerates within) (hspares : env.Spares)
    (hhandling : ∀ x session, within x (x.1, { x.2 with session })) (o : Options) :
    (acquire o).Calm env within Uncancelled :=
  (kept_acquire (u := .inside htolerates hspares) (fun _ _ now session hwithin =>
    htolerates.trans _ _ _ hwithin (hhandling now session)) o).calm

theorem calm_release (htolerates : env.Tolerates within) (hspares : env.Spares) (page : PageRef) :
    (release page).Calm env within (· = .ok ()) :=
  (succeeds_release (u := .inside htolerates hspares) id page).calm

end Pageflow.Session
