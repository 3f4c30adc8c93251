import Pageflow.Network.Idle
import Pageflow.Proofs.Activity.Confined
import Pageflow.Proofs.Activity.Success

/-! Following the requests of a page and waiting until they have come to rest: of
what activities share only the monitors change. -/
namespace Pageflow.Network
open Browser

variable {W α Φ : Type} {u : Upkeep W α Φ} {env : Climate State Ask Ask.Reply W}
  {within : W × State → W × State → Prop}

/-- The relation allows whatever monitors take in. -/
def Following (within : W × State → W × State → Prop) : Prop :=
  ∀ x monitors, within x (x.1, { x.2 with monitors })

/-- No page refuses to tell of its requests. -/
def Tells (env : Climate State Ask Ask.Reply W) : Prop :=
  ∀ page event x r w, env.answers (.page page (.listen event)) x r w → r = .ok ()

/-- What is kept up does not depend on the monitors. -/
def Follows (u : Upkeep W α Φ) : Prop :=
  ∀ φ before now monitors, u.holds φ before now → u.holds φ before (now.1, { now.2 with monitors })

section

variable (hu : Follows u)
include hu

theorem kept_watch (page : PageRef) : u.Kept (watch page) :=
  kept_bind Activity.kept_elapsed fun _ => kept_modify fun _ _ _ => hu _ _ _ _

omit hu in
theorem kept_listenAll (page : PageRef) (events : List RequestEvent) :
    u.Kept (listenAll page events) := by
  induction events with
  | nil => exact kept_done ()
  | cons event rest ih => exact kept_bind (page.kept_call _) fun _ => ih

theorem kept_attach (page : PageRef) : u.Kept (attach page) :=
  kept_read fun _ => kept_ite
    (kept_bind (kept_listenAll page _) fun _ => kept_bind Activity.kept_elapsed fun _ =>
      kept_modify fun _ _ _ => hu _ _ _ _)
    (kept_done ())

omit hu in
theorem kept_unlistenAll (page : PageRef) (events : List RequestEvent) :
    u.Kept (unlistenAll page events) := by
  induction events with
  | nil => exact kept_done ()
  | cons event rest ih =>
    exact kept_bind (kept_rescueIf (page.kept_call _) fun _ => kept_done ()) fun _ => ih

theorem kept_detach (page : PageRef) : u.Kept (detach page) :=
  kept_read fun _ => kept_ite
    (kept_bind (kept_unlistenAll page _) fun _ => kept_modify fun _ _ _ => hu _ _ _ _)
    (kept_done ())

end

/-! ## What succeeds -/

section

theorem succeeds_listenAll (htells : Tells u.env) (page : PageRef) (events : List RequestEvent) :
    u.Succeeds (listenAll page events) := by
  induction events with
  | nil => exact succeeds_done ()
  | cons event rest ih =>
    refine Upkeep.Succeeds.bind (succeeds_ask fun x reply w hanswer => ?_) fun _ => ih
    rw [htells page event x reply w hanswer]
    exact succeeds_done ()

theorem succeeds_unlistenAll (hspares : ¬ u.cancels) (page : PageRef)
    (events : List RequestEvent) : u.Succeeds (unlistenAll page events) := by
  induction events with
  | nil => exact succeeds_done ()
  | cons event rest ih =>
    exact (succeeds_rescue hspares (page.kept_call _) fun _ => succeeds_done ()).bind fun _ => ih

variable (hu : Follows u)
include hu

theorem succeeds_watch (page : PageRef) : u.Succeeds (watch page) :=
  Activity.succeeds_elapsed.bind fun _ => succeeds_modify fun _ _ _ => hu _ _ _ _

theorem succeeds_attach (htells : Tells u.env) (page : PageRef) : u.Succeeds (attach page) :=
  succeeds_read fun _ => succeeds_ite
    ((succeeds_listenAll htells page _).bind fun _ => Activity.succeeds_elapsed.bind fun _ =>
      succeeds_modify fun _ _ _ => hu _ _ _ _)
    (succeeds_done ())

theorem succeeds_detach (hspares : ¬ u.cancels) (page : PageRef) : u.Succeeds (detach page) :=
  succeeds_read fun _ => succeeds_ite
    ((succeeds_unlistenAll hspares page _).bind fun _ => succeeds_modify fun _ _ _ => hu _ _ _ _)
    (succeeds_done ())

end

section

variable (htolerates : env.Tolerates within) (hspares : env.Spares)
  (hfollowing : Following within)
include htolerates hspares hfollowing

theorem follows_inside : Follows (.inside htolerates hspares) :=
  fun _ _ now monitors hwithin => htolerates.trans _ _ _ hwithin (hfollowing now monitors)

theorem calm_watch (page : PageRef) : (watch page).Calm env within (· = .ok ()) :=
  (succeeds_watch (follows_inside htolerates hspares hfollowing) page).calm

theorem calm_attach (htells : Tells env) (page : PageRef) :
    (attach page).Calm env within (· = .ok ()) :=
  (succeeds_attach (follows_inside htolerates hspares hfollowing) htells page).calm

theorem calm_detach (page : PageRef) : (detach page).Calm env within (· = .ok ()) :=
  (succeeds_detach (follows_inside htolerates hspares hfollowing) id page).calm

end

/-! ## Waiting -/

theorem kept_poll (page : PageRef) (q : Quiet) (deadline : Double) (polls : Nat) :
    u.Kept (poll page q deadline polls) := by
  induction polls with
  | zero => exact kept_fail rfl
  | succ polls ih =>
    exact kept_bind Activity.kept_elapsed fun _ => kept_read fun _ =>
      kept_ite (kept_done ()) (kept_ite (kept_fail rfl)
        (kept_bind (Activity.kept_sleep _) fun _ => ih))

theorem kept_waitForIdle (page : PageRef) (q : Quiet) : u.Kept (waitForIdle page q) :=
  kept_bind Activity.kept_elapsed fun _ => kept_poll page q _ _

/-! ## Questions -/

section

variable {asks : Ask → Prop} {writes : State → State → Prop} (helapsed : asks .elapsed)
  (hsleep : ∀ seconds, asks (.sleep seconds))
include helapsed hsleep

/-- Who waits looks at the clock and sleeps, and asks nothing else. -/
theorem confined_poll (page : PageRef) (q : Quiet) (deadline : Double) (polls : Nat) :
    (poll page q deadline polls).Confined asks writes := by
  induction polls with
  | zero => exact Program.confined_fail _
  | succ polls ih =>
    have hsleeps (seconds : Double) : (Activity.sleep seconds).Confined asks writes :=
      Program.confined_ask (hsleep seconds) Program.confined_ofResult
    refine Program.confined_ask helapsed fun now => Program.confined_read fun s => ?_
    exact Program.confined_ite (Program.confined_done ())
      (Program.confined_ite (Program.confined_fail _) ((hsleeps _).bind fun _ => ih))

theorem confined_waitForIdle (page : PageRef) (q : Quiet) :
    (waitForIdle page q).Confined asks writes :=
  Program.confined_ask helapsed fun _ => confined_poll helapsed hsleep page q _ _

end

end Pageflow.Network
