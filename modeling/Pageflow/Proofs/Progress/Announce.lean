import Pageflow.Progress.Publish
import Pageflow.Proofs.Activity.Success

/-! Telling of a task never fails, and of what activities share it changes the
sinks and who is being asked at the terminal, and nothing else. -/
namespace Pageflow.Progress

section

variable {W α Φ : Type} {u : Upkeep W α Φ}

/-- What is kept up does not depend on what the sinks take in. -/
def Listens (u : Upkeep W α Φ) : Prop := ∀ φ before now bus prompting,
  u.holds φ before now → u.holds φ before (now.1, { now.2 with bus, prompting })

variable (hu : Listens u)
include hu

theorem kept_deliver (e : Event) (sink : SinkId) : u.Kept (deliver e sink) := by
  refine kept_read fun s => ?_
  have hmodify : ∀ f : State → Bus, u.Kept
      (Program.modify fun s : State => { s with bus := f s } : Activity Unit) :=
    fun f => kept_modify fun _ _ now => hu _ _ _ _ now.2.prompting
  simp only [Program.bind]
  split
  · exact kept_question fun _ => id
  · exact kept_rescueIf (kept_question fun _ => id) fun _ => hmodify _
  · exact kept_done ()
  · exact kept_ite (kept_bind (kept_modify fun _ _ now => hu _ _ _ now.2.bus _) fun _ =>
      kept_ask fun _ _ => kept_done ()) (kept_done ())
  · exact kept_fail rfl
  · exact hmodify _
  · exact kept_done ()

theorem kept_deliverAll (e : Event) (ids : List SinkId) : u.Kept (deliverAll e ids) := by
  induction ids with
  | nil => exact kept_done ()
  | cons sink rest ih =>
    exact kept_bind (kept_rescueIf (kept_deliver hu e sink) fun _ => kept_done ()) fun _ => ih

theorem kept_publish (taskId : String) (e : Event) : u.Kept (publish taskId e) :=
  kept_read fun _ => kept_deliverAll hu _ _

/-- Telling ends well, over the event bus or without a channel. -/
theorem succeeds_announce (hspares : ¬ u.cancels) {channel : Channel}
    (hchannel : channel = none ∨ channel = busChannel) (taskId : String) (status : Status)
    (stepIndex totalSteps : Int) (message : String) :
    u.Succeeds (announce channel taskId status stepIndex totalSteps message) := by
  rcases hchannel with rfl | rfl
  · exact succeeds_done ()
  · exact (Activity.succeeds_now.bind fun _ => succeeds_done _).bind fun _ =>
      succeeds_rescue hspares (kept_publish hu _ _) fun _ => succeeds_done ()

end

variable {W : Type} {env : Climate State Ask Ask.Reply W} {within : W × State → W × State → Prop}

/-- The relation allows whatever the sinks take in. -/
def Telling (within : W × State → W × State → Prop) : Prop :=
  ∀ x bus prompting, within x (x.1, { x.2 with bus, prompting })

theorem calm_announce (htolerates : env.Tolerates within) (hspares : env.Spares)
    (htelling : Telling within) {channel : Channel} (hchannel : channel = none ∨
      channel = busChannel) (taskId : String) (status : Status) (stepIndex totalSteps : Int)
    (message : String) :
    (announce channel taskId status stepIndex totalSteps message).Calm env within (· = .ok ()) := by
  have hlistens : Listens (.inside htolerates hspares) := fun _ _ now bus prompting hwithin =>
    htolerates.trans _ _ _ hwithin (htelling now bus prompting)
  exact (succeeds_announce hlistens id hchannel _ _ _ _ _).calm

end Pageflow.Progress
