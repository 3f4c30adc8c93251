import Pageflow.Challenge.Detector
import Pageflow.Proofs.Activity.Upkeep

/-! Looking for a challenge: whatever a call keeps up, it keeps up meanwhile. -/
namespace Pageflow.Challenge

theorem Candidate.uncancelled_ofJson (j : Json) : Uncancelled (Candidate.ofJson j) := by
  cases j with
  | _ => exact nofun

theorem uncancelled_candidates (listed : Json) : Uncancelled (candidates listed) := by
  unfold candidates
  split
  · exact nofun
  · split
    · exact Uncancelled.mapM Candidate.uncancelled_ofJson _
    · exact Uncancelled.mapM (fun c => Candidate.uncancelled_ofJson _) _
    · exact Uncancelled.mapM (fun c => Candidate.uncancelled_ofJson _) _
    · exact nofun

namespace Detector

variable {W α Φ : Type} {u : Upkeep W α Φ}

theorem kept_ask (d : Detector) (page : Browser.PageRef) : u.Kept (d.ask page) :=
  kept_rescueIf (kept_bind (page.kept_call _) fun _ => kept_bind (page.kept_call _) fun _ =>
    kept_done _) fun _ => kept_done _

theorem kept_inspect (d : Detector) (page : Option Browser.PageRef) : u.Kept (d.inspect page) := by
  cases page with
  | none => exact kept_done _
  | some page =>
    refine kept_bind (page.kept_call _) fun _ => kept_ite (kept_done _)
      (kept_ite (kept_done _) (kept_bind (d.kept_ask page) ?_))
    rintro (_ | ⟨listed, url⟩)
    · exact kept_done _
    · exact kept_bind (kept_ofResult (uncancelled_candidates listed)) fun _ => kept_done _

theorem kept_isActive (d : Detector) (page : Option Browser.PageRef) : u.Kept (d.isActive page) :=
  kept_bind (d.kept_inspect page) fun _ => kept_done _

end Detector
end Pageflow.Challenge
