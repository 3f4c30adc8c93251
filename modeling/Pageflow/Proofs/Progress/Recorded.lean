import Mathlib.Data.List.Perm.Subperm
import Pageflow.Proofs.Progress.History

/-! What a store of latest events tells of a task right after an event of it is recorded: this
event, unless it is final and the tasks that have not ended take up all the room. -/
namespace Pageflow.Progress

theorem taskId_mem_of_mem_standing {e : Event} {history : List Update} (h : e ∈ standing history) :
    e.taskId ∈ history.map Update.taskId := by
  induction history with
  | nil => cases h
  | cons first later ih =>
    rw [List.map_cons]
    cases first with
    | forget taskId => exact List.mem_cons_of_mem _ (ih h)
    | handle latest =>
      rw [standing] at h
      split at h
      · exact List.mem_cons_of_mem _ (ih h)
      · rcases List.mem_cons.mp h with rfl | hlater
        · exact List.mem_cons_self
        · exact List.mem_cons_of_mem _ (ih hlater)

/-- Of each task at most one event stands. -/
theorem nodup_standing (history : List Update) :
    ((standing history).map Event.taskId).Nodup := by
  induction history with
  | nil => exact List.nodup_nil
  | cons first later ih =>
    cases first with
    | forget taskId => exact ih
    | handle e =>
      rw [standing]
      split
      · exact ih
      · rename_i hlast
        rw [List.map_cons, List.nodup_cons]
        refine ⟨fun hmem => ?_, ih⟩
        obtain ⟨e', he', htask⟩ := List.mem_map.mp hmem
        exact hlast (htask ▸ taskId_mem_of_mem_standing he')

/-- Whether a task other than `taskId` has not ended with an event. -/
def Event.isLiveBeside (taskId : String) (e : Event) : Bool :=
  e.taskId ≠ taskId && !e.status.isFinal

/-- How many tasks beside one are running or paused after a history: so says their last event, and
they were not forgotten since. -/
def liveBeside (taskId : String) (history : List Update) : Nat :=
  (standing history).countP (Event.isLiveBeside taskId)

namespace Store

/-- The last of some entries is kept exactly if it has not ended, or if there are as many before it
that have ended as are dropped. -/
theorem mem_dropFinal_concat_iff {n : Nat} {entries : List (String × Event)}
    {entry : String × Event} (hnew : entry ∉ entries) :
    entry ∈ dropFinal n (entries ++ [entry]) ↔
      (entry.2.status.isFinal = true → n ≤ entries.countP (·.2.status.isFinal)) := by
  induction entries generalizing n with
  | nil =>
    cases n with
    | zero => simp [dropFinal]
    | succ n => cases hfinal : entry.2.status.isFinal <;> cases n <;> simp [dropFinal, hfinal]
  | cons first rest ih =>
    obtain ⟨hne, hnew⟩ := not_or.mp (mt List.mem_cons.mpr hnew)
    cases n with
    | zero => simp [dropFinal]
    | succ n =>
      rw [List.cons_append, dropFinal]
      split
      · rename_i hfinal
        rw [ih hnew, List.countP_cons_of_pos (by exact hfinal), Nat.add_le_add_iff_right]
      · rename_i hopen
        rw [List.mem_cons, or_iff_right hne, ih hnew, List.countP_cons_of_neg (by exact hopen)]

variable {s : Store} {capacity : Int} {history : List Update}

/-- The entries of the other tasks are those that have ended and all that have not. -/
theorem Latest.length_others (h : s.Latest capacity history) (taskId : String) :
    (s.entries.filter (·.1 ≠ taskId)).length =
      (s.entries.filter (·.1 ≠ taskId)).countP (·.2.status.isFinal) +
        liveBeside taskId history := by
  obtain ⟨events, hsub, hentries⟩ := h.last
  have hkept : events.filter (Event.isLiveBeside taskId) =
      (standing history).filter (Event.isLiveBeside taskId) := by
    refine (hsub.filter _).eq_of_length_le (List.Subperm.length_le (List.subperm_of_subset ?_ ?_))
    · exact (List.Nodup.of_map _ (nodup_standing history)).filter _
    · intro e he
      obtain ⟨hstands, hlive⟩ := List.mem_filter.mp he
      have hopen : e.status.isFinal = false := by
        simp only [Event.isLiveBeside, Bool.and_eq_true, Bool.not_eq_true'] at hlive
        exact hlive.2
      have hstored := h.live e hstands hopen
      rw [hentries, List.mem_map] at hstored
      obtain ⟨e', he', hentry⟩ := hstored
      obtain rfl : e' = e := (Prod.mk.inj hentry).2
      exact List.mem_filter.mpr ⟨he', hlive⟩
  have hlive : liveBeside taskId history = events.countP (Event.isLiveBeside taskId) := by
    rw [liveBeside, List.countP_eq_length_filter, List.countP_eq_length_filter, hkept]
  rw [List.length_eq_countP_add_countP (fun entry : String × Event => entry.2.status.isFinal),
    hlive, hentries, List.countP_filter (p := fun a => decide ¬_), List.countP_map]
  congr 1
  refine List.countP_congr fun e _ => ?_
  simp [Event.isLiveBeside, and_comm]

theorem Sound.get?_record_self_iff (h : s.Sound) (e : Event) :
    (s.record e).get? e.taskId = some e ↔ e.entry ∈ (s.record e).entries := by
  rcases h.get?_record_self (e := e) with hget | ⟨-, hget⟩
  · obtain ⟨before, after, hsplit, -⟩ := List.lookup_eq_some_iff.mp hget
    exact iff_of_true hget (hsplit ▸ List.mem_append_cons_self)
  · refine iff_of_false (by simp [hget]) fun hmem => ?_
    simpa using List.lookup_eq_none_iff.mp hget _ hmem

/-- Right after an event is recorded its task has it, unless the event is final and the tasks that
have not ended leave no room. -/
theorem Latest.get?_record_iff (h : s.Latest capacity history) (hsound : s.Sound) (e : Event) :
    (s.record e).get? e.taskId = some e ↔
      (e.status.isFinal = true → (liveBeside e.taskId history : Int) < capacity) := by
  have hnew : e.entry ∉ s.entries.filter (·.1 ≠ e.taskId) := by simp [List.mem_filter]
  have hexcess : excess { s with entries := s.entered (.handle e) } =
      (((s.entries.filter (·.1 ≠ e.taskId)).length + 1 : Nat) - capacity).toNat := by
    simp only [excess, entered, Update.events, List.map_cons, List.map_nil, List.length_append,
      List.length_singleton, h.room]
    rfl
  have hothers := h.length_others e.taskId
  rw [hsound.get?_record_self_iff, record_eq]
  refine (mem_dropFinal_concat_iff hnew).trans (imp_congr_right fun _ => ?_)
  rw [hexcess]
  omega

/-- An event that was recorded last is what a store tells of its task, whatever happened before. It
is missing only if it is final and as many tasks as the store has room for have not ended. -/
theorem get?_replay_handle (capacity : Int) (history : List Update) (e : Event) :
    ((empty capacity).replay (history ++ [.handle e])).get? e.taskId =
      if e.status.isFinal ∧ capacity ≤ liveBeside e.taskId history then none else some e := by
  have hiff := (latest_replay capacity history).get?_record_iff (sound_replay capacity history) e
  rw [replay_append, update]
  split
  · rename_i hfull
    rcases (sound_replay capacity history).get?_record_self (e := e) with hget | ⟨-, hget⟩
    · have hroom := hiff.mp hget hfull.1
      omega
    · exact hget
  · rename_i hroom
    rw [hiff]
    intro hfinal
    by_contra hfull
    exact hroom ⟨hfinal, Int.not_lt.mp hfull⟩

/-- What ends beside a running task in a store with room for one is not kept. -/
theorem get?_replay_beside_running :
    ((empty 1).replay ([.handle ⟨"a", .running, 0, 1, "", ""⟩] ++
      [.handle ⟨"b", .completed, 1, 1, "", ""⟩])).get? "b" = none ∧
    ¬ ∀ (capacity : Int) (history : List Update) (e : Event), 1 ≤ capacity →
      ((empty capacity).replay (history ++ [.handle e])).get? e.taskId = some e := by
  have hgone : ((empty 1).replay ([.handle ⟨"a", .running, 0, 1, "", ""⟩] ++
      [.handle ⟨"b", .completed, 1, 1, "", ""⟩])).get? "b" = none := by decide
  refine ⟨hgone, fun hkept => ?_⟩
  cases hgone.symm.trans (hkept 1 _ ⟨"b", .completed, 1, 1, "", ""⟩ (Int.le_refl 1))

end Store
end Pageflow.Progress
