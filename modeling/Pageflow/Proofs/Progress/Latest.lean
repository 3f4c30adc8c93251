import Mathlib.Data.List.Nodup
import Pageflow.Progress.Bus

/-! The store of the latest events: what becomes of a task's entry when a task is forgotten or
an event of a task is recorded. -/
namespace Pageflow.Progress

theorem lookup_entry (key taskId : String) (e : Event) (rest : List (String × Event)) :
    ((key, e) :: rest).lookup taskId = if taskId = key then some e else rest.lookup taskId := by
  by_cases h : taskId = key
  · simp [h]
  · have hne : (taskId == key) = false := by simpa using h
    rw [List.lookup_cons, hne, if_neg h]

namespace Store

variable {s : Store} {taskId other : String}

theorem get?_forget : (s.forget other).get? taskId =
    if taskId = other then none else s.get? taskId := by
  unfold forget get?
  induction s.entries with
  | nil => simp
  | cons entry rest ih =>
    obtain ⟨key, e⟩ := entry
    by_cases hkey : key = other
    · subst hkey
      rw [List.filter_cons_of_neg (by simp), ih, lookup_entry]
      split <;> rfl
    · rw [List.filter_cons_of_pos (by simpa using hkey), lookup_entry, ih, lookup_entry]
      by_cases htask : taskId = key
      · simp [htask, hkey]
      · simp [htask]

theorem get?_foldl_forget (dropped : List String) : (dropped.foldl forget s).get? taskId =
    if taskId ∈ dropped then none else s.get? taskId := by
  induction dropped generalizing s with
  | nil => rfl
  | cons id rest ih =>
    rw [List.foldl_cons, ih, get?_forget]
    by_cases hid : taskId = id <;> simp [hid]

/-- No task has two entries. -/
def Sound (s : Store) : Prop := (s.entries.map (·.1)).Nodup

theorem sound_empty (capacity : Int) : (empty capacity).Sound := List.nodup_nil

theorem Sound.forget (h : s.Sound) (other : String) : (s.forget other).Sound :=
  h.sublist (List.filter_sublist.map _)

theorem Sound.foldl_forget (h : s.Sound) (dropped : List String) :
    (dropped.foldl Store.forget s).Sound := by
  induction dropped generalizing s with
  | nil => exact h
  | cons id rest ih => exact ih (h.forget id)

/-! ## Recording -/

theorem dropFinal_sublist (n : Nat) (entries : List (String × Event)) :
    (dropFinal n entries).Sublist entries := by
  fun_induction dropFinal n entries with
  | case1 entries => exact List.Sublist.refl _
  | case2 => exact List.Sublist.refl _
  | case3 n key e rest hfinal ih => exact ih.cons _
  | case4 n key e rest hopen ih => exact ih.cons_cons _

/-- What there is of a task after an eviction is what there was, unless its event was final and
has been evicted. -/
theorem lookup_dropFinal (taskId : String) (n : Nat) {entries : List (String × Event)}
    (h : (entries.map (·.1)).Nodup) :
    (dropFinal n entries).lookup taskId = entries.lookup taskId ∨
      ∃ e, entries.lookup taskId = some e ∧ e.status.isFinal = true ∧
        (dropFinal n entries).lookup taskId = none := by
  fun_induction dropFinal n entries with
  | case1 | case2 => exact .inl rfl
  | case3 n key e rest hfinal ih =>
    obtain ⟨hnew, hrest⟩ := List.nodup_cons.mp h
    rw [lookup_entry]
    split
    · rename_i htask
      subst htask
      refine .inr ⟨e, rfl, hfinal, List.lookup_eq_none_iff.mpr fun entry hentry => ?_⟩
      have hmem := List.mem_map_of_mem (f := (·.1)) ((dropFinal_sublist n rest).subset hentry)
      simpa using fun heq : taskId = entry.1 => hnew (heq ▸ hmem)
    · exact ih hrest
  | case4 n key e rest hopen ih =>
    obtain ⟨-, hrest⟩ := List.nodup_cons.mp h
    rw [lookup_entry, lookup_entry]
    split
    · exact .inl rfl
    · exact ih hrest

variable {e : Event}

theorem Sound.append (h : s.Sound) (e : Event) :
    Sound { s.forget e.taskId with
      entries := (s.forget e.taskId).entries ++ [(e.taskId, e)] } := by
  unfold Sound
  rw [List.map_append, List.map_singleton, ← List.concat_eq_append]
  refine List.Nodup.concat ?_ (h.forget e.taskId)
  simp [Store.forget]

theorem Sound.record (h : s.Sound) (e : Event) : (s.record e).Sound :=
  (h.append e).sublist ((dropFinal_sublist _ _).map _)

theorem get?_append (s : Store) (e : Event) (taskId : String) : Store.get? { s.forget e.taskId with
      entries := (s.forget e.taskId).entries ++ [(e.taskId, e)] } taskId =
    if taskId = e.taskId then some e else s.get? taskId := by
  have hforget : (s.forget e.taskId).get? taskId =
    if taskId = e.taskId then none else s.get? taskId := get?_forget
  unfold get? at hforget ⊢
  rw [List.lookup_append, hforget, lookup_entry]
  split <;> simp

/-- The task of an event has this event then, unless it was evicted at once. -/
theorem Sound.get?_record_self (h : s.Sound) : (s.record e).get? e.taskId = some e ∨
    e.status.isFinal = true ∧ (s.record e).get? e.taskId = none := by
  have happend := get?_append s e e.taskId
  rw [if_pos rfl] at happend
  rcases lookup_dropFinal e.taskId _ (h.append e) with hsame | ⟨e', he', hfinal, hgone⟩
  · exact .inl (hsame.trans happend)
  · obtain rfl : e' = e := Option.some.inj (he'.symm.trans happend)
    exact .inr ⟨hfinal, hgone⟩

theorem Sound.get?_record_of_ne (h : s.Sound) (hne : taskId ≠ e.taskId) :
    (s.record e).get? taskId = s.get? taskId ∨
      ∃ e', s.get? taskId = some e' ∧ e'.status.isFinal = true ∧
        (s.record e).get? taskId = none := by
  have happend := get?_append s e taskId
  rw [if_neg hne] at happend
  rcases lookup_dropFinal taskId _ (h.append e) with hsame | ⟨e', he', hfinal, hgone⟩
  · exact .inl (hsame.trans happend)
  · exact .inr ⟨e', happend.symm.trans he', hfinal, hgone⟩

end Store
end Pageflow.Progress
