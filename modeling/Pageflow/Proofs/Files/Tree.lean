import Pageflow.Files.Tree
import Mathlib.Data.List.Basic

/-! What writing a file changes: the file itself, and directories on the way to it that were
not there. -/
namespace Pageflow.FileTree

variable {α : Type} {t t' : FileTree α} {p q : Path}

/-- The file `p` was written, and whatever else was there before still is. -/
structure Wrote (p : Path) (content : α) (t t' : FileTree α) : Prop where
  written : t'.get? p = some (.file content)
  others : ∀ q ≠ p, t'.get? q = t.get? q ∨
    q ∈ ancestors p ∧ t.get? q = none ∧ t'.get? q = some .directory

theorem find?_put (t : FileTree α) (p q : Path) (e : Entry α) :
    (t.put p e).entries.find? (fun x => decide (x.1 = q)) =
      if q = p then some (p, e) else t.entries.find? fun x => decide (x.1 = q) := by
  rw [put]
  split
  · rename_i hany
    have hkeys : (fun x : Path × Entry α => decide (x.1 = q)) ∘
        (fun x => if x.1 = p then (p, e) else x) = fun x => decide (x.1 = q) := by
      funext x
      by_cases hx : x.1 = p <;> simp [hx]
    rw [List.find?_map, hkeys]
    cases hfind : t.entries.find? fun x => decide (x.1 = q) with
    | none =>
      have hq : q ≠ p := by
        rintro rfl
        exact absurd (List.find?_isSome.mpr (List.any_eq_true.mp hany)) (by simp [hfind])
      simp [hq]
    | some x =>
      have hx : x.1 = q := by simpa using List.find?_some hfind
      by_cases hq : q = p <;> simp [hx, hq]
  · rename_i hany
    by_cases hq : q = p
    · subst hq
      have hnone : t.entries.find? (fun x => decide (x.1 = q)) = none :=
        List.find?_eq_none.mpr fun x hx h => hany (List.any_eq_true.mpr ⟨x, hx, h⟩)
      simp [List.find?_append, hnone]
    · simp [List.find?_append, hq, Ne.symm hq]

theorem get?_put_self (t : FileTree α) (hp : p.parts ≠ []) (e : Entry α) :
    (t.put p e).get? p = some e := by
  simp [get?, hp, find?_put]

theorem get?_put_of_ne (t : FileTree α) (e : Entry α) (h : q ≠ p) :
    (t.put p e).get? q = t.get? q := by
  simp [get?, h, find?_put]

/-- Making directories one after another leaves alone what is there. -/
theorem get?_foldl_directories (paths : List Path) (t : FileTree α) (q : Path) :
    let made := paths.foldl (fun t q => if (t.get? q).isNone then t.put q .directory else t) t
    made.get? q = t.get? q ∨ q ∈ paths ∧ t.get? q = none ∧ made.get? q = some .directory := by
  induction paths generalizing t with
  | nil => exact .inl rfl
  | cons p paths ih =>
    simp only [List.foldl_cons]
    split
    · rename_i hnone
      have hp : t.get? p = none := by simpa using hnone
      by_cases hq : q = p
      · -- made once, it is there for the directories after it
        subst hq
        have hroot : q.parts ≠ [] := fun h => by simp [get?, h] at hp
        have hmade := get?_put_self t hroot (.directory : Entry α)
        rcases ih (t.put q .directory) with h | ⟨-, hgone, -⟩
        · exact .inr ⟨List.mem_cons_self, hp, h.trans hmade⟩
        · rw [hmade] at hgone
          cases hgone
      · rcases ih (t.put p .directory) with h | ⟨hmem, hnone, hdir⟩ <;>
          rw [get?_put_of_ne t _ hq] at *
        · exact .inl h
        · exact .inr ⟨List.mem_cons_of_mem p hmem, hnone, hdir⟩
    · rcases ih t with h | ⟨hmem, h⟩
      · exact .inl h
      · exact .inr ⟨List.mem_cons_of_mem p hmem, h⟩

theorem get?_makeDirectory (h : t.makeDirectory p = .ok t') (q : Path) :
    t'.get? q = t.get? q ∨
      q ∈ ancestors p ++ [p] ∧ t.get? q = none ∧ t'.get? q = some .directory := by
  unfold makeDirectory at h
  split at h
  · cases h
  split at h
  · cases h
  · cases h
    exact get?_foldl_directories _ t q

theorem mem_ancestors : q ∈ ancestors p ↔
    ∃ n, 0 < n ∧ n < p.parts.length ∧ q = ⟨p.root, p.parts.take n⟩ := by
  simp only [ancestors, List.mem_map, List.tail_range, List.mem_range'_1]
  constructor
  · rintro ⟨n, hn, rfl⟩
    exact ⟨n, by omega, by omega, rfl⟩
  · rintro ⟨n, h0, hn, rfl⟩
    exact ⟨n, by omega, rfl⟩

theorem mem_ancestors_of_parent (hq : q.parts ≠ []) (h : q ∈ ancestors p.parent ++ [p.parent]) :
    q ∈ ancestors p := by
  rw [mem_ancestors]
  simp only [List.mem_append, mem_ancestors, List.mem_singleton, Path.parent,
    List.length_dropLast] at h
  rcases h with ⟨n, h0, hn, rfl⟩ | rfl
  · exact ⟨n, h0, by omega, by simp [List.dropLast_eq_take, List.take_take]; omega⟩
  · have hlen : 0 < p.parts.dropLast.length := List.length_pos_iff.mpr hq
    rw [List.length_dropLast] at hlen
    exact ⟨p.parts.length - 1, hlen, by omega, by simp [List.dropLast_eq_take]⟩

theorem wrote_of_write {content : α} (h : t.write p content = .ok t') :
    p.parts ≠ [] ∧ Wrote p content t t' := by
  simp only [write, bind, Except.bind] at h
  split at h
  · cases h
  rename_i made hmade
  split at h
  · cases h
  split at h
  · cases h
  rename_i hdirectory
  cases h
  have hp : p.parts ≠ [] := fun h => hdirectory (by simp [isDirectory, get?, h])
  refine ⟨hp, get?_put_self made hp _, fun q hq => ?_⟩
  rw [get?_put_of_ne made _ hq]
  rcases get?_makeDirectory hmade q with h | ⟨hmem, hnone, hdir⟩
  · exact .inl h
  · have hroot : q.parts ≠ [] := fun h => by simp [get?, h] at hnone
    exact .inr ⟨mem_ancestors_of_parent hroot hmem, hnone, hdir⟩

end Pageflow.FileTree
