import Mathlib.Data.List.DropRight
import Mathlib.Data.List.Infix
import Pageflow.Text.Blank
import Pageflow.Text.Parts
/-! Finding a word in a text: it stands at the start exactly if it is a prefix, and somewhere
exactly if it is an infix; a text is cut at the first place where it stands. Cutting a text at one
character and joining the pieces again undo each other, as long as no piece holds the character.
Trimming a text leaves a part of it, whose two ends stay. -/
namespace Pageflow.Text

variable {word cs rest : List Char}

theorem dropWord?_eq_some_iff : dropWord? word cs = some rest ↔ cs = word ++ rest := by
  induction word generalizing cs with
  | nil => simp [dropWord?]
  | cons w word ih =>
    cases cs with
    | nil => simp [dropWord?]
    | cons c cs =>
      rw [dropWord?]
      split
      · rename_i heq
        rw [ih, heq, List.cons_append, List.cons_inj_right]
      · rename_i hne
        simp [Ne.symm hne]

theorem dropWord?_isSome_iff : (dropWord? word cs).isSome ↔ word <+: cs := by
  rw [Option.isSome_iff_exists]
  exact exists_congr fun rest => dropWord?_eq_some_iff.trans eq_comm

theorem dropWord?_eq_none_iff : dropWord? word cs = none ↔ ¬ word <+: cs := by
  rw [← dropWord?_isSome_iff, Option.not_isSome_iff_eq_none]

theorem hasPart_iff : hasPart word cs = true ↔ word <:+: cs := by
  induction cs with
  | nil => simp [hasPart]
  | cons c cs ih => rw [hasPart, Bool.or_eq_true, dropWord?_isSome_iff, ih, List.infix_cons_iff]

/-- A run of characters of a set ends where a character outside of it follows. -/
theorem takeWhile_dropWhile_run {p : Char → Bool} {run tail : List Char} {c : Char}
    (hrun : ∀ c ∈ run, p c = true) (hc : p c = false) :
    (run ++ c :: tail).takeWhile p = run ∧ (run ++ c :: tail).dropWhile p = c :: tail := by
  rw [List.takeWhile_append_of_pos hrun, List.dropWhile_append_of_pos hrun]
  simp [hc]

end Pageflow.Text

/-! ## Cutting and joining -/
namespace Pageflow.Text

/-- `mark` stands between `before` and `after`, and nowhere earlier. -/
structure CutAt (mark cs before after : List Char) : Prop where
  eq : cs = before ++ (mark ++ after)
  first : ∀ before' after', cs = before' ++ (mark ++ after') → before.length ≤ before'.length

theorem cutAt?_eq_some_iff {mark cs before after : List Char} :
    cutAt? mark cs = some (before, after) ↔ CutAt mark cs before after := by
  induction cs generalizing before with
  | nil =>
    have hnil : CutAt mark [] before after ↔ mark = [] ∧ before = [] ∧ after = [] := by
      constructor
      · intro h
        simpa [and_left_comm] using h.eq
      · rintro ⟨rfl, rfl, rfl⟩
        exact ⟨rfl, fun _ _ _ => Nat.zero_le _⟩
    rw [hnil, cutAt?]
    cases mark with
    | nil => simp [eq_comm]
    | cons m mark => simp
  | cons c cs ih =>
    rw [cutAt?]
    split
    · rename_i rest hrest
      rw [dropWord?_eq_some_iff] at hrest
      constructor
      · rintro ⟨⟩
        exact ⟨hrest, fun _ _ _ => Nat.zero_le _⟩
      · intro h
        obtain rfl := List.eq_nil_of_length_eq_zero (Nat.le_zero.mp (h.first [] rest hrest))
        rw [hrest] at h
        rw [List.append_cancel_left h.eq]
    · rename_i hnone
      rw [dropWord?_eq_none_iff] at hnone
      constructor
      · intro h
        obtain ⟨⟨before, _⟩, hcut, ⟨⟩⟩ := Option.map_eq_some_iff.mp h
        have hinner := ih.mp hcut
        refine ⟨congrArg (c :: ·) hinner.eq, fun before' after' heq => ?_⟩
        cases before' with
        | nil => exact absurd ⟨after', heq.symm⟩ hnone
        | cons b before' =>
          exact Nat.succ_le_succ (hinner.first before' after' (List.cons.inj heq).2)
      · intro h
        cases before with
        | nil => exact absurd ⟨after, h.eq.symm⟩ hnone
        | cons b before =>
          obtain ⟨rfl, heq⟩ := List.cons.inj h.eq
          refine Option.map_eq_some_iff.mpr ⟨(before, after), ih.mpr ⟨heq, ?_⟩, rfl⟩
          intro before' after' heq'
          exact Nat.le_of_succ_le_succ (h.first (c :: before') after' (congrArg (c :: ·) heq'))

theorem CutAt.unique {mark cs before after before' after' : List Char}
    (h : CutAt mark cs before after) (h' : CutAt mark cs before' after') :
    before = before' ∧ after = after' := by
  rw [← cutAt?_eq_some_iff] at h h'
  exact Prod.mk.inj (Option.some.inj (h.symm.trans h'))

theorem cutAt?_eq_none_iff {mark cs : List Char} : cutAt? mark cs = none ↔ ¬ mark <:+: cs := by
  induction cs with
  | nil => cases mark <;> simp [cutAt?]
  | cons c cs ih =>
    rw [cutAt?, List.infix_cons_iff, ← dropWord?_isSome_iff, not_or, ← ih]
    cases dropWord? mark (c :: cs) <;> simp

theorem splitChars_eq_splitOn (mark : Char) (cs : List Char) :
    splitChars mark cs = cs.splitOn mark := by
  induction cs with
  | nil => simp [splitChars, List.splitOn_nil]
  | cons c cs ih =>
    rw [List.splitOn_cons_eq_if_modifyHead, splitChars, ih]
    cases hpieces : cs.splitOn mark with
    | nil => exact absurd hpieces (List.splitOn_ne_nil mark cs)
    | cons piece pieces => simp

theorem splitChars_cons_mark (mark : Char) (cs : List Char) :
    splitChars mark (mark :: cs) = [] :: splitChars mark cs := by
  rw [splitChars_eq_splitOn, splitChars_eq_splitOn, List.splitOn_cons_eq_if_modifyHead]
  simp

theorem splitChars_append_mark (mark : Char) (cs ds : List Char) :
    splitChars mark (cs ++ mark :: ds) = splitChars mark cs ++ splitChars mark ds := by
  rw [splitChars_eq_splitOn, splitChars_eq_splitOn, splitChars_eq_splitOn]
  exact List.splitOn_append_cons_self cs ds

/-- A piece is made of characters of the text other than the one it was cut at. -/
theorem forall_mem_splitChars (mark : Char) (cs : List Char) :
    ∀ piece ∈ splitChars mark cs, mark ∉ piece ∧ piece ⊆ cs := by
  induction cs with
  | nil => simp [splitChars]
  | cons c cs ih =>
    rw [splitChars]
    cases hpieces : splitChars mark cs with
    | nil => simp [splitChars_eq_splitOn, List.splitOn_ne_nil] at hpieces
    | cons piece pieces =>
      rw [hpieces, List.forall_mem_cons] at ih
      have hrest : ∀ p ∈ pieces, mark ∉ p ∧ p ⊆ c :: cs := fun p hp =>
        ⟨(ih.2 p hp).1, List.subset_cons_of_subset c (ih.2 p hp).2⟩
      by_cases h : c = mark
      · simpa [h, ih.1.1] using ⟨List.subset_cons_of_subset mark ih.1.2, h ▸ hrest⟩
      · simpa [h, Ne.symm h, ih.1.1] using ⟨List.subset_cons_of_subset c ih.1.2, hrest⟩

theorem splitChars_join {mark : Char} {pieces : List String} (hne : pieces ≠ [])
    (h : ∀ p ∈ pieces, mark ∉ p.toList) :
    splitChars mark (join (String.singleton mark) pieces).toList = pieces.map String.toList := by
  rw [splitChars_eq_splitOn, join, String.toList_intercalate, String.toList_singleton]
  exact List.splitOn_intercalate mark (by simpa using h) (by simpa using hne)

theorem mem_join {mark : String} {pieces : List String} {c : Char}
    (h : c ∈ (join mark pieces).toList) : c ∈ mark.toList ∨ ∃ p ∈ pieces, c ∈ p.toList := by
  induction pieces with
  | nil => simp [join] at h
  | cons p rest ih =>
    cases rest with
    | nil => exact .inr ⟨p, by simp, by simpa [join] using h⟩
    | cons q rest =>
      simp only [join, String.intercalate_cons_cons, String.toList_append, List.mem_append] at h ih
      grind

/-! ## Trimming -/

variable {p : Char → Bool} {cs : List Char} {c : Char}

theorem trimBy_isPrefix (p : Char → Bool) (cs : List Char) : trimBy p cs <+: cs.dropWhile p :=
  List.rdropWhile_prefix p (cs.dropWhile p)

theorem trimBy_subset (p : Char → Bool) (cs : List Char) : trimBy p cs ⊆ cs :=
  fun _ hc => (List.dropWhile_suffix p).subset ((trimBy_isPrefix p cs).subset hc)

/-- A text that is trimmed begins with a character that stays. -/
theorem head?_trimBy (h : (trimBy p cs).head? = some c) : p c = false := by
  obtain ⟨rest, hrest⟩ := trimBy_isPrefix p cs
  have hnot := List.head?_dropWhile_not p cs
  rw [← hrest, List.head?_append_of_ne_nil _ (by rintro hnil; simp [hnil] at h), h] at hnot
  simpa using hnot

/-- Nothing is trimmed of a text whose two ends stay. -/
theorem trimBy_eq_self (hhead : ∀ c, cs.head? = some c → p c = false)
    (hlast : ∀ c, cs.getLast? = some c → p c = false) : trimBy p cs = cs := by
  have hfront : cs.dropWhile p = cs := by
    rw [List.dropWhile_eq_self_iff]
    intro hl
    have := hhead _ (List.head?_eq_getElem? ▸ List.getElem?_eq_getElem hl)
    simpa using this
  rw [trimBy, hfront]
  refine List.rdropWhile_eq_self_iff.mpr fun hl => ?_
  have := hlast _ (List.getLast?_eq_some_getLast hl)
  simpa using this

theorem trimBy_cons_of_pos (hc : p c = true) (cs : List Char) :
    trimBy p (c :: cs) = trimBy p cs := by
  rw [trimBy, List.dropWhile_cons_of_pos hc, trimBy]

theorem dropWhile_append_cons (hc : p c = false) (before after : List Char) :
    (before ++ c :: after).dropWhile p = before.dropWhile p ++ c :: after := by
  rw [List.dropWhile_append, List.dropWhile_cons_of_neg (by simp [hc])]
  split
  · rename_i hempty
    rw [List.isEmpty_iff.mp hempty, List.nil_append]
  · rfl

theorem rdropWhile_append_cons (hc : p c = false) (before after : List Char) :
    (before ++ c :: after).rdropWhile p = before ++ c :: after.rdropWhile p := by
  unfold List.rdropWhile
  rw [List.reverse_append, List.reverse_cons, List.append_assoc, List.singleton_append,
    dropWhile_append_cons hc]
  simp

/-- What begins and ends with a character that stays is not touched by trimming what follows. -/
theorem trimBy_append {d : Char} {middle tail : List Char} (hc : p c = false) (hd : p d = false) :
    trimBy p (c :: (middle ++ d :: tail)) = c :: (middle ++ d :: trimEndBy p tail) := by
  rw [trimBy, List.dropWhile_cons_of_neg (by simp [hc])]
  exact rdropWhile_append_cons hd (c :: middle) tail

/-- Trimming the end first changes nothing. -/
theorem trimBy_trimEndBy (p : Char → Bool) (cs : List Char) :
    trimBy p (trimEndBy p cs) = trimBy p cs := by
  cases hcore : cs.dropWhile p with
  | nil =>
    have hall := List.dropWhile_eq_nil_iff.mp hcore
    rw [trimBy, trimBy, hcore, show trimEndBy p cs = [] from List.rdropWhile_eq_nil_iff.mpr hall]
    rfl
  | cons c rest =>
    have hc : p c = false := by
      have := List.head?_dropWhile_not p cs
      simpa [hcore] using this
    have hcs : cs = cs.takeWhile p ++ c :: rest := by
      rw [← hcore, List.takeWhile_append_dropWhile]
    have hend : trimEndBy p cs = cs.takeWhile p ++ c :: trimEndBy p rest := by
      conv => lhs; rw [hcs]
      exact rdropWhile_append_cons hc _ _
    have hstart : (cs.takeWhile p).dropWhile p = [] :=
      List.dropWhile_eq_nil_iff.mpr fun d => List.mem_takeWhile_imp
    have htrim : ∀ tail, trimEndBy p (c :: tail) = c :: trimEndBy p tail :=
      rdropWhile_append_cons hc []
    rw [hend, trimBy, trimBy, hcore, dropWhile_append_cons hc, hstart, List.nil_append, htrim,
      htrim]
    exact congrArg (c :: ·) (List.rdropWhile_idempotent p rest)

end Pageflow.Text
