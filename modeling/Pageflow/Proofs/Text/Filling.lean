import Mathlib.Data.List.Pairwise
import Mathlib.Tactic.Linarith
import Mathlib.Tactic.Ring
import Pageflow.Proofs.Text.Parts

/-! Putting values in for the marks of a text. Filling all slots in one pass never looks at what
was put in; filling them one after the other does. Where the marks begin with a character that
none of them has again, both agree exactly as long as no value forges the mark of a later slot. -/
namespace Pageflow.Text

/-- A value that is put in wherever the mark occurs. -/
structure Slot where
  mark : List Char
  value : List Char
deriving DecidableEq

/-- Fills all slots in one pass from left to right; `skip` counts the characters of a replaced
mark still to be passed over. -/
def fillFrom (slots : List Slot) : (skip : Nat) → List Char → List Char
  | _, [] => []
  | skip + 1, _ :: cs => fillFrom slots skip cs
  | 0, c :: cs =>
    match slots.find? (·.mark.isPrefixOf (c :: cs)) with
    | some s => s.value ++ fillFrom slots (s.mark.length - 1) cs
    | none => c :: fillFrom slots 0 cs

/-- The text with every occurrence of a mark replaced by the value of its slot. -/
def fill (slots : List Slot) (cs : List Char) : List Char := fillFrom slots 0 cs

/-- The text with the slots filled one after the other, each in what the ones before left. -/
def fillInTurn (slots : List Slot) (cs : List Char) : List Char :=
  slots.foldl (fun text s => replaceFrom s.mark s.value 0 text) cs

/-- The mark begins with `lead` and has it nowhere else. -/
def Leads (lead : Char) (mark : List Char) : Prop := ∃ rest, mark = lead :: rest ∧ lead ∉ rest

/-- Neither mark begins the other one. -/
def Slot.Clears (s t : Slot) : Prop := ¬ s.mark <+: t.mark ∧ ¬ t.mark <+: s.mark

/-- Slots whose marks cannot overlap, in no text. -/
structure Apart (lead : Char) (slots : List Slot) : Prop where
  leads : ∀ s ∈ slots, Leads lead s.mark
  clears : slots.Pairwise Slot.Clears

/-- How often `mark` occurs in the text. -/
def occurrences (mark cs : List Char) : Nat := cs.tails.countP (mark.isPrefixOf ·)

/-- No slot meets a mark of its own that the text did not have: what is filled before it neither
brings the mark in nor completes it. A slot that puts its own mark back cannot do harm. -/
def Unforged (slots : List Slot) (cs : List Char) : Prop :=
  ∀ n : Fin slots.length, slots[n].value = slots[n].mark ∨
    occurrences slots[n].mark (fill (slots.take n) cs) = occurrences slots[n].mark cs

instance : Std.Symm Slot.Clears := ⟨fun _ _ h => h.symm⟩

instance (slots : List Slot) (cs : List Char) : Decidable (Unforged slots cs) :=
  inferInstanceAs (Decidable (∀ _ : Fin slots.length, _ ∨ _))

variable {lead c : Char} {mark xs ys cs : List Char} {slots : List Slot} {s : Slot}

/-! ## Occurrences of a mark -/

/-- A mark that begins before another `lead` ends before it. -/
theorem isPrefix_append_lead (hmark : Leads lead mark) :
    mark <+: c :: xs ++ lead :: ys ↔ mark <+: c :: xs := by
  obtain ⟨rest, rfl, hrest⟩ := hmark
  refine ⟨fun h => ?_, fun h => h.trans (List.prefix_append _ _)⟩
  obtain hshort | hlong := List.prefix_or_prefix_of_prefix h (List.prefix_append (c :: xs) _)
  · exact hshort
  · obtain ⟨more, hmore⟩ := hlong
    have hrest' : rest = xs ++ more := (List.cons.inj hmore).2.symm
    rw [← hmore, List.prefix_append_right_inj] at h
    cases more with
    | nil => rw [← hmore, List.append_nil]
    | cons d more =>
      obtain rfl : d = lead := (List.cons_prefix_cons.mp h).1
      exact absurd (by simp [hrest']) hrest

theorem occurrences_nil (hmark : Leads lead mark) : occurrences mark [] = 0 := by
  obtain ⟨rest, rfl, -⟩ := hmark
  rfl

theorem occurrences_cons (mark : List Char) (c : Char) (cs : List Char) :
    occurrences mark (c :: cs) = occurrences mark cs + if mark <+: c :: cs then 1 else 0 := by
  simp [occurrences, List.countP_cons]

theorem occurrences_le_append (mark xs cs : List Char) :
    occurrences mark cs ≤ occurrences mark (xs ++ cs) := by
  induction xs with
  | nil => rfl
  | cons c xs ih =>
    rw [List.cons_append, occurrences_cons]
    omega

theorem occurrences_append_lead (hmark : Leads lead mark) :
    occurrences mark (xs ++ lead :: ys) = occurrences mark xs + occurrences mark (lead :: ys) := by
  induction xs with
  | nil => simp [occurrences_nil hmark]
  | cons c xs ih =>
    rw [List.cons_append, occurrences_cons, occurrences_cons, ih, ← List.cons_append]
    simp only [isPrefix_append_lead hmark]
    omega

theorem occurrences_append_of_notMem (hmark : Leads lead mark) (hxs : lead ∉ xs) :
    occurrences mark (xs ++ cs) = occurrences mark cs := by
  obtain ⟨rest, rfl, -⟩ := hmark
  induction xs with
  | nil => rfl
  | cons c xs ih =>
    obtain ⟨hc, hxs⟩ := not_or.mp (mt List.mem_cons.mpr hxs)
    rw [List.cons_append, occurrences_cons, ih hxs, if_neg, Nat.add_zero]
    exact fun h => hc (List.cons_prefix_cons.mp h).1

theorem occurrences_self_append (hmark : Leads lead mark) :
    occurrences mark (mark ++ cs) = occurrences mark cs + 1 := by
  have hbegins := List.prefix_append mark cs
  obtain ⟨rest, rfl, hrest⟩ := id hmark
  rw [List.cons_append] at hbegins ⊢
  rw [occurrences_cons, occurrences_append_of_notMem hmark hrest, if_pos hbegins]

theorem occurrences_append_mark (hmark : Leads lead mark) (xs ys : List Char) :
    occurrences mark (xs ++ (mark ++ ys)) = occurrences mark xs + (occurrences mark ys + 1) := by
  rw [← occurrences_self_append hmark]
  obtain ⟨rest, hrest, -⟩ := id hmark
  rw [hrest, List.cons_append, ← hrest, occurrences_append_lead hmark]

/-- A text without the mark, or the text up to its first occurrence and the text after it. -/
theorem exists_first_occurrence (hmark : Leads lead mark) (cs : List Char) :
    occurrences mark cs = 0 ∨
      ∃ xs ys, cs = xs ++ (mark ++ ys) ∧ occurrences mark xs = 0 := by
  induction cs with
  | nil => exact .inl (occurrences_nil hmark)
  | cons c cs ih =>
    by_cases hbegins : mark <+: c :: cs
    · obtain ⟨ys, hys⟩ := hbegins
      exact .inr ⟨[], ys, hys.symm, occurrences_nil hmark⟩
    · obtain hnone | ⟨xs, ys, rfl, hxs⟩ := ih
      · exact .inl (by rw [occurrences_cons, hnone, if_neg hbegins])
      · refine .inr ⟨c :: xs, ys, rfl, ?_⟩
        rw [occurrences_cons, hxs, if_neg]
        exact fun h => hbegins (h.trans (List.prefix_append (c :: xs) _))

/-- Induction on the occurrences of a mark, from the last one to the first. -/
theorem occurrence_induction (hmark : Leads lead mark) {motive : List Char → Prop}
    (clear : ∀ cs, occurrences mark cs = 0 → motive cs)
    (found : ∀ xs ys, occurrences mark xs = 0 → motive ys → motive (xs ++ (mark ++ ys)))
    (cs : List Char) : motive cs := by
  induction hlength : cs.length using Nat.strong_induction_on generalizing cs with
  | h n ih =>
    obtain hnone | ⟨xs, ys, rfl, hxs⟩ := exists_first_occurrence hmark cs
    · exact clear cs hnone
    · refine found xs ys hxs (ih ys.length ?_ ys rfl)
      obtain ⟨rest, rfl, -⟩ := hmark
      simp only [List.length_append, List.length_cons] at hlength
      omega

/-! ## Filling in one pass -/

namespace Apart

theorem sublist {slots' : List Slot} (h : Apart lead slots) (hsub : slots'.Sublist slots) :
    Apart lead slots' :=
  ⟨fun s hs => h.leads s (hsub.subset hs), h.clears.sublist hsub⟩

theorem perm {slots' : List Slot} (h : Apart lead slots) (hperm : slots'.Perm slots) :
    Apart lead slots' :=
  ⟨fun s hs => h.leads s (hperm.mem_iff.mp hs),
    (hperm.pairwise_iff fun hst => hst.symm).mpr h.clears⟩

/-- At one place of a text at most one mark stands. -/
theorem eq_of_isPrefix {t : Slot} (h : Apart lead slots) (hs : s ∈ slots) (ht : t ∈ slots)
    (hscs : s.mark <+: cs) (htcs : t.mark <+: cs) : s = t := by
  by_contra hne
  obtain ⟨hst, hts⟩ := h.clears.forall hs ht hne
  obtain hbegins | hbegins := List.prefix_or_prefix_of_prefix hscs htcs
  · exact hst hbegins
  · exact hts hbegins

end Apart

theorem fillFrom_eq_fill_drop (slots : List Slot) (skip : Nat) (cs : List Char) :
    fillFrom slots skip cs = fill slots (cs.drop skip) := by
  induction cs generalizing skip with
  | nil => simp [fill, fillFrom]
  | cons c cs ih =>
    cases skip with
    | zero => rfl
    | succ skip => exact ih skip

theorem fill_cons (h : ∀ s ∈ slots, ¬ s.mark <+: c :: cs) :
    fill slots (c :: cs) = c :: fill slots cs := by
  have hnone : slots.find? (·.mark.isPrefixOf (c :: cs)) = none := by simpa using h
  simp only [fill, fillFrom, hnone]

theorem fill_mark_append (h : Apart lead slots) (hs : s ∈ slots) (cs : List Char) :
    fill slots (s.mark ++ cs) = s.value ++ fill slots cs := by
  have hbegins := List.prefix_append s.mark cs
  obtain ⟨rest, hmark, -⟩ := h.leads s hs
  have hsome : slots.find? (·.mark.isPrefixOf (s.mark ++ cs)) = some s := by
    cases hfind : slots.find? (·.mark.isPrefixOf (s.mark ++ cs)) with
    | none => simpa using List.find?_eq_none.mp hfind s hs
    | some t =>
      have ht : t.mark <+: s.mark ++ cs := by simpa using List.find?_some hfind
      rw [h.eq_of_isPrefix (List.mem_of_find?_eq_some hfind) hs ht hbegins]
  rw [hmark, List.cons_append] at hsome ⊢
  simp only [fill, fillFrom, hsome]
  rw [fillFrom_eq_fill_drop, hmark, List.length_cons, Nat.add_sub_cancel, List.drop_left, fill]

/-- Induction on the passes of `fill`: the text is empty, goes on with a mark, or with a
character at which no mark stands. -/
theorem fill_induction (h : Apart lead slots) {motive : List Char → Prop} (nil : motive [])
    (mark : ∀ s ∈ slots, ∀ cs, motive cs → motive (s.mark ++ cs))
    (char : ∀ c cs, (∀ s ∈ slots, ¬ s.mark <+: c :: cs) → motive cs → motive (c :: cs))
    (cs : List Char) : motive cs := by
  induction hlength : cs.length using Nat.strong_induction_on generalizing cs with
  | h n ih =>
    subst hlength
    cases cs with
    | nil => exact nil
    | cons c cs =>
      by_cases hmark : ∃ s ∈ slots, s.mark <+: c :: cs
      · obtain ⟨s, hs, rest, hrest⟩ := hmark
        obtain ⟨_, hlead, -⟩ := h.leads s hs
        rw [← hrest]
        refine mark s hs rest (ih _ ?_ rest rfl)
        rw [← hrest, hlead, List.length_append, List.length_cons]
        omega
      · exact char c cs (by simpa using hmark) (ih _ (Nat.lt_succ_self _) cs rfl)

theorem fill_append_lead (h : Apart lead slots) (xs ys : List Char) :
    fill slots (xs ++ lead :: ys) = fill slots xs ++ fill slots (lead :: ys) := by
  induction xs using fill_induction h with
  | nil => rfl
  | mark s hs cs ih =>
    rw [List.append_assoc, fill_mark_append h hs, fill_mark_append h hs, ih, List.append_assoc]
  | char c cs hclear ih =>
    rw [List.cons_append, fill_cons, fill_cons hclear, ih, List.cons_append]
    exact fun s hs hbegins => hclear s hs ((isPrefix_append_lead (h.leads s hs)).mp hbegins)

theorem fill_append_of_notMem (h : Apart lead slots) (hxs : lead ∉ xs) (cs : List Char) :
    fill slots (xs ++ cs) = xs ++ fill slots cs := by
  induction xs with
  | nil => rfl
  | cons c xs ih =>
    obtain ⟨hc, hxs⟩ := not_or.mp (mt List.mem_cons.mpr hxs)
    rw [List.cons_append, fill_cons, ih hxs, List.cons_append]
    intro s hs hbegins
    obtain ⟨_, hmark, -⟩ := h.leads s hs
    rw [hmark] at hbegins
    exact hc (List.cons_prefix_cons.mp hbegins).1

/-- In which order the slots are listed does not matter to one pass. -/
theorem fill_perm {slots' : List Slot} (h : Apart lead slots) (hperm : slots'.Perm slots)
    (cs : List Char) : fill slots' cs = fill slots cs := by
  have h' := h.perm hperm
  induction cs using fill_induction h with
  | nil => rfl
  | mark s hs cs ih =>
    rw [fill_mark_append h hs, fill_mark_append h' (hperm.mem_iff.mpr hs), ih]
  | char c cs hclear ih =>
    rw [fill_cons hclear, fill_cons (fun s hs => hclear s (hperm.mem_iff.mp hs)), ih]

theorem replaceFrom_eq_fillFrom (s : Slot) (skip : Nat) (cs : List Char) :
    replaceFrom s.mark s.value skip cs = fillFrom [s] skip cs := by
  induction cs generalizing skip with
  | nil => cases skip <;> rfl
  | cons c cs ih =>
    cases skip with
    | succ skip => exact ih skip
    | zero =>
      rw [replaceFrom, fillFrom]
      cases hword : dropWord? s.mark (c :: cs) with
      | none =>
        have hbegins := dropWord?_eq_none_iff.mp hword
        have hnone : [s].find? (·.mark.isPrefixOf (c :: cs)) = none := by simpa using hbegins
        simp only [hnone, ih]
      | some rest =>
        have hbegins := dropWord?_isSome_iff.mp (Option.isSome_of_eq_some hword)
        have hsome : [s].find? (·.mark.isPrefixOf (c :: cs)) = some s := by simpa using hbegins
        simp only [hsome, ih]

/-! ## One more slot -/

section

variable {filled : List Slot}

/-- The slots filled before leave the marks of the next one where they are. -/
theorem fill_append_mark (h : Apart lead (filled ++ [s])) (xs ys : List Char) :
    fill filled (xs ++ (s.mark ++ ys)) = fill filled xs ++ (s.mark ++ fill filled ys) := by
  have hfilled := h.sublist (List.sublist_append_left filled [s])
  obtain ⟨rest, hmark, hrest⟩ := h.leads s (by simp)
  have hcopied : fill filled (s.mark ++ ys) = s.mark ++ fill filled ys := by
    rw [hmark, List.cons_append, fill_cons, fill_append_of_notMem hfilled hrest, List.cons_append]
    intro t ht hbegins
    have hst : t ≠ s := by
      rintro rfl
      exact ((List.pairwise_append.mp h.clears).2.2 t ht t (by simp)).1 (List.prefix_refl _)
    refine hst (h.eq_of_isPrefix (by simp [ht]) (by simp) hbegins ?_)
    rw [← List.cons_append, ← hmark]
    exact List.prefix_append _ _
  rw [← hcopied, hmark, List.cons_append, fill_append_lead hfilled]

/-- With one more slot, its marks in the text are filled between what was filled before. -/
theorem fill_concat_append_mark (h : Apart lead (filled ++ [s])) (xs ys : List Char) :
    fill (filled ++ [s]) (xs ++ (s.mark ++ ys)) =
      fill (filled ++ [s]) xs ++ (s.value ++ fill (filled ++ [s]) ys) := by
  obtain ⟨rest, hmark, -⟩ := h.leads s (by simp)
  rw [← fill_mark_append h (by simp), hmark, List.cons_append, fill_append_lead h]

theorem fill_concat_of_clear (h : Apart lead (filled ++ [s])) (hclear : occurrences s.mark cs = 0) :
    fill (filled ++ [s]) cs = fill filled cs := by
  have hfilled := h.sublist (List.sublist_append_left filled [s])
  induction cs using fill_induction hfilled with
  | nil => rfl
  | mark t ht cs ih =>
    rw [fill_mark_append h (by simp [ht]), fill_mark_append hfilled ht, ih]
    exact Nat.le_zero.mp (hclear ▸ occurrences_le_append s.mark t.mark cs)
  | char c cs hnone ih =>
    rw [occurrences_cons, Nat.add_eq_zero_iff] at hclear
    rw [fill_cons hnone, fill_cons, ih hclear.1]
    intro t ht
    obtain ht | rfl := List.mem_append.mp ht |>.imp_right List.mem_singleton.mp
    · exact hnone t ht
    · exact fun hbegins => by simp [hbegins] at hclear

/-- A text keeps the marks that are still to be filled. -/
theorem occurrences_le_fill (h : Apart lead (filled ++ [s])) (cs : List Char) :
    occurrences s.mark cs ≤ occurrences s.mark (fill filled cs) := by
  have hmark := h.leads s (by simp)
  induction cs using occurrence_induction hmark with
  | clear cs hclear => omega
  | found xs ys hxs ih =>
    rw [fill_append_mark h, occurrences_append_mark hmark, occurrences_append_mark hmark]
    omega

/-- One more slot makes the text longer by the same amount for each of its marks. -/
theorem length_fill_concat (h : Apart lead (filled ++ [s])) (cs : List Char) :
    ((fill (filled ++ [s]) cs).length : Int) = (fill filled cs).length +
      occurrences s.mark cs * (s.value.length - s.mark.length : Int) := by
  have hmark := h.leads s (by simp)
  induction cs using occurrence_induction hmark with
  | clear cs hclear => simp [fill_concat_of_clear h hclear, hclear]
  | found xs ys hxs ih =>
    rw [fill_concat_append_mark h, fill_append_mark h, occurrences_append_mark hmark, hxs,
      fill_concat_of_clear h hxs]
    simp only [List.length_append]
    push_cast
    rw [ih]
    ring

/-- Two texts with a value between their halves agree only if the halves do, when both halves
differ in length by multiples of one amount. -/
theorem append_eq_append_iff_of_length {xs' ys' zs : List Char} {m n : Nat} {d : Int}
    (hxs : (xs'.length : Int) = xs.length + m * d) (hys : (ys'.length : Int) = ys.length + n * d) :
    xs' ++ (zs ++ ys') = xs ++ (zs ++ ys) ↔ xs' = xs ∧ ys' = ys := by
  refine ⟨fun h => ?_, fun ⟨hx, hy⟩ => by rw [hx, hy]⟩
  have hlength := congrArg List.length h
  simp only [List.length_append] at hlength
  have hsum : (m + n : Int) * d = 0 := by
    rw [add_mul]
    omega
  have hlen : xs'.length = xs.length := by
    obtain hzero | rfl := mul_eq_zero.mp hsum
    · obtain rfl : m = 0 := by omega
      simpa using hxs
    · simpa using hxs
  obtain ⟨rfl, htail⟩ := List.append_inj h hlen
  exact ⟨rfl, List.append_cancel_left htail⟩

/-! ## One slot in a text already filled -/

theorem fill_no_slots (cs : List Char) : fill [] cs = cs := by
  induction cs with
  | nil => rfl
  | cons c cs ih => rw [fill_cons (by simp), ih]

theorem fill_one_append_mark (h : Apart lead [s]) (xs ys : List Char) :
    fill [s] (xs ++ (s.mark ++ ys)) = fill [s] xs ++ (s.value ++ fill [s] ys) :=
  fill_concat_append_mark (show Apart lead ([] ++ [s]) from h) xs ys

theorem fill_one_of_clear (h : Apart lead [s]) (hclear : occurrences s.mark cs = 0) :
    fill [s] cs = cs :=
  (fill_concat_of_clear (show Apart lead ([] ++ [s]) from h) hclear).trans (fill_no_slots cs)

theorem length_fill_one (h : Apart lead [s]) (cs : List Char) :
    ((fill [s] cs).length : Int) =
      cs.length + occurrences s.mark cs * (s.value.length - s.mark.length : Int) := by
  have hlength := length_fill_concat (show Apart lead ([] ++ [s]) from h) cs
  rwa [fill_no_slots] at hlength

/-- Filling one slot changes a text unless it puts the mark back or does not find it. -/
theorem fill_one_eq_self_iff (h : Apart lead [s]) (cs : List Char) :
    fill [s] cs = cs ↔ s.value = s.mark ∨ occurrences s.mark cs = 0 := by
  have hmark := h.leads s (by simp)
  constructor
  · intro hself
    obtain hnone | ⟨xs, ys, rfl, hxs⟩ := exists_first_occurrence hmark cs
    · exact .inr hnone
    have hlength := length_fill_one h (xs ++ (s.mark ++ ys))
    rw [hself, occurrences_append_mark hmark, hxs] at hlength
    have hsame : (s.value.length - s.mark.length : Int) = 0 := by
      have hzero : (occurrences s.mark ys + 1 : Int) * (s.value.length - s.mark.length) = 0 := by
        push_cast at hlength
        linarith
      exact (mul_eq_zero.mp hzero).resolve_left (by omega)
    rw [fill_one_append_mark h, fill_one_of_clear h hxs, List.append_cancel_left_eq] at hself
    exact .inl (List.append_inj hself (by omega)).1
  · rintro (hput | hnone)
    · induction cs using occurrence_induction hmark with
      | clear cs hcs => exact fill_one_of_clear h hcs
      | found xs ys hxs ih =>
        rw [fill_one_append_mark h, fill_one_of_clear h hxs, ih, hput]
    · exact fill_one_of_clear h hnone

/-- After the slots filled before, one more is filled as in one pass exactly if they left it no
more marks than the text has. -/
theorem fill_fill_eq_fill_concat_iff (h : Apart lead (filled ++ [s])) (cs : List Char) :
    fill [s] (fill filled cs) = fill (filled ++ [s]) cs ↔
      s.value = s.mark ∨ occurrences s.mark (fill filled cs) = occurrences s.mark cs := by
  have hmark := h.leads s (by simp)
  have hone := h.sublist (List.sublist_append_right filled [s])
  induction cs using occurrence_induction hmark with
  | clear cs hcs => rw [fill_concat_of_clear h hcs, fill_one_eq_self_iff hone, hcs]
  | found xs ys hxs ih =>
    have hmore := occurrences_le_fill h ys
    have hbefore := length_fill_one hone (fill filled xs)
    have hafter : ((fill [s] (fill filled ys)).length : Int) =
        (fill (filled ++ [s]) ys).length +
          (occurrences s.mark (fill filled ys) - occurrences s.mark ys : Nat) *
            (s.value.length - s.mark.length : Int) := by
      rw [length_fill_one hone, length_fill_concat h, Nat.cast_sub hmore]
      ring
    -- the halves around the mark can be told apart by their lengths, so each is compared alone
    rw [fill_append_mark h, fill_concat_append_mark h, fill_concat_of_clear h hxs,
      fill_one_append_mark hone, append_eq_append_iff_of_length hbefore hafter,
      fill_one_eq_self_iff hone, occurrences_append_mark hmark, occurrences_append_mark hmark, hxs]
    refine (and_congr_right' ih).trans (or_and_left.symm.trans (or_congr_right ?_))
    omega

end

/-! ## Slot after slot -/

theorem fillInTurn_concat (slots : List Slot) (s : Slot) (cs : List Char) :
    fillInTurn (slots ++ [s]) cs = fill [s] (fillInTurn slots cs) := by
  simp [fillInTurn, fill, replaceFrom_eq_fillFrom]

/-- The slots filled one after the other come to one pass, at each of them, exactly if none meets
a forged mark. -/
theorem fillInTurn_eq_fill_iff (h : Apart lead slots) (cs : List Char) :
    (∀ n, fillInTurn (slots.take n) cs = fill (slots.take n) cs) ↔ Unforged slots cs := by
  have hstep (n : Fin slots.length) :
      fill [slots[n]] (fill (slots.take n) cs) = fill (slots.take (n + 1)) cs ↔
        slots[n].value = slots[n].mark ∨
          occurrences slots[n].mark (fill (slots.take n) cs) = occurrences slots[n].mark cs := by
    have hnext : slots.take (n + 1) = slots.take n ++ [slots[n]] :=
      List.take_succ_eq_append_getElem n.isLt
    rw [hnext]
    exact fill_fill_eq_fill_concat_iff (hnext ▸ h.sublist (List.take_sublist _ _)) cs
  constructor
  · intro hturn n
    rw [← hstep n, ← hturn n, ← fillInTurn_concat, ← hturn (n + 1)]
    congr 1
    exact (List.take_succ_eq_append_getElem n.isLt).symm
  · intro hunforged n
    induction n with
    | zero => simp [fillInTurn, fill_no_slots]
    | succ n ih =>
      by_cases hn : n < slots.length
      · rw [← (hstep ⟨n, hn⟩).mpr (hunforged ⟨n, hn⟩), ← ih, ← fillInTurn_concat,
          List.take_succ_eq_append_getElem hn]
        rfl
      · rwa [List.take_of_length_le (by omega), ← List.take_of_length_le (not_lt.mp hn)]

end Pageflow.Text
