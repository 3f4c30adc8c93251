import Mathlib.Data.List.DropRight
import Pageflow.Dom.Script
import Pageflow.Proofs.Text.Parts

/-! Texts with their white space collapsed and trimmed. What the normalised text of a part of a
text contains, that of the whole contains as well: between two characters that are not blank
nothing depends on what is around them. -/
namespace Pageflow.Dom

open Text (dropWhile_append_cons isScriptBlank rdropWhile_append_cons trimBy)

/-- A text that neither begins nor ends with a blank. -/
structure Solid (cs : List Char) : Prop where
  head : ∃ c rest, cs = c :: rest ∧ isScriptBlank c = false
  last : ∃ front c, cs = front ++ [c] ∧ isScriptBlank c = false

variable {c : Char} {cs before after : List Char}

/-- A character that is not blank ends every run of white space before it. -/
theorem collapse_append_cons (hc : isScriptBlank c = false) (pending : Bool)
    (before after : List Char) : collapse pending (before ++ c :: after) =
      collapse pending before ++ c :: collapse false after := by
  induction before generalizing pending with
  | nil => cases pending <;> simp [collapse, hc]
  | cons b before ih =>
    rw [List.cons_append, collapse, collapse]
    split
    · exact ih true
    · cases pending <;> simp [ih false]

theorem Solid.collapse_append (h : Solid cs) (before after : List Char) :
    collapse false (before ++ cs ++ after) =
      collapse false before ++ collapse false cs ++ collapse false after := by
  obtain ⟨first, rest, hfirst, hhead⟩ := h.head
  obtain ⟨front, last, hfront, hlast⟩ := h.last
  have hbefore : collapse false (before ++ cs) = collapse false before ++ collapse false cs := by
    have hstart := collapse_append_cons hhead false [] rest
    rw [hfirst, collapse_append_cons hhead false before rest]
    simpa [collapse] using hstart.symm
  have hafter : collapse false (before ++ cs ++ after) =
      collapse false (before ++ cs) ++ collapse false after := by
    rw [hfront, ← List.append_assoc, List.append_assoc _ [last], List.singleton_append,
      collapse_append_cons hlast, collapse_append_cons hlast]
    simp [collapse]
  rw [hafter, hbefore]

theorem Solid.collapse (h : Solid cs) : Solid (collapse false cs) := by
  obtain ⟨first, rest, rfl, hhead⟩ := h.head
  obtain ⟨front, last, hfront, hlast⟩ := h.last
  constructor
  case head => exact ⟨first, _, collapse_append_cons hhead false [] rest, hhead⟩
  case last =>
    rw [hfront]
    exact ⟨_, last, collapse_append_cons hlast false front [], hlast⟩

/-- White space stays white space. -/
theorem isScriptBlank_of_mem_collapse (h : ∀ c ∈ cs, isScriptBlank c = true) (pending : Bool) :
    ∀ c ∈ collapse pending cs, isScriptBlank c = true := by
  induction cs generalizing pending with
  | nil => cases pending <;> simp [collapse, show isScriptBlank ' ' = true from by decide]
  | cons b cs ih =>
    obtain ⟨hb, hcs⟩ := List.forall_mem_cons.mp h
    rw [collapse, if_pos hb]
    exact ih hcs true

/-- Trimming stops at the first and at the last character that is not blank. -/
theorem Solid.trimBy_append (h : Solid cs) (before after : List Char) :
    trimBy isScriptBlank (before ++ cs ++ after) =
      before.dropWhile isScriptBlank ++ cs ++ after.rdropWhile isScriptBlank := by
  obtain ⟨first, rest, hfirst, hhead⟩ := h.head
  obtain ⟨front, last, hfront, hlast⟩ := h.last
  have hstart : (before ++ cs ++ after).dropWhile isScriptBlank =
      before.dropWhile isScriptBlank ++ cs ++ after := by
    rw [hfirst, List.append_assoc, List.cons_append, dropWhile_append_cons hhead,
      List.append_assoc, List.cons_append]
  have hend : ∀ kept : List Char, (kept ++ cs ++ after).rdropWhile isScriptBlank =
      kept ++ cs ++ after.rdropWhile isScriptBlank := by
    intro kept
    rw [hfront, ← List.append_assoc, List.append_assoc _ [last], List.singleton_append,
      rdropWhile_append_cons hlast]
    simp
  change ((before ++ cs ++ after).dropWhile isScriptBlank).rdropWhile isScriptBlank = _
  rw [hstart, hend]

/-- A text is white space throughout, or a solid text with white space around it. -/
theorem blank_or_solid (cs : List Char) : (∀ c ∈ cs, isScriptBlank c = true) ∨
    ∃ before core after, cs = before ++ core ++ after ∧ Solid core ∧
      (∀ c ∈ before, isScriptBlank c = true) ∧ ∀ c ∈ after, isScriptBlank c = true := by
  induction cs with
  | nil => exact .inl nofun
  | cons c cs ih =>
    rcases ih with hblank | ⟨before, core, after, rfl, hcore, hbefore, hafter⟩
    · cases hc : isScriptBlank c with
      | true => exact .inl (List.forall_mem_cons.mpr ⟨hc, hblank⟩)
      | false => exact .inr ⟨[], [c], cs, rfl, ⟨⟨c, [], rfl, hc⟩, ⟨[], c, rfl, hc⟩⟩, nofun, hblank⟩
    · cases hc : isScriptBlank c with
      | true =>
        exact .inr ⟨c :: before, core, after, rfl, hcore,
          List.forall_mem_cons.mpr ⟨hc, hbefore⟩, hafter⟩
      | false =>
        obtain ⟨front, last, rfl, hlast⟩ := hcore.last
        refine .inr ⟨[], c :: (before ++ (front ++ [last])), after, by simp, ?_, nofun, hafter⟩
        exact ⟨⟨c, _, rfl, hc⟩, ⟨c :: (before ++ front), last, by simp, hlast⟩⟩

/-- What a solid text with white space around it is normalised to. -/
theorem Solid.normalize (h : Solid cs) (hbefore : ∀ c ∈ before, isScriptBlank c = true)
    (hafter : ∀ c ∈ after, isScriptBlank c = true) :
    normalize (before ++ cs ++ after) = Dom.collapse false cs := by
  unfold Dom.normalize
  rw [h.collapse_append, h.collapse.trimBy_append,
    List.dropWhile_eq_nil_iff.mpr (isScriptBlank_of_mem_collapse hbefore false),
    List.rdropWhile_eq_nil_iff.mpr (isScriptBlank_of_mem_collapse hafter false)]
  simp

theorem normalize_isInfix {part whole : List Char} (h : part <:+: whole) :
    normalize part <:+: normalize whole := by
  rcases blank_or_solid part with hblank | ⟨before, core, after, rfl, hcore, hbefore, hafter⟩
  · have hnil : normalize part = [] := by
      unfold normalize trimBy
      rw [List.dropWhile_eq_nil_iff.mpr (isScriptBlank_of_mem_collapse hblank false)]
      rfl
    rw [hnil]
    exact List.nil_infix
  · obtain ⟨front, back, rfl⟩ := h
    rw [hcore.normalize hbefore hafter]
    unfold normalize
    rw [show front ++ (before ++ core ++ after) ++ back =
      (front ++ before) ++ core ++ (after ++ back) by simp, hcore.collapse_append,
      hcore.collapse.trimBy_append]
    exact List.infix_append _ _ _

/-! ## Elements and the elements around them -/

mutual
/-- The elements around one among a node stand between it and the node, and hold its text. -/
theorem nested_of_mem_spots (node : Node) {above : List Frame} {followers : List Node} {s : Spot}
    (h : s ∈ node.spots above followers) : ∃ between, s.above = between ++ above ∧
      (∀ f ∈ between, s.here.chars <:+: f.chars) ∧ s.here.chars <:+: node.chars := by
  match node with
  | .text content => simp [Node.spots] at h
  | .element traits children =>
    rw [Node.spots] at h
    rcases List.mem_cons.mp h with rfl | hinside
    · exact ⟨[], rfl, nofun, by rw [Frame.chars, Node.chars]⟩
    · obtain ⟨between, habove, hbetween, hchars⟩ := nested_of_mem_spotsIn children hinside
      refine ⟨between ++ [⟨traits, children, followers⟩], by simp [habove], ?_, ?_⟩
      · intro f hf
        rcases List.mem_append.mp hf with hf | hf
        · exact hbetween f hf
        · rw [List.mem_singleton.mp hf]
          exact hchars
      · rwa [Node.chars]

theorem nested_of_mem_spotsIn (nodes : List Node) {above : List Frame} {s : Spot}
    (h : s ∈ spotsIn above nodes) : ∃ between, s.above = between ++ above ∧
      (∀ f ∈ between, s.here.chars <:+: f.chars) ∧ s.here.chars <:+: charsOf nodes := by
  match nodes with
  | [] => simp [spotsIn] at h
  | node :: rest =>
    rw [spotsIn] at h
    rw [charsOf]
    rcases List.mem_append.mp h with hnode | hrest
    · obtain ⟨between, habove, hbetween, hchars⟩ := nested_of_mem_spots node hnode
      exact ⟨between, habove, hbetween, hchars.trans (List.prefix_append _ _).isInfix⟩
    · obtain ⟨between, habove, hbetween, hchars⟩ := nested_of_mem_spotsIn rest hrest
      exact ⟨between, habove, hbetween, hchars.trans (List.suffix_append _ _).isInfix⟩
end

theorem Spot.contains_of_isInfix {s t : Spot} {anchor : String}
    (h : s.here.chars <:+: t.here.chars) (hs : s.contains anchor = true) :
    t.contains anchor = true :=
  Text.hasPart_iff.mpr ((Text.hasPart_iff.mp hs).trans (normalize_isInfix h))

theorem here_mem_of_mem_ancestorsOf {above : List Frame} {a : Spot}
    (h : a ∈ Spot.ancestorsOf above) : a.here ∈ above := by
  induction above with
  | nil => cases h
  | cons f above ih =>
    rcases List.mem_cons.mp h with rfl | hfar
    · exact List.mem_cons_self
    · exact List.mem_cons_of_mem _ (ih hfar)

/-- What an element contains, every element around it contains. -/
theorem Node.contains_of_mem_ancestors {root : Node} {s a : Spot} {anchor : String}
    (hs : s ∈ root.spots [] []) (ha : a ∈ s.ancestors) (h : s.contains anchor = true) :
    a.contains anchor = true := by
  obtain ⟨between, habove, hbetween, -⟩ := nested_of_mem_spots root hs
  rw [List.append_nil] at habove
  exact Spot.contains_of_isInfix
    (hbetween _ (habove ▸ here_mem_of_mem_ancestorsOf ha)) h

end Pageflow.Dom
