import Pageflow.Placeholder
import Pageflow.Proofs.Text.Parts

/-! Substitution is one pass from left to right. Its tokens are the leftmost ones that do not
overlap, they depend on the template alone, and what is put in for them is never looked at. -/
namespace Pageflow.Placeholder

open Text (isBlank takeWhile_dropWhile_run)

/-- `raw` is a token with the given name. -/
structure IsToken (name raw : List Char) : Prop where
  name_ne : name ≠ []
  name_chars : ∀ c ∈ name, isNameChar c = true
  spelled : ∃ before after, raw = '{' :: '{' :: (before ++ name ++ after ++ ['}', '}']) ∧
    (∀ c ∈ before, isBlank c = true) ∧ ∀ c ∈ after, isBlank c = true

/-- A token stands at the start of the text. -/
def Starts (cs : List Char) : Prop := ∃ name raw, IsToken name raw ∧ raw <+: cs

/-- A token with the text between it and the token before. -/
@[ext]
structure Found where
  gap : List Char
  name : List Char
  raw : List Char

/-- What a token is replaced by: the value of its name, or itself where the name has none. -/
def Found.put (values : List (String × String)) (f : Found) : List Char :=
  ((values.lookup (String.ofList f.name)).map String.toList).getD f.raw

/-- No token stands at the first `count` places of the text. -/
def Clear (count : Nat) (cs : List Char) : Prop := ∀ n < count, ¬ Starts (cs.drop n)

/-- The tokens that are found in a text from left to right, each the first one after the end of
the one before, and the text after the last of them. -/
def Leftmost : (cs : List Char) → List Found → (last : List Char) → Prop
  | cs, [], last => last = cs ∧ Clear cs.length cs
  | cs, f :: found, last => ∃ rest, cs = f.gap ++ (f.raw ++ rest) ∧ IsToken f.name f.raw ∧
    Clear f.gap.length cs ∧ Leftmost rest found last

/-- The text with what the tokens are replaced by in their places. -/
def putAll (values : List (String × String)) (found : List Found) (last : List Char) : List Char :=
  found.flatMap (fun f => f.gap ++ f.put values) ++ last

variable {c : Char} {cs rest name raw last last' : List Char} {found found' : List Found}
  {values values' : List (String × String)}

/-! ## Tokens -/

/-- The code points of the blanks. -/
def blankCodes : List Nat :=
  [9, 10, 11, 12, 13, 28, 29, 30, 31, 32, 0x85, 0xa0, 0x1680, 0x2000, 0x2001, 0x2002, 0x2003,
    0x2004, 0x2005, 0x2006, 0x2007, 0x2008, 0x2009, 0x200a, 0x2028, 0x2029, 0x202f, 0x205f, 0x3000]

theorem toNat_mem_blankCodes (h : isBlank c = true) : c.toNat ∈ blankCodes := by
  simp only [isBlank, Text.isSpace, Bool.or_eq_true, Bool.and_eq_true, decide_eq_true_eq,
    beq_iff_eq] at h
  simp only [blankCodes, List.mem_cons, List.not_mem_nil, or_false]
  omega

theorem isNameChar_of_isBlank (h : isBlank c = true) : isNameChar c = false := by
  have hcodes : ∀ n ∈ blankCodes, isNameChar (Char.ofNat n) = false := by decide +kernel
  rw [← Char.ofNat_toNat c]
  exact hcodes _ (toNat_mem_blankCodes h)

theorem isBlank_of_isNameChar (h : isNameChar c = true) : isBlank c = false := by
  cases hc : isBlank c with
  | false => rfl
  | true => rw [isNameChar_of_isBlank hc] at h; cases h

theorem isToken_of_token? {t : Token cs} (h : token? cs = some t) : IsToken t.name t.raw := by
  unfold token? at h
  split at h
  · rename_i body
    dsimp only at h
    split at h
    · cases h
    · rename_i hname
      split at h
      · cases h
        exact ⟨by simpa using hname, fun c => List.mem_takeWhile_imp, _, _, rfl,
          fun c => List.mem_takeWhile_imp, fun c => List.mem_takeWhile_imp⟩
      · cases h
  · cases h

/-- A token that stands at the start is the one that is found there. -/
theorem IsToken.token? (h : IsToken name raw) (hcs : raw ++ rest = cs) :
    ∃ t, token? cs = some t ∧ t.name = name ∧ t.raw = raw ∧ t.rest = rest := by
  obtain ⟨before, after, rfl, hbefore, hafter⟩ := h.spelled
  have hend : (after ++ '}' :: '}' :: rest).takeWhile isBlank = after ∧
      (after ++ '}' :: '}' :: rest).dropWhile isBlank = '}' :: '}' :: rest :=
    takeWhile_dropWhile_run hafter (by decide)
  -- A name is followed by a blank or by the closing braces, and neither belongs to it.
  have hname : (name ++ (after ++ '}' :: '}' :: rest)).takeWhile isNameChar = name ∧
      (name ++ (after ++ '}' :: '}' :: rest)).dropWhile isNameChar =
        after ++ '}' :: '}' :: rest := by
    cases after with
    | nil => exact takeWhile_dropWhile_run h.name_chars (by decide)
    | cons a after =>
      have ha := isNameChar_of_isBlank (hafter a List.mem_cons_self)
      exact takeWhile_dropWhile_run h.name_chars ha
  have hstart : (before ++ (name ++ (after ++ '}' :: '}' :: rest))).takeWhile isBlank = before ∧
      (before ++ (name ++ (after ++ '}' :: '}' :: rest))).dropWhile isBlank =
        name ++ (after ++ '}' :: '}' :: rest) := by
    obtain ⟨n, name', rfl⟩ := List.exists_cons_of_ne_nil h.name_ne
    have hn := isBlank_of_isNameChar (h.name_chars n List.mem_cons_self)
    exact takeWhile_dropWhile_run hbefore hn
  have hbody : '{' :: '{' :: (before ++ name ++ after ++ ['}', '}']) ++ rest =
      '{' :: '{' :: (before ++ (name ++ (after ++ '}' :: '}' :: rest))) := by simp
  rw [← hcs, hbody]
  unfold Placeholder.token?
  simp only [hstart, hname, hend]
  split
  · rename_i hempty
    exact absurd (List.isEmpty_iff.mp hempty) h.name_ne
  split
  · rename_i rest' hrest
    simp only [hstart, hname, hend, List.cons.injEq, true_and] at hrest
    exact ⟨_, rfl, rfl, rfl, hrest.symm⟩
  · rename_i hnone
    exact absurd (by simp only [hstart, hname, hend]) (hnone rest)

theorem IsToken.raw_ne (h : IsToken name raw) : raw ≠ [] := by
  obtain ⟨before, after, rfl, -⟩ := h.spelled
  exact List.cons_ne_nil _ _

/-- At one place of a text at most one token stands. -/
theorem IsToken.unique {name' raw' rest' : List Char} (h : IsToken name raw)
    (h' : IsToken name' raw') (heq : raw ++ rest = raw' ++ rest') :
    name = name' ∧ raw = raw' ∧ rest = rest' := by
  obtain ⟨t, ht, hname, hraw, hrest⟩ := h.token? heq
  obtain ⟨t', ht', hname', hraw', hrest'⟩ := h'.token? rfl
  obtain rfl : t = t' := Option.some.inj (ht.symm.trans ht')
  exact ⟨hname.symm.trans hname', hraw.symm.trans hraw', hrest.symm.trans hrest'⟩

theorem token?_eq_none_iff : token? cs = none ↔ ¬ Starts cs := by
  constructor
  · rintro hnone ⟨name, raw, htoken, rest, hcs⟩
    obtain ⟨t, ht, -⟩ := htoken.token? hcs
    rw [hnone] at ht
    cases ht
  · intro hstarts
    cases htoken : token? cs with
    | none => rfl
    | some t => exact absurd ⟨t.name, t.raw, isToken_of_token? htoken, t.rest, t.split⟩ hstarts

/-! ## The tokens of a text -/

theorem Clear.cons {count : Nat} (hstarts : ¬ Starts (c :: cs)) (h : Clear count cs) :
    Clear (count + 1) (c :: cs) := by
  intro n hn
  cases n with
  | zero => exact hstarts
  | succ n => exact h n (by omega)

/-- What is clear ends before the next token. -/
theorem Clear.le {count : Nat} {gap : List Char} (h : Clear count (gap ++ (raw ++ rest)))
    (htoken : IsToken name raw) : count ≤ gap.length := by
  by_contra hlt
  refine h gap.length (by omega) ⟨name, raw, htoken, rest, ?_⟩
  rw [List.drop_left]

/-- Where no token stands at a place, the tokens are those of the text after it. -/
theorem Leftmost.cons (hstarts : ¬ Starts (c :: cs)) (h : Leftmost cs found last) :
    ∃ found' last', Leftmost (c :: cs) found' last' ∧
      ∀ values, putAll values found' last' = c :: putAll values found last := by
  cases found with
  | nil =>
    obtain ⟨rfl, hclear⟩ := h
    exact ⟨[], c :: last, ⟨rfl, hclear.cons hstarts⟩, fun values => rfl⟩
  | cons f found =>
    obtain ⟨rest, rfl, htoken, hclear, hrest⟩ := h
    refine ⟨⟨c :: f.gap, f.name, f.raw⟩ :: found, last,
      ⟨rest, rfl, htoken, hclear.cons hstarts, hrest⟩, fun values => ?_⟩
    simp [putAll, Found.put]

theorem exists_leftmost (cs : List Char) : ∃ found last, Leftmost cs found last ∧
    ∀ values, resolveAll values cs = putAll values found last := by
  induction cs using pieces.induct with
  | case1 =>
    refine ⟨[], [], ⟨rfl, nofun⟩, fun values => ?_⟩
    rw [resolveAll, pieces]
    rfl
  | case2 c tail t ht ih =>
    obtain ⟨found, last, hfound, hput⟩ := ih
    refine ⟨⟨[], t.name, t.raw⟩ :: found, last, ⟨t.rest, t.split.symm, isToken_of_token? ht,
      nofun, hfound⟩, fun values => ?_⟩
    have hresolve : (Piece.token t.name t.raw).resolve values =
        Found.put values ⟨[], t.name, t.raw⟩ := by
      simp only [Piece.resolve, Found.put]
      cases values.lookup (String.ofList t.name) with
      | none => rfl
      | some value => rfl
    rw [resolveAll, pieces, ht]
    simp only [List.flatMap_cons, hresolve]
    rw [← resolveAll, hput]
    simp [putAll]
  | case3 c tail hnone ih =>
    obtain ⟨found, last, hfound, hput⟩ := ih
    obtain ⟨found', last', hfound', hput'⟩ := hfound.cons (token?_eq_none_iff.mp hnone)
    refine ⟨found', last', hfound', fun values => ?_⟩
    rw [hput', ← hput, resolveAll, pieces, hnone]
    rfl

theorem Leftmost.unique (h : Leftmost cs found last) (h' : Leftmost cs found' last') :
    found = found' ∧ last = last' := by
  induction found generalizing cs found' with
  | nil =>
    obtain ⟨rfl, hclear⟩ := h
    cases found' with
    | nil => exact ⟨rfl, h'.1.symm⟩
    | cons f' found' =>
      obtain ⟨rest, rfl, htoken, -, -⟩ := h'
      have hle := hclear.le htoken
      have hraw := List.length_pos_iff.mpr htoken.raw_ne
      rw [List.length_append, List.length_append] at hle
      omega
  | cons f found ih =>
    obtain ⟨rest, rfl, htoken, hclear, hrest⟩ := h
    cases found' with
    | nil =>
      have hle := h'.2.le htoken
      have hraw := List.length_pos_iff.mpr htoken.raw_ne
      rw [List.length_append, List.length_append] at hle
      omega
    | cons f' found' =>
      obtain ⟨rest', hcs, htoken', hclear', hrest'⟩ := h'
      have hle := hclear'.le htoken
      rw [hcs] at hclear
      obtain ⟨hgap, htail⟩ := List.append_inj hcs (Nat.le_antisymm (hclear.le htoken') hle)
      obtain ⟨hname, hraw, rfl⟩ := htoken.unique htoken' htail
      obtain ⟨rfl, rfl⟩ := ih hrest hrest'
      exact ⟨congrArg (· :: found) (Found.ext hgap hname hraw), rfl⟩

/-! ## The pass -/

/-- A text without two opening braces has no token. -/
theorem leftmost_of_not_hasPart (h : Text.hasPart ['{', '{'] cs = false) : Leftmost cs [] cs := by
  refine ⟨rfl, fun n hn => ?_⟩
  rintro ⟨name, raw, htoken, hprefix⟩
  obtain ⟨before, after, rfl, -⟩ := htoken.spelled
  have hbraces : ['{', '{'] <:+: cs :=
    ((List.prefix_append ['{', '{'] _).trans hprefix).isInfix.trans (List.drop_suffix n cs).isInfix
  rw [← Text.hasPart_iff, h] at hbraces
  cases hbraces

theorem substitute_eq_resolveAll (template : String) (values : List (String × String)) :
    substitute template values = String.ofList (resolveAll values template.toList) := by
  unfold substitute
  split
  · rfl
  · rename_i hplain
    obtain ⟨found, last, hfound, hput⟩ := exists_leftmost template.toList
    have hnone := leftmost_of_not_hasPart (Bool.eq_false_iff.mpr hplain)
    obtain ⟨rfl, rfl⟩ := hnone.unique hfound
    simp [hput, putAll]

theorem putAll_congr (last : List Char) (h : ∀ f ∈ found,
      values.lookup (String.ofList f.name) = values'.lookup (String.ofList f.name)) :
    putAll values found last = putAll values' found last := by
  unfold putAll
  congr 1
  refine List.flatMap_congr fun f hf => ?_
  rw [Found.put, Found.put, h f hf]

/-- A template has its leftmost tokens that do not overlap, and no others. Substitution leaves what
is around them as it is and puts the values of their names in their places, whatever the values
look like. What it yields depends on the values of these names only, and a template without two
opening braces is no exception. -/
theorem substitute_one_pass (template : String) : ∃ found last,
    Leftmost template.toList found last ∧
    (∀ found' last', Leftmost template.toList found' last' → found' = found ∧ last' = last) ∧
    (∀ values, substitute template values = String.ofList (putAll values found last)) ∧
    (∀ values values', (∀ f ∈ found, values.lookup (String.ofList f.name) =
        values'.lookup (String.ofList f.name)) →
      substitute template values = substitute template values') ∧
    ∀ values, substitute template values = String.ofList (resolveAll values template.toList) := by
  obtain ⟨found, last, hfound, hput⟩ := exists_leftmost template.toList
  have hsubstitute : ∀ values, substitute template values =
      String.ofList (putAll values found last) := by
    intro values
    rw [substitute_eq_resolveAll, hput]
  refine ⟨found, last, hfound, fun found' last' h => h.unique hfound, hsubstitute,
    fun values values' hvalues => ?_, substitute_eq_resolveAll template⟩
  rw [hsubstitute, hsubstitute, putAll_congr last hvalues]

/-- A value that looks like a token is put in as it is. -/
example : substitute "\x7b\x7ba\x7d\x7d\x7b\x7b b \x7d\x7d"
    [("a", "\x7b\x7bb\x7d\x7d"), ("b", "2")] = "\x7b\x7bb\x7d\x7d2" := by decide +kernel

end Pageflow.Placeholder
