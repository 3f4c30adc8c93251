import Pageflow.Proofs.Text.Parts
import Pageflow.Selector.Expression

/-! The grammar of selector expressions. Every text is read as exactly one expression, and what is
written with the anchor in quotes is read again as it was, unless the child of an ancestor
expression begins like the part that asks for the next sibling. -/
namespace Pageflow.Expression

open Text (CutAt isBlank trimBy trimEndBy)

/-- `next`, blanks, and the mark, with `child` after it. -/
def AsksNext (cs child : List Char) : Prop := ∃ blanks tail,
  cs = nextMark ++ (blanks ++ (partMark ++ tail)) ∧ (∀ c ∈ blanks, isBlank c = true) ∧
    child = trimBy isBlank tail

/-- How a text without blanks at its ends is read. -/
inductive Reads (cs : List Char) : Expression → Prop where
  | direct (hplain : ¬ (anchorMark <+: cs ∧ partMark <:+: cs)) :
    Reads cs (.direct (String.ofList cs))
  | nextSibling {head rest child : List Char} (hcut : CutAt partMark cs (anchorMark ++ head) rest)
    (hnext : AsksNext (trimBy isBlank rest) child) :
    Reads cs (.nextSibling (String.ofList (unquote (trimBy isBlank head))) (String.ofList child))
  | ancestor {head rest : List Char} (hcut : CutAt partMark cs (anchorMark ++ head) rest)
    (hnext : ¬ ∃ child, AsksNext (trimBy isBlank rest) child) :
    Reads cs (.ancestor (String.ofList (unquote (trimBy isBlank head)))
      (String.ofList (trimBy isBlank rest)))

variable {cs rest child head before : List Char} {e e' : Expression}

theorem afterNext?_eq_some_iff : afterNext? rest = some child ↔ AsksNext rest child := by
  simp only [afterNext?, Option.map_eq_some_iff, Option.bind_eq_some_iff,
    Text.dropWord?_eq_some_iff]
  constructor
  · rintro ⟨tail, ⟨after, rfl, hafter⟩, rfl⟩
    refine ⟨after.takeWhile isBlank, tail, ?_, fun c => List.mem_takeWhile_imp, rfl⟩
    rw [← hafter, List.takeWhile_append_dropWhile]
  · rintro ⟨blanks, tail, rfl, hblanks, rfl⟩
    refine ⟨tail, ⟨_, rfl, ?_⟩, rfl⟩
    exact (Text.takeWhile_dropWhile_run (c := '>') hblanks (by decide)).2

theorem afterNext?_eq_none_iff : afterNext? rest = none ↔ ¬ ∃ child, AsksNext rest child := by
  simp [Option.eq_none_iff_forall_ne_some, afterNext?_eq_some_iff]

/-- The mark between the parts of an expression cannot stand in `text=`. -/
theorem anchorMark_isPrefix (hanchor : anchorMark <+: cs) (hcut : CutAt partMark cs before rest) :
    anchorMark <+: before := by
  have hbefore : before <+: cs := hcut.eq ▸ List.prefix_append _ _
  obtain hlong | ⟨more, hmore⟩ := List.prefix_or_prefix_of_prefix hanchor hbefore
  · exact hlong
  · cases more with
    | nil => rw [← hmore, List.append_nil]
    | cons m more =>
      rw [hcut.eq, ← hmore, List.prefix_append_right_inj] at hanchor
      obtain rfl : m = '>' := (List.cons_prefix_cons.mp hanchor).1
      have : '>' ∈ anchorMark := hmore ▸ by simp
      exact absurd this (by decide)

theorem reads_parse (s : String) : Reads (trimBy isBlank s.toList) (parse s) := by
  rw [parse]
  cases hanchor : Text.dropWord? anchorMark (trimBy isBlank s.toList) with
  | none =>
    exact .direct fun h => Text.dropWord?_eq_none_iff.mp hanchor h.1
  | some after =>
    cases hcut : Text.cutAt? partMark (trimBy isBlank s.toList) with
    | none => exact .direct fun h => Text.cutAt?_eq_none_iff.mp hcut h.2
    | some parts =>
      obtain ⟨before, rest⟩ := parts
      have hcut := Text.cutAt?_eq_some_iff.mp hcut
      have hstart := Text.dropWord?_isSome_iff.mp (Option.isSome_of_eq_some hanchor)
      obtain ⟨head, rfl⟩ := anchorMark_isPrefix hstart hcut
      dsimp only
      rw [List.drop_left]
      cases hnext : afterNext? (trimBy isBlank rest) with
      | some child => exact .nextSibling hcut (afterNext?_eq_some_iff.mp hnext)
      | none => exact .ancestor hcut (afterNext?_eq_none_iff.mp hnext)

theorem marks_of_cutAt (h : CutAt partMark cs (anchorMark ++ head) rest) :
    anchorMark <+: cs ∧ partMark <:+: cs := by
  rw [h.eq, List.append_assoc]
  exact ⟨List.prefix_append _ _, anchorMark ++ head, rest, by simp⟩

theorem parts_unique {head' rest' : List Char} (h : CutAt partMark cs (anchorMark ++ head) rest)
    (h' : CutAt partMark cs (anchorMark ++ head') rest') : head = head' ∧ rest = rest' := by
  obtain ⟨hhead, rfl⟩ := h.unique h'
  exact ⟨List.append_cancel_left hhead, rfl⟩

theorem AsksNext.unique {child' : List Char} (h : AsksNext rest child) (h' : AsksNext rest child') :
    child = child' := by
  rw [← afterNext?_eq_some_iff] at h h'
  exact Option.some.inj (h.symm.trans h')

/-- A text is read in one way only. -/
theorem Reads.unique (h : Reads cs e) (h' : Reads cs e') : e = e' := by
  cases h with
  | direct hno =>
    cases h' with
    | direct => rfl
    | nextSibling hcut | ancestor hcut => exact absurd (marks_of_cutAt hcut) hno
  | nextSibling hcut hnext =>
    cases h' with
    | direct hno => exact absurd (marks_of_cutAt hcut) hno
    | nextSibling hcut' hnext' =>
      obtain ⟨rfl, rfl⟩ := parts_unique hcut hcut'
      rw [hnext.unique hnext']
    | ancestor hcut' hnext' =>
      obtain ⟨rfl, rfl⟩ := parts_unique hcut hcut'
      exact absurd ⟨_, hnext⟩ hnext'
  | ancestor hcut hnext =>
    cases h' with
    | direct hno => exact absurd (marks_of_cutAt hcut) hno
    | nextSibling hcut' hnext' =>
      obtain ⟨rfl, rfl⟩ := parts_unique hcut hcut'
      exact absurd ⟨_, hnext'⟩ hnext
    | ancestor hcut' =>
      obtain ⟨rfl, rfl⟩ := parts_unique hcut hcut'
      rfl

theorem parse_eq_iff {s : String} : parse s = e ↔ Reads (trimBy isBlank s.toList) e :=
  ⟨fun h => h ▸ reads_parse s, fun h => (reads_parse s).unique h⟩

/-! ## What is written -/

theorem isBlank_space : isBlank ' ' = true := by decide

/-- An anchor in quotes, and what follows the mark after it. -/
def quoted (anchor tail : List Char) : List Char :=
  anchorMark ++ '"' :: (anchor ++ '"' :: ' ' :: (partMark ++ tail))

theorem toList_write_nextSibling (anchor child : String) :
    (write (.nextSibling anchor child)).toList =
      quoted anchor.toList (' ' :: (nextMark ++ ' ' :: (partMark ++ ' ' :: child.toList))) := by
  simp [write, quoted, anchorMark, partMark, nextMark]

theorem toList_write_ancestor (anchor child : String) :
    (write (.ancestor anchor child)).toList = quoted anchor.toList (' ' :: child.toList) := by
  simp [write, quoted, anchorMark, partMark]

variable {anchor tail : List Char}

/-- Neither end of a quoted anchor is blank, and `>>` follows it. -/
theorem trimBy_quoted (anchor tail : List Char) :
    trimBy isBlank (quoted anchor tail) = quoted anchor (trimEndBy isBlank tail) := by
  have hends : ∀ tail, quoted anchor tail =
      't' :: ("ext=".toList ++ '"' :: (anchor ++ ['"', ' ', '>']) ++ '>' :: tail) := by
    intro tail
    simp [quoted, anchorMark, partMark]
  rw [hends, hends]
  exact Text.trimBy_append (by decide) (by decide)

/-- A text without the mark is passed over, unless what follows completes one. -/
theorem cutAt?_append {xs : List Char} {d : Char} (hxs : ¬ partMark <:+: xs) (hd : d ≠ '>') :
    Text.cutAt? partMark (xs ++ d :: cs) =
      (Text.cutAt? partMark (d :: cs)).map fun (before, after) => (xs ++ before, after) := by
  induction xs with
  | nil => simp
  | cons x xs ih =>
    rw [List.infix_cons_iff, not_or] at hxs
    have hnone : Text.dropWord? partMark (x :: (xs ++ d :: cs)) = none := by
      rw [Text.dropWord?_eq_none_iff]
      intro h
      cases xs with
      | nil => exact hd (List.cons_prefix_cons.mp (List.cons_prefix_cons.mp h).2).1.symm
      | cons y ys =>
        have hinside : x :: y :: ys <+: x :: (y :: ys ++ d :: cs) :=
          List.prefix_append (x :: y :: ys) (d :: cs)
        exact hxs.1 (List.prefix_of_prefix_length_le h hinside (by simp [partMark]))
    rw [List.cons_append, Text.cutAt?, hnone, ih hxs.2, Option.map_map]
    rfl

theorem cutAt_quoted (hanchor : ¬ partMark <:+: anchor) (tail : List Char) :
    CutAt partMark (quoted anchor tail) (anchorMark ++ '"' :: (anchor ++ ['"', ' '])) tail := by
  have hpast : Text.cutAt? partMark (anchor ++ '"' :: ' ' :: (partMark ++ tail)) =
      some (anchor ++ ['"', ' '], tail) := by
    rw [cutAt?_append hanchor (by decide)]
    simp [Text.cutAt?, Text.dropWord?, partMark]
  rw [← Text.cutAt?_eq_some_iff]
  simp only [quoted, anchorMark, String.reduceToList, List.cons_append, List.nil_append]
  simpa [Text.cutAt?, Text.dropWord?, partMark] using hpast

theorem unquote_quoted (anchor : List Char) :
    unquote (trimBy isBlank ('"' :: (anchor ++ ['"', ' ']))) = anchor := by
  have hend : trimEndBy isBlank [' '] = [] := by decide
  rw [Text.trimBy_append (by decide) (by decide), hend]
  simp [unquote]

theorem parse_of_quoted {s anchor : String} (hs : s.toList = quoted anchor.toList tail)
    (hanchor : ¬ partMark <:+: anchor.toList) : parse s =
      match afterNext? (trimBy isBlank tail) with
      | some child => .nextSibling anchor (String.ofList child)
      | none => .ancestor anchor (String.ofList (trimBy isBlank tail)) := by
  have hcut := cutAt_quoted hanchor (trimEndBy isBlank tail)
  have hname := unquote_quoted anchor.toList
  rw [parse_eq_iff, hs, trimBy_quoted]
  cases hnext : afterNext? (trimBy isBlank tail) with
  | some child =>
    rw [← Text.trimBy_trimEndBy, afterNext?_eq_some_iff] at hnext
    have hreads := Reads.nextSibling hcut hnext
    rwa [hname, String.ofList_toList] at hreads
  | none =>
    rw [← Text.trimBy_trimEndBy, afterNext?_eq_none_iff] at hnext
    have hreads := Reads.ancestor hcut hnext
    rwa [hname, String.ofList_toList, Text.trimBy_trimEndBy] at hreads

/-- What is asked of the next sibling is a child without blanks at its ends. -/
theorem asksNext_written (hchild : trimBy isBlank child = child) :
    AsksNext (trimBy isBlank (nextMark ++ ' ' :: (partMark ++ ' ' :: child))) child := by
  have hends : ∀ tail, nextMark ++ ' ' :: (partMark ++ tail) =
      'n' :: (['e', 'x', 't', ' ', '>'] ++ '>' :: tail) := by
    intro tail
    simp [nextMark, partMark]
  rw [hends, Text.trimBy_append (by decide) (by decide), ← hends]
  refine ⟨[' '], trimEndBy isBlank (' ' :: child), rfl, by simp [isBlank_space], ?_⟩
  rw [Text.trimBy_trimEndBy, Text.trimBy_cons_of_pos isBlank_space, hchild]

/-- A text is read as its grammar says, in one way only. So an expression with an anchor that has
no `>>` and a child without blanks at its ends is read again as it was written: always one that
asks for the next sibling, and one that asks for an ancestor exactly if its child does not begin
with `next` and `>>`. -/
theorem parse_reads : (∀ s e, parse s = e ↔ Reads (trimBy isBlank s.toList) e) ∧
    ∀ anchor child : String, Text.contains anchor ">>" = false → Text.trim child = child →
      parse (write (.nextSibling anchor child)) = .nextSibling anchor child ∧
      (parse (write (.ancestor anchor child)) = .ancestor anchor child ↔
        ¬ ∃ rest, AsksNext child.toList rest) := by
  refine ⟨fun s e => parse_eq_iff, fun anchor child hanchor hchild => ?_⟩
  replace hanchor : ¬ partMark <:+: anchor.toList := by
    rw [← Text.hasPart_iff]
    exact Bool.eq_false_iff.mp hanchor
  replace hchild : trimBy isBlank child.toList = child.toList := by
    simpa [Text.trim] using congrArg String.toList hchild
  have hblank : ∀ cs, trimBy isBlank (' ' :: cs) = trimBy isBlank cs :=
    Text.trimBy_cons_of_pos isBlank_space
  constructor
  · rw [parse_of_quoted (toList_write_nextSibling anchor child) hanchor, hblank,
      afterNext?_eq_some_iff.mpr (asksNext_written hchild)]
    simp only [String.ofList_toList]
  · rw [parse_of_quoted (toList_write_ancestor anchor child) hanchor, hblank, hchild,
      ← afterNext?_eq_none_iff]
    cases afterNext? child.toList with
    | none => simp
    | some rest => simp

/-- A child that begins like the request for the next sibling is taken for one. -/
example : parse (write (.ancestor "Views" "next >> b")) = .nextSibling "Views" "b" := by
  decide +kernel

end Pageflow.Expression
