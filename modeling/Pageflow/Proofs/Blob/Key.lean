import Pageflow.Blob.Key
import Pageflow.Proofs.Text.Parts

/-! What a cleaned key is made of: ordinary names, and before them the two slashes that a
hint may begin with. A key of ordinary names alone is clean. -/
namespace Pageflow.Blob

/-- The name of something inside the directory it is looked up in. -/
structure Ordinary (p : String) : Prop where
  ne_empty : p ≠ ""
  ne_dot : p ≠ "."
  ne_dots : p ≠ ".."
  slash : '/' ∉ p.toList
  backslash : '\\' ∉ p.toList

instance (p : String) : Decidable (Ordinary p) :=
  decidable_of_iff (p ≠ "" ∧ p ≠ "." ∧ p ≠ ".." ∧ '/' ∉ p.toList ∧ '\\' ∉ p.toList)
    ⟨fun ⟨h₁, h₂, h₃, h₄, h₅⟩ => ⟨h₁, h₂, h₃, h₄, h₅⟩, fun ⟨h₁, h₂, h₃, h₄, h₅⟩ => ⟨h₁, h₂, h₃, h₄, h₅⟩⟩

/-- A key that leads from the directory of a store to a place inside it. -/
def Relative (key : String) : Prop :=
  ∃ parts, parts ≠ [] ∧ (∀ p ∈ parts, Ordinary p) ∧ key = Text.join "/" parts

def slashed (hint : String) : List Char := hint.toList.map fun c => if c = '\\' then '/' else c

/-- The hint begins with exactly two slashes, a backslash counting as one. -/
def DoubleRooted (hint : String) : Prop :=
  ∃ rest, slashed hint = '/' :: '/' :: rest ∧ rest.head? ≠ some '/'

/-- The components of a hint that are ordinary. -/
def names (hint : String) : List String :=
  (((Text.splitChars '/' (slashed hint)).map String.ofList).filter fun p =>
    p ≠ "" && p ≠ ".").filter fun p => p ≠ "/" && p ≠ ".."

theorem slashed_of_not_mem {hint : String} (h : '\\' ∉ hint.toList) : slashed hint = hint.toList := by
  refine (List.map_congr_left fun c hc => ?_).trans (List.map_id _)
  have hne : c ≠ '\\' := by
    rintro rfl
    exact h hc
  rw [if_neg hne, id]

theorem not_mem_slashed (hint : String) : '\\' ∉ slashed hint := by
  simp only [slashed, List.mem_map, not_exists, not_and]
  intro c _
  split <;> simp_all

theorem slashed_append (first second : String) :
    slashed (first ++ "/" ++ second) = slashed first ++ '/' :: slashed second := by
  simp [slashed]

/-- The components of two hints that are joined are those of both. -/
theorem names_append (first second : String) :
    names (first ++ "/" ++ second) = names first ++ names second := by
  simp only [names, slashed_append, Text.splitChars_append_mark, List.map_append,
    List.filter_append]

theorem not_doubleRooted_of_head? {hint : String} (h : (slashed hint).head? ≠ some '/') :
    ¬ DoubleRooted hint := by
  rintro ⟨rest, hrest, -⟩
  rw [hrest] at h
  exact h rfl

theorem join_append {first second : List String} (hfirst : first ≠ []) (hsecond : second ≠ []) :
    Text.join "/" (first ++ second) = Text.join "/" first ++ "/" ++ Text.join "/" second :=
  String.intercalate_append_of_ne_nil hfirst hsecond

theorem ordinary_of_mem_names {hint p : String} (h : p ∈ names hint) : Ordinary p := by
  simp only [names, List.mem_filter, List.mem_map, Bool.and_eq_true, decide_eq_true_eq] at h
  obtain ⟨⟨⟨piece, hpiece, rfl⟩, hempty, hdot⟩, -, hdots⟩ := h
  obtain ⟨hslash, hsubset⟩ := Text.forall_mem_splitChars '/' (slashed hint) piece hpiece
  refine ⟨hempty, hdot, hdots, by simpa using hslash, fun hmem => ?_⟩
  exact not_mem_slashed hint (hsubset (by simpa using hmem))

theorem keyParts_of_doubleRooted {hint : String} (h : DoubleRooted hint) :
    keyParts hint = "//" :: names hint := by
  obtain ⟨rest, hrest, hhead⟩ := h
  change (components (slashed hint)).filter _ = _
  unfold components names
  rw [hrest]
  cases rest with
  | nil => simp
  | cons c rest =>
    have hc : ¬ c = '/' := by simpa using hhead
    split
    · simp_all
    · simp
    · rename_i hone heq
      exact absurd (List.cons.inj heq).2.symm (hone _)
    · simp_all

theorem keyParts_of_not_doubleRooted {hint : String} (h : ¬ DoubleRooted hint) :
    keyParts hint = names hint := by
  change (components (slashed hint)).filter _ = _
  unfold components names
  dsimp only
  rw [List.filter_append]
  split
  · simp
  · rename_i rest hne hrest
    refine absurd ⟨rest, hrest, fun hhead => ?_⟩ h
    obtain ⟨more, rfl⟩ := List.head?_eq_some_iff.mp hhead
    exact hne more rfl
  · simp
  · simp

theorem cleanKey_of_doubleRooted {hint : String} (h : DoubleRooted hint) :
    cleanKey hint = .ok (Text.join "/" ("//" :: names hint)) := by
  rw [cleanKey, keyParts_of_doubleRooted h]
  rfl

section

variable {hint : String} (h : ¬ DoubleRooted hint)
include h

theorem cleanKey_of_names_eq_nil (hnames : names hint = []) :
    ∃ message, cleanKey hint = .error (.upload message) := by
  rw [cleanKey, keyParts_of_not_doubleRooted h, hnames]
  exact ⟨_, rfl⟩

theorem cleanKey_of_names_ne_nil (hnames : names hint ≠ []) :
    cleanKey hint = .ok (Text.join "/" (names hint)) := by
  rw [cleanKey, keyParts_of_not_doubleRooted h]
  exact if_neg (by simpa using hnames)

end

section

variable {parts : List String} (hparts : ∀ p ∈ parts, Ordinary p)
include hparts

theorem slashed_join : slashed (Text.join "/" parts) = (Text.join "/" parts).toList := by
  refine slashed_of_not_mem fun hslash => ?_
  obtain hmark | ⟨p, hp, hmem⟩ := Text.mem_join hslash
  · simp at hmark
  · exact (hparts p hp).backslash hmem

variable (hne : parts ≠ [])
include hne

theorem split_join : Text.split '/' (Text.join "/" parts) = parts := by
  rw [Text.split, show "/" = String.singleton '/' from rfl,
    Text.splitChars_join hne fun p hp => (hparts p hp).slash]
  simp

theorem head?_join : (Text.join "/" parts).toList.head? ≠ some '/' := by
  cases parts with
  | nil => exact absurd rfl hne
  | cons p rest =>
    have hp := hparts p List.mem_cons_self
    obtain ⟨c, cs, hchars⟩ := List.exists_cons_of_ne_nil
      (fun hnil => hp.ne_empty (String.toList_eq_nil_iff.mp hnil))
    have hc : c ≠ '/' := by
      rintro rfl
      exact hp.slash (by rw [hchars]; exact List.mem_cons_self)
    cases rest <;> simpa [Text.join, hchars] using hc

theorem names_join : names (Text.join "/" parts) = parts := by
  rw [names, slashed_join hparts, ← Text.split, split_join hparts hne, List.filter_filter,
    List.filter_eq_self]
  intro p hp
  have h := hparts p hp
  have hslash : p ≠ "/" := by
    rintro rfl
    simpa using h.slash
  simp [h.ne_empty, h.ne_dot, h.ne_dots, hslash]

theorem head?_slashed_join : (slashed (Text.join "/" parts)).head? ≠ some '/' := by
  rw [slashed_join hparts]
  exact head?_join hparts hne

theorem not_doubleRooted_join : ¬ DoubleRooted (Text.join "/" parts) :=
  not_doubleRooted_of_head? (head?_slashed_join hparts hne)

/-- Cleaning changes nothing in a key that leads inside a directory. -/
theorem cleanKey_join : cleanKey (Text.join "/" parts) = .ok (Text.join "/" parts) := by
  have hnames := names_join hparts hne
  rw [cleanKey_of_names_ne_nil (not_doubleRooted_join hparts hne) (by rwa [hnames]), hnames]

end

section

variable {name : String} (h : Ordinary name)
include h

theorem Ordinary.names : names name = [name] := by
  have hparts : ∀ p ∈ [name], Ordinary p := by simpa
  simpa [Text.join] using names_join hparts (by simp)

theorem Ordinary.head?_slashed : (slashed name).head? ≠ some '/' := by
  have hparts : ∀ p ∈ [name], Ordinary p := by simpa
  simpa [Text.join] using head?_slashed_join hparts (by simp)

end

/-! ## Keys and names -/

section

variable {hint key : String}

theorem exists_cleanKey (hnames : names hint ≠ []) : ∃ key, cleanKey hint = .ok key := by
  by_cases hrooted : DoubleRooted hint
  · exact ⟨_, cleanKey_of_doubleRooted hrooted⟩
  · exact ⟨_, cleanKey_of_names_ne_nil hrooted hnames⟩

/-- A key has the names of its hint. -/
theorem names_cleanKey (h : cleanKey hint = .ok key) : names key = names hint := by
  have hparts : ∀ p ∈ names hint, Ordinary p := fun p hp => ordinary_of_mem_names hp
  by_cases hrooted : DoubleRooted hint
  · rw [cleanKey_of_doubleRooted hrooted] at h
    cases h
    by_cases hnil : names hint = []
    · rw [hnil]
      decide
    · have hroot : names (Text.join "/" ["//"]) = [] := by decide
      rw [← List.singleton_append, join_append (by simp) hnil, names_append, hroot,
        names_join hparts hnil]
      rfl
  · by_cases hnil : names hint = []
    · obtain ⟨message, herror⟩ := cleanKey_of_names_eq_nil hrooted hnil
      rw [herror] at h
      cases h
    · rw [cleanKey_of_names_ne_nil hrooted hnil] at h
      cases h
      exact names_join hparts hnil

/-- Hints with other names have other keys. -/
theorem cleanKey_ne {hint' : String} (hnil : names hint ≠ []) (hne : names hint ≠ names hint') :
    cleanKey hint ≠ cleanKey hint' := by
  obtain ⟨key, hkey⟩ := exists_cleanKey hnil
  intro heq
  exact hne ((names_cleanKey hkey).symm.trans (names_cleanKey (heq.symm.trans hkey)))

end

end Pageflow.Blob
