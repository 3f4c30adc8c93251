import Pageflow.Blob.Store
import Pageflow.Proofs.Blob.Key
import Pageflow.Proofs.Files.Tree

/-! Where a store of files writes. Keys of ordinary names stay below its root; the key of a
hint that begins with two slashes is an absolute path, for which the root is ignored. -/
namespace Pageflow.Blob

open FileTree (Wrote)

/-- A place inside a directory, at any depth. -/
def Below (root p : Path) : Prop :=
  ∃ parts, parts ≠ [] ∧ (∀ part ∈ parts, Ordinary part) ∧ p = ⟨root.root, root.parts ++ parts⟩

/-- What a store promises of the hints it is given. -/
structure Kept (hint : String) : Prop where
  cleans : (∃ message, cleanKey hint = .error (.upload message)) ∨
    ∃ key, cleanKey hint = .ok key ∧ Relative key
  stays : ∀ key, cleanKey hint = .ok key → cleanKey key = .ok key
  stored : ∀ {α : Type} (store : FileStore) (files files' : FileTree α) (data : α) (url : String),
    store.upload files data hint = .ok (url, files') →
      ∃ p, Below store.root p ∧ Wrote p data files files'

theorem ofString_join {parts : List String} (hparts : ∀ p ∈ parts, Ordinary p)
    (hne : parts ≠ []) : Path.ofString (Text.join "/" parts) = ⟨"", parts⟩ := by
  have hhead := head?_join hparts hne
  unfold Path.ofString
  rw [split_join hparts hne, List.filter_eq_self.mpr fun p hp => by
    simp [(hparts p hp).ne_empty, (hparts p hp).ne_dot]]
  split <;> simp_all

theorem target_eq_join (store : FileStore) {parts : List String}
    (hparts : ∀ p ∈ parts, Ordinary p) (hne : parts ≠ []) :
    store.target (Text.join "/" parts) = ⟨store.root.root, store.root.parts ++ parts⟩ := by
  rw [FileStore.target, ofString_join hparts hne]
  rfl

theorem target_join (store : FileStore) {parts : List String} (hparts : ∀ p ∈ parts, Ordinary p)
    (hne : parts ≠ []) : Below store.root (store.target (Text.join "/" parts)) :=
  ⟨parts, hne, hparts, target_eq_join store hparts hne⟩

theorem wrote_of_upload {α : Type} {store : FileStore} {files files' : FileTree α} {data : α}
    {hint url : String} (h : store.upload files data hint = .ok (url, files')) :
    ∃ key, cleanKey hint = .ok key ∧ Wrote (store.target key) data files files' := by
  simp only [FileStore.upload, bind, Except.bind] at h
  split at h
  · cases h
  rename_i key hkey
  split at h
  · rename_i written hwritten
    cases h
    exact ⟨key, hkey, (FileTree.wrote_of_write hwritten).2⟩
  · cases h

theorem kept_of_not_doubleRooted {hint : String} (h : ¬ DoubleRooted hint) : Kept hint := by
  by_cases hnames : names hint = []
  · obtain ⟨message, herror⟩ := cleanKey_of_names_eq_nil h hnames
    refine ⟨.inl ⟨message, herror⟩, fun key hkey => ?_, fun store files files' data url hup => ?_⟩
    · rw [herror] at hkey
      cases hkey
    · obtain ⟨key, hkey, -⟩ := wrote_of_upload hup
      rw [herror] at hkey
      cases hkey
  · have hparts : ∀ p ∈ names hint, Ordinary p := fun p hp => ordinary_of_mem_names hp
    have hclean := cleanKey_of_names_ne_nil h hnames
    refine ⟨.inr ⟨_, hclean, _, hnames, hparts, rfl⟩, fun key hkey => ?_,
      fun store files files' data url hup => ?_⟩
    · rw [hclean] at hkey
      cases hkey
      exact cleanKey_join hparts hnames
    · obtain ⟨key, hkey, hwrote⟩ := wrote_of_upload hup
      rw [hclean] at hkey
      cases hkey
      exact ⟨_, target_join store hparts hnames, hwrote⟩

theorem not_relative_of_doubleRooted {hint key : String} (h : DoubleRooted hint)
    (hkey : cleanKey hint = .ok key) : ¬ Relative key := by
  rintro ⟨parts, hne, hparts, rfl⟩
  rw [cleanKey_of_doubleRooted h] at hkey
  refine head?_join hparts hne ?_
  rw [← Except.ok.inj hkey]
  cases names hint <;> simp [Text.join]

theorem target_of_doubleRooted (store : FileStore) {hint : String} (hnames : names hint ≠ []) :
    store.target (Text.join "/" ("//" :: names hint)) = ⟨"/", names hint⟩ := by
  have hparts : ∀ p ∈ names hint, Ordinary p := fun p hp => ordinary_of_mem_names hp
  -- the two slashes of the root and the one that joins it to the first name
  have hchars : (Text.join "/" ("//" :: names hint)).toList =
      '/' :: '/' :: '/' :: (Text.join "/" (names hint)).toList := by
    cases hnames' : names hint with
    | nil => exact absurd hnames' hnames
    | cons p rest => simp [Text.join]
  have hsplit : Text.split '/' (Text.join "/" ("//" :: names hint)) =
      "" :: "" :: "" :: names hint := by
    rw [Text.split, hchars]
    simp only [Text.splitChars_cons_mark, List.map_cons]
    rw [← Text.split, split_join hparts hnames]
  have hkept : (names hint).filter (fun p => p ≠ "" && p ≠ ".") = names hint :=
    List.filter_eq_self.mpr fun p hp => by simp [(hparts p hp).ne_empty, (hparts p hp).ne_dot]
  have hpath : Path.ofString (Text.join "/" ("//" :: names hint)) = ⟨"/", names hint⟩ := by
    rw [Path.ofString, hsplit, hchars]
    simpa using hkept
  rw [FileStore.target, hpath]
  rfl

/-- The root of the store plays no part in where such a hint is stored. -/
theorem wrote_of_upload_doubleRooted {α : Type} {store : FileStore} {files files' : FileTree α}
    {data : α} {hint url : String} (h : DoubleRooted hint) (hnames : names hint ≠ [])
    (hup : store.upload files data hint = .ok (url, files')) :
    Wrote ⟨"/", names hint⟩ data files files' := by
  obtain ⟨key, hkey, hwrote⟩ := wrote_of_upload hup
  rw [cleanKey_of_doubleRooted h] at hkey
  cases hkey
  rwa [target_of_doubleRooted store hnames] at hwrote

theorem not_kept_of_doubleRooted {hint : String} (h : DoubleRooted hint) : ¬ Kept hint := by
  intro hkept
  obtain ⟨message, herror⟩ | ⟨key, hkey, hrelative⟩ := hkept.cleans
  · rw [cleanKey_of_doubleRooted h] at herror
    cases herror
  · exact not_relative_of_doubleRooted h hkey hrelative

/-- A store keeps its promises for all hints but those that begin with exactly two slashes. -/
theorem kept_iff (hint : String) : Kept hint ↔ ¬ DoubleRooted hint :=
  ⟨fun hkept h => not_kept_of_doubleRooted h hkept, kept_of_not_doubleRooted⟩

theorem doubleSlash_not_kept : ¬ Kept "//a" ∧ cleanKey "//a" = .ok "///a" ∧
    (FileStore.new "/srv/blobs" "").target "///a" = ⟨"/", ["a"]⟩ := by
  have hrooted : DoubleRooted "//a" := ⟨['a'], by decide, by decide⟩
  have hnames : names "//a" = ["a"] := by decide
  have hkey : Text.join "/" ("//" :: names "//a") = "///a" := by rw [hnames]; decide
  refine ⟨not_kept_of_doubleRooted hrooted, ?_, ?_⟩
  · rw [cleanKey_of_doubleRooted hrooted, hkey]
  · rw [← hkey, target_of_doubleRooted _ (by simp [hnames]), hnames]

end Pageflow.Blob
