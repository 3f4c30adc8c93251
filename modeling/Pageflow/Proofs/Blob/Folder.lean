import Pageflow.Blob.Store
import Pageflow.Proofs.Blob.Key

/-! Keys inside a folder, and what two stores make of one hint. A store of files cleans the hint
alone, a bucket cleans it together with its folder, whose names make up for what the hint lacks. -/
namespace Pageflow.Blob

/-- A path in a folder; without a folder it is the path itself. -/
def inFolder (folder path : String) : String :=
  if folder.isEmpty then path else folder ++ "/" ++ path

@[simp] theorem inFolder_empty (path : String) : inFolder "" path = path := rfl

theorem inFolder_of_ne_empty {folder : String} (h : folder ≠ "") (path : String) :
    inFolder folder path = folder ++ "/" ++ path :=
  if_neg (by simpa using h)

theorem names_inFolder (folder path : String) :
    names (inFolder folder path) = names folder ++ names path := by
  by_cases h : folder = ""
  · subst h
    rfl
  · rw [inFolder_of_ne_empty h, names_append]

theorem not_doubleRooted_inFolder {folder path : String} (hne : folder ≠ "")
    (h : (slashed folder).head? ≠ some '/') : ¬ DoubleRooted (inFolder folder path) := by
  refine not_doubleRooted_of_head? ?_
  have hchars : slashed folder ≠ [] := by simpa [slashed] using hne
  rwa [inFolder_of_ne_empty hne, slashed_append, List.head?_append_of_ne_nil _ hchars]

/-! ## What a store takes -/

/-- A store of files takes the hint: what comes with it is written to the target of the key. -/
structure FileStore.Accepts (s : FileStore) (hint key : String) : Prop where
  cleaned : cleanKey hint = .ok key
  stored : ∀ {α : Type} {files files' : FileTree α} (data : α),
    files.write (s.target key) data = .ok files' →
      s.upload files data hint = .ok (s.url key, files')

/-- A bucket takes the hint: what comes with it becomes the object of the key. -/
structure BucketStore.Accepts (s : BucketStore) (hint key : String) : Prop where
  cleaned : s.key hint = .ok key
  stored : s.finish key (.ok ()) = .ok (s.url key)

theorem FileStore.accepts_iff {s : FileStore} {hint key : String} :
    s.Accepts hint key ↔ cleanKey hint = .ok key := by
  refine ⟨Accepts.cleaned, fun h => ⟨h, fun data hwrite => ?_⟩⟩
  simp only [FileStore.upload, h, bind, Except.bind, hwrite]
  rfl

theorem BucketStore.accepts_iff {s : BucketStore} {hint key : String} :
    s.Accepts hint key ↔ s.key hint = .ok key :=
  ⟨Accepts.cleaned, fun h => ⟨h, rfl⟩⟩

/-- Both stores take the hint or neither does, and the key in the bucket is the one of the file
inside the folder. -/
structure SameHint (files : FileStore) (bucket : BucketStore) (folder hint : String) : Prop where
  accepted : (∃ key, bucket.Accepts hint key) ↔ ∃ key, files.Accepts hint key
  keys : ∀ {key inner}, bucket.Accepts hint key → files.Accepts hint inner →
    key = inFolder folder inner

section

variable {folder : List String} (hfolder : ∀ p ∈ folder, Ordinary p)
include hfolder

theorem empty_not_mem_split_join (hne : folder ≠ []) :
    "" ∉ Text.split '/' (Text.join "/" folder) := by
  rw [split_join hfolder hne]
  exact fun h => (hfolder _ h).ne_empty rfl

theorem trimChar_join : Text.trimChar '/' (Text.join "/" folder) = Text.join "/" folder := by
  cases hnil : folder with
  | nil => decide
  | cons p rest =>
    rw [← hnil]
    have hne : folder ≠ [] := by simp [hnil]
    rw [Text.trimChar, Text.trimBy_eq_self, String.ofList_toList]
    · intro c hc
      rw [beq_eq_false_iff_ne]
      rintro rfl
      exact head?_join hfolder hne hc
    · intro c hc
      rw [beq_eq_false_iff_ne]
      rintro rfl
      obtain ⟨front, hfront⟩ := List.getLast?_eq_some_iff.mp hc
      refine empty_not_mem_split_join hfolder hne ?_
      rw [Text.split, hfront, Text.splitChars_append_mark]
      simp [Text.splitChars]

variable (hne : folder ≠ [])
include hne

theorem join_ne_empty : Text.join "/" folder ≠ "" := by
  intro h
  refine empty_not_mem_split_join hfolder hne ?_
  rw [h]
  decide

/-- With a folder of ordinary names, every hint is one that can be cleaned. -/
theorem cleanKey_inFolder (hint : String) :
    cleanKey (inFolder (Text.join "/" folder) hint) =
      .ok (Text.join "/" (folder ++ names hint)) := by
  have hnames : names (inFolder (Text.join "/" folder) hint) = folder ++ names hint := by
    rw [names_inFolder, names_join hfolder hne]
  have hrooted : ¬ DoubleRooted (inFolder (Text.join "/" folder) hint) :=
    not_doubleRooted_inFolder (join_ne_empty hfolder hne) (head?_slashed_join hfolder hne)
  rw [cleanKey_of_names_ne_nil hrooted (by simp [hnames, hne]), hnames]

/-- The key of a hint that begins with two slashes is not a place inside a folder. -/
theorem join_ne_inFolder_doubleRooted (rest more : List String)
    (hrest : ∀ p ∈ rest, Ordinary p) :
    Text.join "/" (folder ++ rest) ≠
      inFolder (Text.join "/" folder) (Text.join "/" ("//" :: more)) := by
  have hparts : ∀ p ∈ folder ++ rest, Ordinary p := by
    simpa [or_imp, forall_and] using ⟨hfolder, hrest⟩
  intro heq
  refine empty_not_mem_split_join hparts (by simp [hne]) ?_
  have hslash : ∃ cs, (Text.join "/" ("//" :: more)).toList = '/' :: cs := by
    cases more <;> simp [Text.join]
  obtain ⟨cs, hcs⟩ := hslash
  rw [heq, inFolder_of_ne_empty (join_ne_empty hfolder hne), Text.split, String.toList_append,
    String.toList_append, hcs]
  simp [Text.splitChars_append_mark, Text.splitChars_cons_mark]

end

/-! ## One hint for two stores -/

section

variable {folder : List String} (hfolder : ∀ p ∈ folder, Ordinary p)
  {name baseUrl : String} {bucket : BucketStore}
  (hnew : BucketStore.new name (Text.join "/" folder) baseUrl = .ok bucket)
  {files : FileStore} {hint : String}
include hfolder hnew

theorem key_eq_cleanKey : bucket.key hint = cleanKey (inFolder (Text.join "/" folder) hint) := by
  have hname : bucket.folder = Text.join "/" folder := by
    simp only [BucketStore.new] at hnew
    split at hnew
    · cases hnew
    · cases hnew
      exact trimChar_join hfolder
  rw [BucketStore.key, hname]
  rfl

theorem sameHint_of_no_folder (hnil : folder = []) :
    SameHint files bucket (Text.join "/" folder) hint := by
  have hkey : bucket.key hint = cleanKey (inFolder (Text.join "/" folder) hint) :=
    key_eq_cleanKey hfolder hnew
  subst hnil
  constructor
  · simp only [BucketStore.accepts_iff, FileStore.accepts_iff, hkey]
    rfl
  · intro key inner houter hinner
    rw [BucketStore.accepts_iff, hkey] at houter
    exact Except.ok.inj (houter.symm.trans (FileStore.accepts_iff.mp hinner))

variable (hne : folder ≠ [])
include hne

theorem bucket_accepts_iff {key : String} :
    bucket.Accepts hint key ↔ key = Text.join "/" (folder ++ names hint) := by
  rw [BucketStore.accepts_iff, key_eq_cleanKey hfolder hnew, cleanKey_inFolder hfolder hne,
    Except.ok.injEq, eq_comm]

theorem sameHint_of_names_ne_nil (hnames : names hint ≠ []) (hrooted : ¬ DoubleRooted hint) :
    SameHint files bucket (Text.join "/" folder) hint := by
  have hclean := cleanKey_of_names_ne_nil hrooted hnames
  constructor
  · simp [bucket_accepts_iff hfolder hnew hne, FileStore.accepts_iff, hclean]
  · intro key inner houter hinner
    rw [FileStore.accepts_iff, hclean] at hinner
    rw [(bucket_accepts_iff hfolder hnew hne).mp houter, ← Except.ok.inj hinner,
      inFolder_of_ne_empty (join_ne_empty hfolder hne), join_append hne hnames]

/-- The names of the folder are enough for the bucket. -/
theorem not_sameHint_of_names_eq_nil (hnames : names hint = []) (hrooted : ¬ DoubleRooted hint) :
    ¬ SameHint files bucket (Text.join "/" folder) hint := by
  intro h
  obtain ⟨inner, hinner⟩ := h.accepted.mp ⟨_, (bucket_accepts_iff hfolder hnew hne).mpr rfl⟩
  obtain ⟨message, herror⟩ := cleanKey_of_names_eq_nil hrooted hnames
  rw [FileStore.accepts_iff, herror] at hinner
  cases hinner

theorem not_sameHint_of_doubleRooted (hrooted : DoubleRooted hint) :
    ¬ SameHint files bucket (Text.join "/" folder) hint := by
  intro h
  have hkeys := h.keys ((bucket_accepts_iff hfolder hnew hne).mpr rfl)
    (FileStore.accepts_iff.mpr (cleanKey_of_doubleRooted hrooted))
  exact join_ne_inFolder_doubleRooted hfolder hne _ _ (fun p hp => ordinary_of_mem_names hp) hkeys

end

/-- The two stores agree on a hint that has a name of its own and is not an absolute path. -/
theorem sameHint_iff {folder : List String} (hfolder : ∀ p ∈ folder, Ordinary p)
    {name baseUrl : String} {bucket : BucketStore}
    (hnew : BucketStore.new name (Text.join "/" folder) baseUrl = .ok bucket)
    (files : FileStore) (hint : String) :
    SameHint files bucket (Text.join "/" folder) hint ↔
      folder = [] ∨ names hint ≠ [] ∧ ¬ DoubleRooted hint := by
  constructor
  · intro h
    by_contra hcon
    obtain ⟨hne, hbad⟩ := not_or.mp hcon
    by_cases hrooted : DoubleRooted hint
    · exact not_sameHint_of_doubleRooted hfolder hnew hne hrooted h
    · have hnames : names hint = [] := by
        by_contra hnames
        exact hbad ⟨hnames, hrooted⟩
      exact not_sameHint_of_names_eq_nil hfolder hnew hne hnames hrooted h
  · rintro (hnil | ⟨hnames, hrooted⟩)
    · exact sameHint_of_no_folder hfolder hnew hnil
    · by_cases hne : folder = []
      · exact sameHint_of_no_folder hfolder hnew hne
      · exact sameHint_of_names_ne_nil hfolder hnew hne hnames hrooted

/-- A bucket with a folder of two names, and a hint with a step up and backslashes. -/
theorem sameHint_iff_nested :
    (∀ p ∈ ["prod", "x"], Ordinary p) ∧
    BucketStore.new "shots" (Text.join "/" ["prod", "x"]) "" =
      .ok ⟨"shots", "prod/x", "https://storage.googleapis.com/shots"⟩ ∧
    SameHint (FileStore.new "/srv/blobs" "")
      ⟨"shots", "prod/x", "https://storage.googleapis.com/shots"⟩
      (Text.join "/" ["prod", "x"]) "..\\w\\z.png" := by
  have hparts : ∀ p ∈ ["prod", "x"], Ordinary p := by decide
  have hnew : BucketStore.new "shots" (Text.join "/" ["prod", "x"]) "" =
      .ok ⟨"shots", "prod/x", "https://storage.googleapis.com/shots"⟩ := by decide
  exact ⟨hparts, hnew, (sameHint_iff hparts hnew _ _).mpr
    (.inr ⟨by decide, not_doubleRooted_of_head? (by decide)⟩)⟩

/-- A step up is refused by the store of files, and becomes the folder itself in the bucket. -/
theorem dots_not_sameHint :
    BucketStore.new "shots" "prod" "" =
      .ok ⟨"shots", "prod", "https://storage.googleapis.com/shots"⟩ ∧
    cleanKey ".." = .error (.upload "Invalid blob path: '..'") ∧
    BucketStore.key ⟨"shots", "prod", "https://storage.googleapis.com/shots"⟩ ".." = .ok "prod" ∧
    ¬ SameHint (FileStore.new "/srv/blobs" "")
      ⟨"shots", "prod", "https://storage.googleapis.com/shots"⟩ "prod" ".." := by
  have hnew : BucketStore.new "shots" (Text.join "/" ["prod"]) "" =
      .ok ⟨"shots", "prod", "https://storage.googleapis.com/shots"⟩ := by decide
  have hparts : ∀ p ∈ ["prod"], Ordinary p := by decide
  have hrooted : ¬ DoubleRooted ".." := not_doubleRooted_of_head? (by decide)
  exact ⟨hnew, by decide +kernel, by decide,
    not_sameHint_of_names_eq_nil hparts hnew (by decide) (by decide) hrooted⟩

end Pageflow.Blob
