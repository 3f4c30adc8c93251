import Pageflow.Challenge.Detector
import Pageflow.Dom.Script
import Pageflow.Proofs.Activity.Run
import Pageflow.Proofs.Text.Parts

/-! The verdict on an open page. Which element the page lists is told from its tree alone: what
the selectors fit, what is rendered, and what the texts mention decide together whether there is a
challenge, which one is named, and why there is none. -/
namespace Pageflow.Text

/-! ## What is shown

What a page shows of an element, without the script: whether it is rendered at all, and how
much of its text is looked at. -/

/-- The number of sixteen-bit units of a text. -/
def units : List Char → Nat
  | [] => 0
  | c :: cs => unitsOf c + units cs

/-- `head` is what the first `n` units of a text hold of its characters. -/
structure Heads (n : Nat) (cs head : List Char) : Prop where
  starts : head <+: cs
  fits : units head ≤ n
  longest {other : List Char} : other <+: cs → units other ≤ n → other <+: head

theorem heads_takeUnits (n : Nat) (cs : List Char) : Heads n cs (takeUnits n cs) := by
  induction cs generalizing n with
  | nil => exact ⟨List.prefix_rfl, by simp [takeUnits, units], fun h _ => h⟩
  | cons c cs ih =>
    by_cases hc : unitsOf c ≤ n
    · obtain ⟨hstarts, hfits, hlongest⟩ := ih (n - unitsOf c)
      rw [takeUnits, if_pos hc]
      refine ⟨List.prefix_cons_inj c |>.2 hstarts, ?_, fun {other} hother hunits => ?_⟩
      · simp only [units] at hfits ⊢
        omega
      · rcases other with _ | ⟨d, rest⟩
        · exact List.nil_prefix
        · obtain ⟨rfl, hrest⟩ := List.cons_prefix_cons.1 hother
          simp only [units] at hunits hlongest
          exact List.prefix_cons_inj d |>.2 (hlongest hrest (by omega))
    · rw [takeUnits, if_neg hc]
      refine ⟨List.nil_prefix, by simp [units], fun {other} hother hunits => ?_⟩
      rcases other with _ | ⟨d, rest⟩
      · exact List.nil_prefix
      · obtain ⟨rfl, hrest⟩ := List.cons_prefix_cons.1 hother
        simp only [units] at hunits
        omega

/-- There is one such head. -/
theorem Heads.eq {n : Nat} {cs head : List Char} (h : Heads n cs head) : head = takeUnits n cs := by
  have htake := heads_takeUnits n cs
  have hle := (htake.longest h.starts h.fits).length_le
  have hge := h.longest htake.starts htake.fits
  exact (hge.eq_of_length_le hle).symm

end Pageflow.Text

namespace Pageflow.Dom.Spot

open Text (Heads lower)

variable {s : Spot} {keyword : String}

/-- What it takes to be seen: a box with an extent that no style takes away, neither its own nor,
by transparency, that of an element around it. -/
structure Rendered (s : Spot) : Prop where
  displayed : s.here.traits.display ≠ "none"
  visible : s.here.traits.visibility ≠ "hidden"
  wide : Double.lt 0 s.here.traits.width = true
  high : Double.lt 0 s.here.traits.height = true
  shows : ∀ f ∈ s.here :: s.above, ∀ x, f.traits.opacity? = some x → x.isZero = false

theorem isRendered_iff : s.isRendered = true ↔ s.Rendered := by
  have hshows (f : Frame) : (!f.traits.isTransparent) = true ↔
      ∀ x, f.traits.opacity? = some x → x.isZero = false := by
    unfold Traits.isTransparent
    cases f.traits.opacity? <;> simp
  simp only [isRendered, Bool.and_eq_true, bne_iff_ne, List.all_eq_true, hshows, and_assoc]
  exact ⟨fun ⟨h₁, h₂, h₃, h₄, h₅⟩ => ⟨h₁, h₂, h₃, h₄, h₅⟩,
    fun h => ⟨h.displayed, h.visible, h.wide, h.high, h.shows⟩⟩

/-- The text of an element: what it shows, or else the text of its nodes. -/
def text (s : Spot) : List Char :=
  if s.here.traits.innerText.isEmpty then s.here.chars else s.here.traits.innerText.toList

/-- The beginning of the text holds the keyword, in any case. -/
def Mentions (keyword : String) (s : Spot) : Prop :=
  ∃ head, Heads candidateUnits s.text head ∧
    (lower keyword).toList <:+: (lower (String.ofList head)).toList

theorem mentions_iff :
    Text.contains (lower s.shownText) (lower keyword) = true ↔ s.Mentions keyword := by
  unfold Text.contains
  rw [Text.hasPart_iff]
  constructor
  · exact fun h => ⟨_, Text.heads_takeUnits _ _, h⟩
  · rintro ⟨head, hhead, hpart⟩
    rw [hhead.eq] at hpart
    exact hpart

end Pageflow.Dom.Spot

namespace Pageflow.Challenge

open Browser Dom

/-- An element of a tree that a selector fits, if it is one that can be read. -/
structure Selects (read : SelectorReader) (root : Node) (selector : String) (s : Spot) : Prop where
  inside : s ∈ root.spots [] []
  fits : ∃ fits outermost, read selector = some fits ∧
    (root.spots [] []).head? = some outermost ∧ fits outermost s = true

/-- What an element has to say to be a challenge: one of the keywords, if there is any. -/
def Marked (keywords : List String) (s : Spot) : Prop :=
  (∀ keyword ∈ keywords, keyword = "") ∨ ∃ keyword ∈ keywords, keyword ≠ "" ∧ s.Mentions keyword

/-- An element that is a challenge. -/
structure Challenges (read : SelectorReader) (root : Node) (keywords : List String)
    (selector : String) (s : Spot) : Prop where
  selects : Selects read root selector s
  rendered : s.Rendered
  marked : Marked keywords s

/-- The first challenge: no selector before has one, and no element before is one. -/
structure First (read : SelectorReader) (root : Node) (selectors keywords : List String)
    (selector : String) (s : Spot) : Prop where
  challenges : Challenges read root keywords selector s
  leads : ∃ before after, selectors = before ++ selector :: after ∧
    ∀ earlier ∈ before, ∀ other, ¬ Challenges read root keywords earlier other
  precedes : ∃ before after, root.spots [] [] = before ++ s :: after ∧
    ∀ earlier ∈ before, ¬ Challenges read root keywords selector earlier

/-- The keyword that is named with an element: the first one it mentions, in lower case. -/
inductive Named (keywords : List String) (s : Spot) : String → Prop
  | alone (h : ∀ keyword ∈ keywords, keyword = "") : Named keywords s ""
  | first {before after : List String} {keyword : String}
      (hsplit : keywords = before ++ keyword :: after) (hne : keyword ≠ "")
      (hmentions : s.Mentions keyword)
      (hbefore : ∀ earlier ∈ before, earlier ≠ "" → ¬ s.Mentions earlier) :
      Named keywords s (Text.lower keyword)

/-- Why there is no challenge, if there is none. -/
def Detection.reason? : Detection → Option Reason
  | .found _ _ _ => none
  | .dismissed reason _ => some reason

/-- The verdict on a tree, one case after the other. -/
inductive Verdict (read : SelectorReader) (root : Node) (selectors keywords : List String)
    (url : String) : Detection → Prop
  | found {selector keyword : String} {s : Spot} (hfirst : First read root selectors keywords selector s)
      (hnamed : Named keywords s keyword) :
      Verdict read root selectors keywords url (.found selector keyword url)
  | absent (hnone : ∀ selector ∈ selectors, ∀ s, ¬ Selects read root selector s) (address : String) :
      Verdict read root selectors keywords url (.dismissed .absent address)
  | notVisible (hsome : ∃ selector ∈ selectors, ∃ s, Selects read root selector s)
      (hnone : ∀ selector ∈ selectors, ∀ s, Selects read root selector s → ¬ s.Rendered) :
      Verdict read root selectors keywords url (.dismissed .notVisible url)
  | noKeyword (hsome : ∃ selector ∈ selectors, ∃ s, Selects read root selector s ∧ s.Rendered)
      (hnone : ∀ selector ∈ selectors, ∀ s, ¬ Challenges read root keywords selector s) :
      Verdict read root selectors keywords url (.dismissed .noKeyword url)

/-- What a detection says of a tree. -/
structure Exact (read : SelectorReader) (root : Node) (selectors keywords : List String)
    (url : String) (detection : Detection) : Prop where
  found : detection.isFound = true ↔
    ∃ selector ∈ selectors, ∃ s, Challenges read root keywords selector s
  named {selector keyword address : String} : detection = .found selector keyword address →
    address = url ∧ ∃ s, First read root selectors keywords selector s ∧ Named keywords s keyword
  absent : detection.reason? = some .absent ↔
    ∀ selector ∈ selectors, ∀ s, ¬ Selects read root selector s
  notVisible : detection.reason? = some .notVisible ↔
    (∃ selector ∈ selectors, ∃ s, Selects read root selector s) ∧
      ∀ selector ∈ selectors, ∀ s, Selects read root selector s → ¬ s.Rendered
  noKeyword : detection.reason? = some .noKeyword ↔
    (∃ selector ∈ selectors, ∃ s, Selects read root selector s ∧ s.Rendered) ∧
      ∀ selector ∈ selectors, ∀ s, Selects read root selector s → s.Rendered → ¬ Marked keywords s

/-- An open page that shows a tree: it lists the candidates of whatever selectors it is asked. -/
structure Shows {W : Type} (env : Responses State Ask Ask.Reply W) (page : PageRef)
    (read : SelectorReader) (root : Node) (url : String) : Prop where
  isOpen : ∀ x, (env (.page page .isClosed) x).1 = .ok false
  candidates : ∀ selectors x, (env (.page page (.candidates selectors)) x).1 =
    .ok (.arr ((root.candidates read selectors).map Candidate.toJson))
  address : ∀ x, (env (.page page .url) x).1 = .ok url

variable {read : SelectorReader} {root : Node} {selectors keywords : List String}
variable {selector keyword url : String} {s : Spot}

theorem First.mem (h : First read root selectors keywords selector s) : selector ∈ selectors := by
  obtain ⟨before, after, rfl, -⟩ := h.leads
  simp

theorem Verdict.exact {detection : Detection}
    (h : Verdict read root selectors keywords url detection) :
    Exact read root selectors keywords url detection := by
  cases h with
  | @found selector keyword s hfirst hnamed =>
    have hmem := hfirst.mem
    obtain ⟨hselects, hrendered, hmarked⟩ := hfirst.challenges
    constructor
    case found => exact iff_of_true rfl ⟨_, hmem, s, hfirst.challenges⟩
    case named => rintro _ _ _ ⟨⟩; exact ⟨rfl, s, hfirst, hnamed⟩
    case absent => exact iff_of_false nofun fun h => h _ hmem s hselects
    case notVisible => exact iff_of_false nofun fun h => h.2 _ hmem s hselects hrendered
    case noKeyword => exact iff_of_false nofun fun h => h.2 _ hmem s hselects hrendered hmarked
  | absent hnone address =>
    constructor
    case found => exact iff_of_false nofun fun ⟨_, hmem, _, h⟩ => hnone _ hmem _ h.selects
    case named => exact nofun
    case absent => exact iff_of_true rfl hnone
    case notVisible => exact iff_of_false nofun fun ⟨⟨_, hmem, _, h⟩, _⟩ => hnone _ hmem _ h
    case noKeyword => exact iff_of_false nofun fun ⟨⟨_, hmem, _, h, _⟩, _⟩ => hnone _ hmem _ h
  | notVisible hsome hnone =>
    constructor
    case found =>
      exact iff_of_false nofun fun ⟨_, hmem, _, h⟩ => hnone _ hmem _ h.selects h.rendered
    case named => exact nofun
    case absent =>
      obtain ⟨_, hmem, _, h⟩ := hsome
      exact iff_of_false nofun fun hall => hall _ hmem _ h
    case notVisible => exact iff_of_true rfl ⟨hsome, hnone⟩
    case noKeyword =>
      exact iff_of_false nofun fun ⟨⟨_, hmem, _, h, hrendered⟩, _⟩ => hnone _ hmem _ h hrendered
  | noKeyword hsome hnone =>
    constructor
    case found => exact iff_of_false nofun fun ⟨_, hmem, _, h⟩ => hnone _ hmem _ h
    case named => exact nofun
    case absent =>
      obtain ⟨_, hmem, _, h, -⟩ := hsome
      exact iff_of_false nofun fun hall => hall _ hmem _ h
    case notVisible =>
      obtain ⟨_, hmem, _, h, hrendered⟩ := hsome
      exact iff_of_false nofun fun hall => hall.2 _ hmem _ h hrendered
    case noKeyword =>
      exact iff_of_true rfl ⟨hsome, fun _ hmem _ h hrendered hmarked =>
        hnone _ hmem _ ⟨h, hrendered, hmarked⟩⟩

/-! ## The candidates of a tree -/

/-- Whether a selector fits an element of the tree. -/
def fitsIn (read : SelectorReader) (root : Node) (selector : String) (s : Spot) : Bool :=
  match read selector, (root.spots [] []).head? with
  | some fits, some outermost => fits outermost s
  | _, _ => false

theorem selected_eq_filter :
    root.selected read selector = (root.spots [] []).filter (fitsIn read root selector) := by
  unfold Node.selected fitsIn
  cases read selector <;> cases root.spots [] [] <;> simp

theorem fitsIn_iff (hinside : s ∈ root.spots [] []) :
    fitsIn read root selector s = true ↔ Selects read root selector s := by
  unfold fitsIn
  constructor
  · intro h
    split at h
    · next fits outermost hread htop => exact ⟨hinside, fits, outermost, hread, htop, h⟩
    · cases h
  · rintro ⟨-, fits, outermost, hread, htop, h⟩
    rw [hread, htop]
    exact h

theorem mem_selected : s ∈ root.selected read selector ↔ Selects read root selector s := by
  rw [selected_eq_filter, List.mem_filter]
  exact ⟨fun h => (fitsIn_iff h.1).1 h.2, fun h => ⟨h.inside, (fitsIn_iff h.inside).2 h⟩⟩

theorem mem_candidates {c : Candidate} : c ∈ root.candidates read selectors ↔
    ∃ selector ∈ selectors, ∃ s, Selects read root selector s ∧ s.candidate selector = c := by
  simp [Node.candidates, mem_selected]

theorem candidate_visible : (s.candidate selector).visible = true ↔ s.Rendered :=
  Spot.isRendered_iff

/-! ## Keywords -/

theorem no_keywords_iff : (Detector.new selectors keywords).keywords = [] ↔
    ∀ keyword ∈ keywords, keyword = "" := by
  simp [Detector.new, List.filter_eq_nil_iff]

theorem shownText_candidate (hrendered : s.Rendered) :
    (s.candidate selector).text = s.shownText := by
  simp [Spot.candidate, Spot.isRendered_iff.2 hrendered]

/-- The search among the lowered keywords, as one among the given ones. -/
theorem keywordIn?_eq (text : String) : (Detector.new selectors keywords).keywordIn? text =
    (keywords.find? fun keyword =>
      !keyword.isEmpty && Text.contains (Text.lower text) (Text.lower keyword)).map Text.lower := by
  simp only [Detector.keywordIn?, Detector.new, List.find?_map, List.find?_filter,
    Function.comp_apply, Bool.decide_and, Bool.decide_eq_true]

theorem mentioned_iff : (!keyword.isEmpty &&
    Text.contains (Text.lower s.shownText) (Text.lower keyword)) = true ↔
      keyword ≠ "" ∧ s.Mentions keyword := by
  rw [Bool.and_eq_true, Spot.mentions_iff]
  simp

theorem named_of_match? (hrendered : s.Rendered)
    (h : (Detector.new selectors keywords).match? (s.candidate selector) = some keyword) :
    Named keywords s keyword := by
  unfold Detector.match? at h
  split at h
  · next hnone =>
    cases h
    exact .alone (no_keywords_iff.1 (List.isEmpty_iff.1 hnone))
  · rw [shownText_candidate hrendered, keywordIn?_eq, Option.map_eq_some_iff] at h
    obtain ⟨keyword, hfind, rfl⟩ := h
    obtain ⟨hkeyword, before, after, hsplit, hbefore⟩ := List.find?_eq_some_iff_append.1 hfind
    obtain ⟨hne, hmentions⟩ := mentioned_iff.1 hkeyword
    refine .first hsplit hne hmentions fun earlier hearlier hne' hmentions' => ?_
    have hmissed := hbefore earlier hearlier
    rw [mentioned_iff.2 ⟨hne', hmentions'⟩] at hmissed
    cases hmissed

theorem match?_isSome_iff (hrendered : s.Rendered) :
    ((Detector.new selectors keywords).match? (s.candidate selector)).isSome = true ↔
      Marked keywords s := by
  unfold Detector.match? Marked
  rw [← no_keywords_iff]
  split
  · next hnone => exact iff_of_true rfl (.inl (List.isEmpty_iff.1 hnone))
  · next hsome =>
    rw [shownText_candidate hrendered, keywordIn?_eq, Option.isSome_map, List.find?_isSome]
    simp only [mentioned_iff]
    exact ⟨.inr, fun h => h.resolve_left fun hnone => hsome (List.isEmpty_iff.2 hnone)⟩

/-! ## Judging the candidates -/

theorem firstMatch?_eq (d : Detector) (cs : List Candidate) : d.firstMatch? cs =
    (cs.find? fun c => (d.match? c).isSome).bind fun c => (d.match? c).map (c, ·) := by
  induction cs with
  | nil => rfl
  | cons c rest ih =>
    rw [Detector.firstMatch?, List.find?_cons]
    cases h : d.match? c with
    | none => exact ih
    | some keyword => simp [h]

theorem firstMatch?_eq_none_iff {d : Detector} {cs : List Candidate} : d.firstMatch? cs = none ↔
    cs.find? (fun c => (d.match? c).isSome) = none := by
  rw [firstMatch?_eq]
  cases hfind : cs.find? fun c => (d.match? c).isSome with
  | none => exact iff_of_true rfl rfl
  | some c =>
    have hsome := List.find?_some (p := fun c => (d.match? c).isSome) hfind
    obtain ⟨keyword, hmatch⟩ := Option.isSome_iff_exists.1 hsome
    simp [hmatch]

/-- The verdict depends on the keywords and on what is listed, not on who was asked for. -/
theorem judge_congr {d d' : Detector} (h : d.keywords = d'.keywords) (cs : List Candidate)
    (url : String) : d.judge cs url = d'.judge cs url := by
  have hmatch : d.match? = d'.match? := by
    funext c
    simp only [Detector.match?, Detector.keywordIn?, h]
  simp only [Detector.judge, firstMatch?_eq, hmatch]

/-- Whether an element of the tree passes as a challenge. -/
def passes (read : SelectorReader) (root : Node) (d : Detector) (selector : String) (s : Spot) :
    Bool :=
  fitsIn read root selector s && (s.isRendered && (d.match? (s.candidate selector)).isSome)

theorem passes_iff (hinside : s ∈ root.spots [] []) :
    passes read root (.new selectors keywords) selector s = true ↔
      Challenges read root keywords selector s := by
  rw [passes, Bool.and_eq_true, Bool.and_eq_true, fitsIn_iff hinside, Spot.isRendered_iff]
  constructor
  · rintro ⟨hselects, hrendered, hmatch⟩
    exact ⟨hselects, hrendered, (match?_isSome_iff hrendered).1 hmatch⟩
  · rintro ⟨hselects, hrendered, hmarked⟩
    exact ⟨hselects, hrendered, (match?_isSome_iff hrendered).2 hmarked⟩

theorem not_challenges_of_find? (h : (root.spots [] []).find?
    (passes read root (.new selectors keywords) selector) = none) (other : Spot) :
    ¬ Challenges read root keywords selector other := fun hchallenges =>
  List.find?_eq_none.1 h other hchallenges.selects.inside
    ((passes_iff hchallenges.selects.inside).2 hchallenges)

/-- The first visible candidate that matches, looked for in the tree. -/
theorem find?_candidates (d : Detector) :
    ((root.candidates read selectors).filter (·.visible)).find? (fun c => (d.match? c).isSome) =
      selectors.findSome? fun selector =>
        ((root.spots [] []).find? (passes read root d selector)).map (Spot.candidate selector) := by
  simp only [Node.candidates, List.find?_filter, List.find?_flatMap, List.find?_map,
    selected_eq_filter, Function.comp_def, Bool.decide_and, Bool.decide_eq_true]
  rfl

theorem verdict_judge : Verdict read root selectors keywords url
    ((Detector.new selectors keywords).judge (root.candidates read selectors) url) := by
  unfold Detector.judge
  split
  · next hinvisible =>
    have hnone : ∀ selector ∈ selectors, ∀ s, Selects read root selector s → ¬ s.Rendered := by
      intro selector hmem s hselects hrendered
      have hcandidate := mem_candidates.2 ⟨selector, hmem, s, hselects, rfl⟩
      exact List.filter_eq_nil_iff.1 hinvisible _ hcandidate (candidate_visible.2 hrendered)
    split
    · next hempty =>
      rw [List.isEmpty_iff] at hempty
      refine .absent (fun selector hmem s hselects => ?_) url
      have hcandidate := mem_candidates.2 ⟨selector, hmem, s, hselects, rfl⟩
      rw [hempty] at hcandidate
      cases hcandidate
    · next hsome =>
      refine .notVisible ?_ hnone
      obtain ⟨c, hc⟩ := List.exists_mem_of_ne_nil _ (mt List.isEmpty_iff.2 hsome)
      obtain ⟨selector, hmem, s, hselects, -⟩ := mem_candidates.1 hc
      exact ⟨selector, hmem, s, hselects⟩
  · next hvisible =>
    split
    · next c keyword hmatch =>
      rw [firstMatch?_eq, find?_candidates, Option.bind_eq_some_iff] at hmatch
      obtain ⟨c', hfind, hkeyword⟩ := hmatch
      obtain ⟨keyword', hmatch, heq⟩ := Option.map_eq_some_iff.1 hkeyword
      cases heq
      obtain ⟨before, selector, after, hsplit, hhere, hbefore⟩ :=
        List.findSome?_eq_some_iff.1 hfind
      obtain ⟨s, hs, rfl⟩ := Option.map_eq_some_iff.1 hhere
      obtain ⟨hpasses, above, below, helements, habove⟩ := List.find?_eq_some_iff_append.1 hs
      have hinside : s ∈ root.spots [] [] := helements ▸ by simp
      have hchallenges := (passes_iff hinside).1 hpasses
      have hfirst : First read root selectors keywords selector s := by
        refine ⟨hchallenges, ⟨before, after, hsplit, fun earlier hearlier => ?_⟩,
          ⟨above, below, helements, fun earlier hearlier hother => ?_⟩⟩
        · exact not_challenges_of_find? (Option.map_eq_none_iff.1 (hbefore earlier hearlier))
        · have hfails := habove earlier hearlier
          rw [(passes_iff hother.selects.inside).2 hother] at hfails
          cases hfails
      exact .found hfirst (named_of_match? hchallenges.rendered hmatch)
    · next hmatch =>
      rw [firstMatch?_eq_none_iff, find?_candidates, List.findSome?_eq_none_iff] at hmatch
      refine .noKeyword ?_ fun selector hmem =>
        not_challenges_of_find? (Option.map_eq_none_iff.1 (hmatch selector hmem))
      obtain ⟨c, hc⟩ := List.exists_mem_of_ne_nil _ hvisible
      obtain ⟨hlisted, hrendered⟩ := List.mem_filter.1 hc
      obtain ⟨selector, hmem, s, hselects, rfl⟩ := mem_candidates.1 hlisted
      exact ⟨selector, hmem, s, hselects, candidate_visible.1 hrendered⟩

/-! ## Looking at an open page -/

theorem ofJson_toJson (c : Candidate) : Candidate.ofJson c.toJson = .ok c := by
  obtain ⟨selector, visible, text⟩ := c
  by_cases htext : text = "" <;>
    simp [Candidate.toJson, Candidate.ofJson, List.lookup_cons, Json.truthy, Json.display, htext]

theorem candidates_toJson (cs : List Candidate) :
    candidates (.arr (cs.map Candidate.toJson)) = .ok cs := by
  have hread : (cs.map Candidate.toJson).mapM Candidate.ofJson = .ok cs := by
    induction cs with
    | nil => rfl
    | cons c rest ih =>
      rw [List.map_cons, List.mapM_cons, ofJson_toJson, ih]
      rfl
  unfold candidates
  split
  · next hempty =>
    cases cs with
    | nil => rfl
    | cons c rest => simp [Json.truthy] at hempty
  · exact hread

variable {W : Type} {env : Responses State Ask Ask.Reply W} {page : PageRef}

theorem run_call_bind {c : PageCall} {answer : c.Answer} {x : W × State} {α : Type}
    (h : (env (.page page c) x).1 = .ok answer) (f : c.Answer → Activity α) :
    ((page.call c).bind f).run env x = (f answer).run env (env (.page page c) x).2 := by
  have hcall : (page.call c).run env x = (.ok answer, (env (.page page c) x).2) := by
    rw [PageRef.call, Program.run, Program.run_ofResult, h]
  exact Program.run_bind_ok hcall f

theorem run_ask_bind (h : Shows env page read root url) (d : Detector) {α : Type}
    (f : Option (Json × String) → Activity α) (x : W × State) :
    ∃ y, ((d.ask page).bind f).run env x =
      (f (some (.arr ((root.candidates read d.selectors).map Candidate.toJson), url))).run env y := by
  refine ⟨(env (.page page .url) (env (.page page (.candidates d.selectors)) x).2).2, ?_⟩
  refine Program.run_bind_ok ?_ f
  unfold Detector.ask Program.rescue Program.rescueIf
  rw [Program.run_bind, Program.run_attempt, Program.bind_eq_bind, run_call_bind (h.candidates _ _),
    Program.bind_eq_bind, run_call_bind (h.address _)]
  rfl

theorem run_inspect (h : Shows env page read root url) (x : W × State) :
    (((Detector.new selectors keywords).inspect (some page)).run env x).1 =
      .ok (if selectors = [] then .dismissed .absent ""
        else (Detector.new selectors keywords).judge (root.candidates read selectors) url) := by
  rw [Detector.inspect, Program.bind_eq_bind, run_call_bind (h.isOpen x), if_neg Bool.false_ne_true]
  by_cases hempty : selectors = []
  · rw [if_pos hempty, if_pos (by simpa [Detector.new] using hempty)]
    rfl
  · rw [if_neg hempty, if_neg (by simpa [Detector.new] using hempty), Program.bind_eq_bind]
    obtain ⟨y, hask⟩ := run_ask_bind h (.new selectors keywords) _ _
    rw [hask]
    simp only [candidates_toJson]
    rfl

/-- Selectors that cannot be read list nothing. -/
theorem candidates_valid : root.candidates read (selectors.filter fun text => (read text).isSome) =
    root.candidates read selectors := by
  unfold Node.candidates
  induction selectors with
  | nil => rfl
  | cons selector rest ih =>
    cases hread : read selector with
    | none =>
      rw [List.filter_cons_of_neg (by simp [hread]), List.flatMap_cons, ih]
      simp [Node.selected, hread]
    | some fits =>
      rw [List.filter_cons_of_pos (by simp [hread]), List.flatMap_cons, List.flatMap_cons, ih]

/-- On an open page the verdict is exact, and selectors that cannot be read take nothing but
themselves away: without them it is the same, as long as there is one left. -/
theorem inspect_exact (h : Shows env page read root url) (selectors keywords : List String)
    (x : W × State) : ∃ detection,
      (((Detector.new selectors keywords).inspect (some page)).run env x).1 = .ok detection ∧
      Exact read root selectors keywords url detection ∧
      (selectors.filter (fun text => (read text).isSome) ≠ [] →
        (((Detector.new (selectors.filter fun text => (read text).isSome) keywords).inspect
          (some page)).run env x).1 = .ok detection) := by
  refine ⟨_, run_inspect h x, ?_, fun hvalid => ?_⟩
  · split
    · next hnone => exact (Verdict.absent (by simp [hnone]) "").exact
    · exact verdict_judge.exact
  · rw [run_inspect h x, if_neg hvalid, if_neg (fun hnone => hvalid (by simp [hnone])),
      candidates_valid]
    exact congrArg Except.ok (judge_congr (by rfl) _ _)

/-- A hidden dialog, one that says nothing of interest, and one that asks to be solved. -/
def samplePage : Document :=
  ⟨[.element { Traits.plain "div" with attributes := [("class", "modal")], display := "none" }
      [.text "Verify"],
    .element { Traits.plain "div" with attributes := [("class", "modal")] } [.text "Subscribe"],
    .element { Traits.plain "div" with opacity := "0.5" }
      [.element { Traits.plain "p" with attributes := [("class", "modal")] } [.text "Please VERIFY"]]]⟩

def sampleShow : Responses State Ask Ask.Reply Unit
  | .page _ .isClosed, x => (.ok false, x)
  | .page _ (.candidates selectors), x =>
    (.ok (.arr ((samplePage.candidates selectors).map Candidate.toJson)), x)
  | .page _ .url, x => (.ok "https://a.test", x)
  | q, x => (q.refused, x)

theorem shows_sample (page : PageRef) :
    Shows sampleShow page Selector.read samplePage.root "https://a.test" :=
  ⟨fun _ => rfl, fun _ _ => rfl, fun _ => rfl⟩

/-- Of three selectors one is none and one fits nothing; the first two modals are passed over. -/
theorem inspect_exact_sample :
    Shows sampleShow ⟨0⟩ Selector.read samplePage.root "https://a.test" ∧
    (((Detector.new ["#captcha", "[[", ".modal"] ["", "slider", "Verify"]).inspect
      (some ⟨0⟩)).run sampleShow ((), {})).1 =
        .ok (.found ".modal" "verify" "https://a.test") ∧
    Exact Selector.read samplePage.root ["#captcha", "[[", ".modal"] ["", "slider", "Verify"]
      "https://a.test" (.found ".modal" "verify" "https://a.test") := by
  have hfound : (((Detector.new ["#captcha", "[[", ".modal"] ["", "slider", "Verify"]).inspect
      (some ⟨0⟩)).run sampleShow ((), {})).1 =
        .ok (.found ".modal" "verify" "https://a.test") := by
    decide +kernel
  obtain ⟨detection, hrun, hexact, -⟩ := inspect_exact (shows_sample ⟨0⟩)
    ["#captcha", "[[", ".modal"] ["", "slider", "Verify"] ((), {})
  cases Except.ok.inj (hrun.symm.trans hfound)
  exact ⟨shows_sample ⟨0⟩, hfound, hexact⟩

end Pageflow.Challenge
