import Pageflow.Proofs.Capture.Content
import Pageflow.Proofs.Capture.Rounds

/-! What all courses of a long capture have in common: how many pictures they take, that pictures
and scrolls take turns, and what they find before they stop. -/
namespace Pageflow.Capture
open Browser

/-- Whether a question takes a picture of an element. -/
def shoots : Ask → Bool
  | .element _ .screenshot => true
  | _ => false

/-- Whether a question scrolls an element. -/
def advances : Ask → Bool
  | .page _ (.advance _ _) => true
  | _ => false

/-- How many pictures of elements were asked for. -/
def pictures (noted : List (Note Ask Ask.Reply)) : Nat := (noted.map (·.1)).countP shoots

/-- The pictures of elements and the scrolls that were asked for. -/
def gestures (noted : List (Note Ask Ask.Reply)) : List Ask :=
  (noted.map (·.1)).filter fun q => shoots q || advances q

@[simp] theorem pictures_append (noted rest : List (Note Ask Ask.Reply)) :
    pictures (noted ++ rest) = pictures noted + pictures rest := by
  simp [pictures]

@[simp] theorem gestures_append (noted rest : List (Note Ask Ask.Reply)) :
    gestures (noted ++ rest) = gestures noted ++ gestures rest := by
  simp [gestures]

section

variable {page : PageRef} {o : LongOptions} {selector : String} {element : ElementRef}
  {tiles : Nat} {noted : List (Note Ask Ask.Reply)} {result : Result Picture}

theorem length_rounds (rounds : List Round) :
    (rounds.flatMap (Round.notes page o selector element)).length = 4 * rounds.length := by
  simp [List.length_flatMap, Round.notes, Nat.mul_comm]

theorem pictures_rounds (rounds : List Round) :
    pictures (rounds.flatMap (Round.notes page o selector element)) = rounds.length := by
  induction rounds with
  | nil => rfl
  | cons r rounds ih =>
    have hround : pictures (r.notes page o selector element) = 1 := rfl
    rw [List.flatMap_cons, pictures_append, ih, hround, List.length_cons, Nat.add_comm]

theorem gestures_rounds (rounds : List Round) :
    gestures (rounds.flatMap (Round.notes page o selector element)) =
      (List.replicate rounds.length
        [.element element .screenshot, .page page (.advance selector o.overlap)]).flatten := by
  induction rounds with
  | nil => rfl
  | cons r rounds ih =>
    rw [List.flatMap_cons, gestures_append, ih, List.length_cons, List.replicate_succ,
      List.flatten_cons]
    rfl

theorem BrokenOff.length_le (h : BrokenOff page o selector element noted) : noted.length ≤ 4 := by
  obtain ⟨more, hmore, hnoted⟩ := h
  have hlength := congrArg List.length hnoted
  rw [List.length_map, List.length_take] at hlength
  omega

theorem BrokenOff.pictures (h : BrokenOff page o selector element noted) : pictures noted = 1 := by
  obtain ⟨more, hmore, hnoted⟩ := h
  rw [Capture.pictures, hnoted]
  match more, hmore with
  | 0, _ => rfl
  | 1, _ => rfl
  | 2, _ => rfl
  | 3, _ => rfl

theorem BrokenOff.gestures (h : BrokenOff page o selector element noted) :
    gestures noted = [.element element .screenshot] ∨
      gestures noted =
        [.element element .screenshot, .page page (.advance selector o.overlap)] := by
  obtain ⟨more, hmore, hnoted⟩ := h
  rw [Capture.gestures, hnoted]
  match more, hmore with
  | 0, _ => exact .inl rfl
  | 1, _ => exact .inl rfl
  | 2, _ => exact .inr rfl
  | 3, _ => exact .inr rfl

/-- Whole rounds are followed by a last look at the metrics, or by a round that is broken off. -/
theorem LongCourse.parts (h : LongCourse page o selector element tiles noted result) :
    ∃ (rounds : List Round) (rest : List (Note Ask Ask.Reply)),
      noted = rounds.flatMap (Round.notes page o selector element) ++ rest ∧
      ((∃ reply, rest = [⟨.page page (.measure selector), reply⟩]) ∧ 1 ≤ rounds.length ∧
          rounds.length ≤ tiles ∨
        BrokenOff page o selector element rest ∧ rounds.length < tiles ∧
          ∃ fault, result = .error fault) := by
  cases h with
  | broken fault htiles =>
    obtain _ | ⟨rounds, rest, _, hlength, -, hbroken⟩ := htiles
    exact ⟨rounds, rest, rfl, .inr ⟨hbroken, hlength, fault, rfl⟩⟩
  | unfinished rounds hstopped reply fault hunmeasured =>
    have hpos := List.length_pos_iff.mpr hstopped.begun
    exact ⟨rounds, _, rfl, .inl ⟨⟨reply, rfl⟩, hpos, hstopped.length_le⟩⟩
  | stitched rounds hstopped last =>
    have hpos := List.length_pos_iff.mpr hstopped.begun
    exact ⟨rounds, _, rfl, .inl ⟨⟨.ok (some last), rfl⟩, hpos, hstopped.length_le⟩⟩

theorem LongCourse.length_le (h : LongCourse page o selector element tiles noted result) :
    noted.length ≤ 4 * tiles + 1 := by
  obtain ⟨rounds, rest, rfl, ⟨⟨reply, rfl⟩, -, hlength⟩ | ⟨hbroken, hlength, -⟩⟩ := h.parts
  · rw [List.length_append, length_rounds, List.length_singleton]
    omega
  · have hrest := hbroken.length_le
    rw [List.length_append, length_rounds]
    omega

theorem LongCourse.pictures (h : LongCourse page o selector element tiles noted result) :
    1 ≤ pictures noted ∧ pictures noted ≤ tiles := by
  obtain ⟨rounds, rest, rfl, ⟨⟨reply, rfl⟩, hpos, hlength⟩ | ⟨hbroken, hlength, -⟩⟩ := h.parts
  · rw [pictures_append, pictures_rounds]
    exact ⟨hpos, hlength⟩
  · rw [pictures_append, pictures_rounds, hbroken.pictures]
    omega

theorem LongCourse.turns (h : LongCourse page o selector element tiles noted result) :
    ∃ (rounds : Nat) (rest : List Ask),
      gestures noted = (List.replicate rounds
        [.element element .screenshot, .page page (.advance selector o.overlap)]).flatten ++ rest ∧
      (rest = [] ∨ rest = [.element element .screenshot] ∧ ∃ fault, result = .error fault) := by
  obtain ⟨rounds, rest, rfl, ⟨⟨reply, rfl⟩, -⟩ | ⟨hbroken, -, hfault⟩⟩ := h.parts
  · refine ⟨rounds.length, [], ?_, .inl rfl⟩
    rw [gestures_append, gestures_rounds]
    rfl
  rcases hbroken.gestures with hrest | hrest
  · refine ⟨rounds.length, _, ?_, .inr ⟨rfl, hfault⟩⟩
    rw [gestures_append, gestures_rounds, hrest]
  · refine ⟨rounds.length + 1, [], ?_, .inl rfl⟩
    rw [gestures_append, gestures_rounds, hrest, List.replicate_succ', List.flatten_append,
      List.flatten_singleton, List.append_nil]

theorem notes_injective : Function.Injective (Round.notes page o selector element) := by
  intro r r' h
  simp only [Round.notes, metered, List.cons.injEq, Sigma.mk.injEq, true_and, heq_eq_eq,
    Except.ok.injEq, Option.some.injEq, and_true] at h
  exact Round.ext h.1 h.2.1 h.2.2

/-- The notes tell where the rounds end: only a round begins with a picture. -/
theorem rounds_unique (rounds rounds' : List Round) {rest : List (Note Ask Ask.Reply)}
    {reply : Result (Option Metrics)} (hrest : rest.length ≤ 4)
    (h : rounds.flatMap (Round.notes page o selector element) ++ rest =
      rounds'.flatMap (Round.notes page o selector element) ++
        [⟨.page page (.measure selector), reply⟩]) :
    rounds = rounds' ∧ rest = [⟨.page page (.measure selector), reply⟩] := by
  induction rounds' generalizing rounds with
  | nil =>
    cases rounds with
    | nil => exact ⟨rfl, h⟩
    | cons r rounds => cases h
  | cons r' rounds' ih =>
    cases rounds with
    | nil =>
      have hlength := congrArg List.length h
      simp only [List.flatMap_nil, List.nil_append, List.flatMap_cons, List.length_append,
        Round.notes, List.length_cons, List.length_nil] at hlength
      omega
    | cons r rounds =>
      rw [List.flatMap_cons, List.flatMap_cons, List.append_assoc, List.append_assoc] at h
      obtain ⟨hround, htail⟩ := List.append_inj h rfl
      obtain ⟨rfl, hlast⟩ := ih rounds htail
      obtain rfl := notes_injective hround
      exact ⟨rfl, hlast⟩

theorem LongCourse.stopped (h : LongCourse page o selector element tiles noted result)
    {rounds : List Round} {last : Metrics}
    (hnoted : noted = rounds.flatMap (Round.notes page o selector element) ++
      [metered page selector last]) : Stopped tiles rounds := by
  cases h with
  | broken fault htiles =>
    obtain _ | ⟨rounds', rest, _, -, -, hbroken⟩ := htiles
    obtain ⟨-, rfl⟩ := rounds_unique rounds' rounds hbroken.length_le hnoted
    cases hbroken.pictures
  | unfinished rounds' hstopped reply fault hunmeasured =>
    obtain ⟨rfl, -⟩ := rounds_unique rounds' rounds (by simp) hnoted
    exact hstopped
  | stitched rounds' hstopped last' =>
    obtain ⟨rfl, -⟩ := rounds_unique rounds' rounds (by simp) hnoted
    exact hstopped

theorem Course.length_le (h : Course page o selector tiles noted result) :
    noted.length ≤ 4 * tiles + 3 := by
  cases h with
  | unseen => simp
  | unmeasured => simp
  | direct => simp [opening]
  | long element first hover hlong =>
    have hrest := hlong.length_le
    simp only [opening, List.length_append, List.length_cons, List.length_nil]
    omega

theorem Course.pictures_le (h : Course page o selector tiles noted result) (htiles : 1 ≤ tiles) :
    pictures noted ≤ tiles := by
  cases h with
  | unseen => exact Nat.zero_le _
  | unmeasured => exact Nat.zero_le _
  | direct => exact htiles
  | long element first hover hlong =>
    rw [pictures_append]
    exact (Nat.zero_add _).trans_le hlong.pictures.2

theorem Course.pictures_pos {picture : Picture}
    (h : Course page o selector tiles noted (.ok picture)) : 1 ≤ pictures noted := by
  generalize hresult : (.ok picture : Result Picture) = result at h
  cases h with
  | unseen => cases hresult
  | unmeasured => cases hresult
  | direct => exact le_rfl
  | long element first hover hlong =>
    rw [pictures_append]
    exact hlong.pictures.1.trans (Nat.le_add_left _ _)

/-- Once the first metrics are read, it depends on them how the capture goes on. -/
theorem Course.opened (h : Course page o selector tiles noted result) {first : Metrics}
    (hfirst : noted[1]? = some (metered page selector first)) :
    ∃ element rest, noted = opening page o selector element first ++ rest ∧
      (overflows first = false ∧ rest = [⟨.element element .screenshot, result⟩] ∨
        overflows first = true ∧ LongCourse page o selector element tiles rest result) := by
  cases h with
  | unseen => cases hfirst
  | unmeasured element reply fault hunmeasured =>
    cases hfirst
    exact absurd rfl (hunmeasured first)
  | direct element first' hfits reply =>
    cases hfirst
    exact ⟨element, _, rfl, .inl ⟨hfits, rfl⟩⟩
  | long element first' hover hlong =>
    cases hfirst
    exact ⟨element, _, rfl, .inr ⟨hover, hlong⟩⟩

theorem Course.stopped (h : Course page o selector tiles noted result) {first last : Metrics}
    {rounds : List Round}
    (hnoted : noted = opening page o selector element first ++
      (rounds.flatMap (Round.notes page o selector element) ++ [metered page selector last])) :
    Stopped tiles rounds := by
  have hfirst : noted[1]? = some (metered page selector first) := by
    rw [hnoted]
    rfl
  obtain ⟨element', rest, hopened, hcase⟩ := h.opened hfirst
  rw [hopened] at hnoted
  obtain ⟨hhead, hrest⟩ := List.append_inj hnoted rfl
  obtain rfl : element' = element := by simpa [opening] using hhead
  rcases hcase with ⟨-, rfl⟩ | ⟨-, hlong⟩
  · obtain ⟨-, hlast⟩ := rounds_unique [] rounds (by simp) hrest
    cases hlast
  · exact hlong.stopped hrest

end

/-- How a long capture with `tiles` tiles at most ends: it takes one of the courses, asks so much of
the page at most, and takes a picture and scrolls in turns. Only one that fails may leave out the
scroll after its last tile. -/
structure Ends (page : PageRef) (o : LongOptions) (selector : String) (tiles : Nat)
    (noted : List (Note Ask Ask.Reply)) (result : Result Picture) : Prop where
  course : Course page o selector tiles noted result
  length_le : noted.length ≤ 4 * tiles + 3
  pictures_le : pictures noted ≤ tiles
  pictures_direct : ∀ first, noted[1]? = some (metered page selector first) →
    overflows first = false → pictures noted = 1
  pictures_pos : ∀ picture, result = .ok picture → 1 ≤ pictures noted
  turns : ∀ first, noted[1]? = some (metered page selector first) → overflows first = true →
    ∃ (element : ElementRef) (rounds : Nat) (rest : List Ask),
      gestures noted = (List.replicate rounds
        [.element element .screenshot, .page page (.advance selector o.overlap)]).flatten ++ rest ∧
      (rest = [] ∨ rest = [.element element .screenshot] ∧ ∃ fault, result = .error fault)
  stopped : ∀ element first rounds last, noted = opening page o selector element first ++
      (rounds.flatMap (Round.notes page o selector element) ++ [metered page selector last]) →
    Stopped tiles rounds

/-- Whatever the page answers, a long capture ends, after a round for each tile that is allowed at
most and not before a scroll left the element where it was unless the tiles are used up. -/
theorem captureLong_ends {W : Type} (env : Responses State Ask Ask.Reply W) (page : PageRef)
    (o : LongOptions) (selector : String) (htiles : 1 ≤ o.maxTiles) :
    (captureLong page o selector).Reports env browses
      (Ends page o selector o.maxTiles.toNat) := by
  have hleft : (o.maxTiles - 1).toNat + 1 = o.maxTiles.toNat := by omega
  refine reports_captureLong.mono fun noted result hcourse => ?_
  rw [hleft] at hcourse
  constructor
  case course => exact hcourse
  case length_le => exact hcourse.length_le
  case pictures_le => exact hcourse.pictures_le (by omega)
  case pictures_direct =>
    intro first hfirst hfits
    obtain ⟨element, rest, rfl, ⟨-, rfl⟩ | ⟨hover, -⟩⟩ := hcourse.opened hfirst
    · rfl
    · exact absurd hover (Bool.eq_false_iff.mp hfits)
  case pictures_pos =>
    rintro picture rfl
    exact hcourse.pictures_pos
  case turns =>
    intro first hfirst hover
    obtain ⟨element, rest, rfl, ⟨hfits, -⟩ | ⟨-, hlong⟩⟩ := hcourse.opened hfirst
    · exact absurd hover (Bool.eq_false_iff.mp hfits)
    · exact ⟨element, hlong.turns⟩
  case stopped => exact fun element first rounds last => hcourse.stopped

/-- A page whose content grows by as much as it is scrolled. -/
def treadmill (element : ElementRef) : Responses State Ask Ask.Reply Nat
  | .page _ (.waitFor _ _), x => (.ok (some element), x)
  | .page _ (.measure _), x =>
    (.ok (some { Region.ruler.metrics x.1 with scrollHeight := some (Double.ofInt (x.1 + 10)) }), x)
  | .page _ (.advance _ _), x => (.ok (), (x.1 + 3, x.2))
  | .element _ .screenshot, x => (.ok (.image (Region.ruler.view 0)), x)
  | q, x => (q.refused, x)

theorem captureLong_ends_treadmill :
    1 ≤ ({ maxTiles := 3 } : LongOptions).maxTiles ∧ ∃ noted result y,
      (captureLong ⟨0⟩ { maxTiles := 3 } "#feed").Noting (treadmill ⟨⟨0⟩, "#feed"⟩) browses (0, {})
        noted result y ∧
      Ends ⟨0⟩ { maxTiles := 3 } "#feed" 3 noted result :=
  ⟨by decide, captureLong_ends (treadmill ⟨⟨0⟩, "#feed"⟩) ⟨0⟩ { maxTiles := 3 } "#feed" (by decide)
    (0, {})⟩

/-- Ten rows, of which the first four are visible. -/
def tenRows : Metrics :=
  { scrollHeight := some (.finite 10), clientHeight := some (.finite 4)
    scrollTop := some (.finite 0), pixelRatio := some (.finite 1) }

/-- A page that is gone once an element was measured `left` times. -/
def departing (element : ElementRef) : Responses State Ask Ask.Reply Nat
  | .page _ (.waitFor _ _), x => (.ok (some element), x)
  | .page _ (.measure _), (0, s) => (.error (.browser "Execution context was destroyed"), (0, s))
  | .page _ (.measure _), (left + 1, s) => (.ok (some tenRows), (left, s))
  | .element _ .screenshot, x => (.ok (.raw "tile"), x)
  | q, x => (q.refused, x)

theorem captureLong_unscrolled :
    ∃ noted fault y,
      (captureLong ⟨0⟩ { overlap := 1 } "#list").Noting (departing ⟨⟨0⟩, "#list"⟩) browses (1, {})
        noted (.error fault) y ∧
      noted[1]? = some (metered ⟨0⟩ "#list" tenRows) ∧ overflows tenRows = true ∧
      gestures noted = [.element ⟨⟨0⟩, "#list"⟩ .screenshot] :=
  ⟨_, _, _, ⟨rfl, rfl⟩, rfl, by decide, rfl⟩

end Pageflow.Capture
