import Pageflow.Proofs.Pause.Agreement
import Pageflow.Proofs.Pause.Sharing

/-! Executions that overlap, with one board between them: what a turn of one does to the pauses of
the others. The pauses that are on have each been begun by an execution that still waits for it. -/
namespace Pageflow.Pause.Board

/-- Signals were settled and handles taken off, but none that still waits. -/
structure Shrinks (b b' : Board) : Prop where
  length_eq : b'.signals.length = b.signals.length
  settled : ∀ n, b.signal n ≠ .waiting → b'.signal n = b.signal n
  subset : b'.handles ⊆ b.handles
  keeps : ∀ h ∈ b.handles, b'.signal h.signal = .waiting → h ∈ b'.handles
  sound : b.Sound → b'.Sound

variable {b b' b'' : Board} {h : Handle} {s : Signal} {n : Nat}

theorem shrinks_refl (b : Board) : b.Shrinks b :=
  ⟨rfl, fun _ _ => rfl, fun _ => id, fun _ hh _ => hh, id⟩

theorem Shrinks.waiting (hshrinks : b.Shrinks b') (hwaiting : b'.signal n = .waiting) :
    b.signal n = .waiting := by
  by_contra hsettled
  exact hsettled ((hshrinks.settled n hsettled).symm.trans hwaiting)

theorem Shrinks.trans (hshrinks : b.Shrinks b') (hmore : b'.Shrinks b'') : b.Shrinks b'' where
  length_eq := hmore.length_eq.trans hshrinks.length_eq
  settled n hn := by
    have hn' := hshrinks.settled n hn
    rw [hmore.settled n (hn' ▸ hn), hn']
  subset _ hh := hshrinks.subset (hmore.subset hh)
  keeps h hh hwaiting := hmore.keeps h (hshrinks.keeps h hh (hmore.waiting hwaiting)) hwaiting
  sound hb := hmore.sound (hshrinks.sound hb)

theorem Finishes.shrinks (hfinishes : b.Finishes h s b') (hs : s ≠ .waiting) : b.Shrinks b' where
  length_eq := hfinishes.length_eq
  settled _ := hfinishes.signal_of_settled
  subset _ hh := ((hfinishes.mem_iff _).mp hh).1
  keeps h' hh hwaiting := (hfinishes.mem_iff h').mpr ⟨hh, fun heq =>
    hfinishes.signal_self hs (heq ▸ hwaiting)⟩
  sound := hfinishes.sound

theorem shrinks_settle : b.Shrinks (b.settle n s) where
  length_eq := length_signals_settle s
  settled m hm := by
    rw [signal_settle, if_neg]
    rintro ⟨rfl, hwaiting⟩
    exact hm hwaiting
  subset := fun _ => id
  keeps _ hh _ := hh
  sound hb := hb.settle n s

theorem shrinks_cancel (b : Board) (taskId : String) : b.Shrinks (b.cancel taskId).2 := by
  unfold cancel
  split
  · exact (finishes_settle_remove b _ .withdrawn).shrinks nofun
  · exact shrinks_refl b

end Pageflow.Pause.Board

namespace Pageflow.Pause.Sharing
open Browser

/-- The task that a request executes. -/
def Request.task? : Request → Option String
  | .execute _ _ context => some context.taskId
  | .resume _ _ => none

namespace Stance

def handle? : Stance → Option Handle
  | .paused h | .leaving h | .broken h | .handedBack (some h) => some h
  | _ => none

def IsOver : Stance → Prop
  | .handedBack _ => True
  | _ => False

/-- The pause of the execution has been withdrawn by somebody else. -/
def Lost (b : Board) : Stance → Prop
  | .paused h => b.signal h.signal = .withdrawn
  | .broken _ | .handedBack (some _) => True
  | _ => False

end Stance

section

variable {taskId : String} {φ φ' ψ : Stance} {b b' b'' : Board} {h : Handle} {n : Nat}

/-- What a turn does in which no pause begins. -/
structure Passes (φ : Stance) (b : Board) (φ' : Stance) (b' : Board) : Prop where
  shrinks : b.Shrinks b'
  handle : ∀ h, φ'.handle? = some h → φ.handle? = some h
  waits : ∀ h, φ = .paused h → φ' = .paused h ∨ b'.signal h.signal ≠ .waiting

theorem Passes.shrink (hpasses : Passes φ b ψ b') (hψ : ψ.handle? = φ'.handle?)
    (hpaused : ∀ h, ψ ≠ .paused h) (hshrinks : b'.Shrinks b'') : Passes φ b φ' b'' where
  shrinks := hpasses.shrinks.trans hshrinks
  handle h hh := hpasses.handle h (hψ.trans hh)
  waits h hh := by
    have hsettled := (hpasses.waits h hh).resolve_left (hpaused h)
    exact .inr fun hwaiting => hsettled (hshrinks.waiting hwaiting)

theorem Own.begins_or_passes (hown : Own taskId φ b φ' b')
    (hleaving : ∀ h, φ = .leaving h → b.signal h.signal ≠ .waiting) :
    Passes φ b φ' b' ∨ ∃ page stepIndex totalSteps h, φ = .going ∧ φ' = .paused h ∧
      b.begin? taskId page stepIndex totalSteps = some (h, b') := by
  cases hown with
  | stay => exact .inl ⟨Board.shrinks_refl b, fun _ => id, fun _ => .inl⟩
  | begin hbegin => exact .inr ⟨_, _, _, _, rfl, rfl, hbegin⟩
  | resume hgiven =>
    rename_i h
    have hsettled : b.signal h.signal ≠ .waiting := by simp [hgiven]
    refine .inl ⟨(Board.finishes_remove hsettled .given).shrinks nofun, nofun, ?_⟩
    rintro _ ⟨⟩
    exact .inr hsettled
  | lose hwithdrawn =>
    rename_i h
    have hsettled : b.signal h.signal ≠ .waiting := by simp [hwithdrawn]
    refine .inl ⟨(Board.finishes_remove hsettled .withdrawn).shrinks nofun, fun _ => id, ?_⟩
    rintro _ ⟨⟩
    exact .inr hsettled
  | withdraw hwaiting =>
    refine .inl ⟨Board.shrinks_settle, fun _ => id, ?_⟩
    rintro _ ⟨⟩
    right
    rw [Board.signal_settle_self hwaiting]
    exact nofun
  | leave h =>
    have hsettled := hleaving h rfl
    exact .inl ⟨(Board.finishes_remove hsettled .withdrawn).shrinks nofun, nofun, nofun⟩

/-- A turn of an execution begins a pause and leaves it on, or begins none. -/
theorem Turns.begins_or_passes (hturns : Turns taskId φ b φ' b')
    (hleaving : ∀ h, φ = .leaving h → b.signal h.signal ≠ .waiting) :
    Passes φ b φ' b' ∨ ∃ page stepIndex totalSteps h, φ = .going ∧ φ' = .paused h ∧
      b.begin? taskId page stepIndex totalSteps = some (h, b') := by
  cases hturns with
  | own hown => exact hown.begins_or_passes hleaving
  | unpaged hown =>
    have hpasses := (hown.begins_or_passes hleaving).resolve_right (by simp)
    exact .inl (hpasses.shrink rfl nofun (Board.shrinks_refl _))
  | handBack hown =>
    have hpasses := (hown.begins_or_passes hleaving).resolve_right (by simp)
    exact .inl (hpasses.shrink rfl nofun (Board.shrinks_cancel _ _))
  | handBackBroken hown =>
    have hpasses := (hown.begins_or_passes hleaving).resolve_right (by simp)
    exact .inl (hpasses.shrink rfl nofun (Board.shrinks_cancel _ _))

theorem shrinks_of_accept? (haccept : b.accept? h = some b') : b.Shrinks b' := by
  obtain ⟨-, -, rfl⟩ := Board.accept?_eq_some haccept
  exact (Board.finishes_settle_remove b h .given).shrinks nofun

/-! ## What stays -/

theorem Own.stays (hown : Own taskId φ b φ' b') (hb : b.Sound) (hh : h ∈ b.handles)
    (hforeign : ∀ h', φ.handle? = some h' → h.signal ≠ h'.signal) :
    h ∈ b'.handles ∧ b'.signal h.signal = b.signal h.signal := by
  cases hown with
  | stay => exact ⟨hh, rfl⟩
  | begin hbegin =>
    obtain ⟨-, -, -, hhandles, hsignals⟩ := Board.begin?_eq_some hbegin
    have hlt := hb.signal_lt h hh
    refine ⟨hhandles ▸ List.mem_append_left _ hh, ?_⟩
    rw [Board.signal_append hsignals, if_neg (by omega)]
  | resume | lose | leave => exact ⟨Board.mem_remove.mpr ⟨hh, hforeign _ rfl⟩, rfl⟩
  | withdraw => exact ⟨hh, Board.signal_settle_of_ne (hforeign _ rfl) _⟩

theorem Board.stays_cancel (hb : b.Sound) (hh : h ∈ b.handles) (htask : h.taskId ≠ taskId) :
    h ∈ (b.cancel taskId).2.handles ∧
      (b.cancel taskId).2.signal h.signal = b.signal h.signal := by
  unfold Board.cancel
  split
  · rename_i h' hfound
    obtain ⟨hmem, rfl⟩ := Board.mem_of_handle? hfound
    have hne : h.signal ≠ h'.signal := fun heq =>
      htask (congrArg (·.taskId) (hb.eq_of_signal hh hmem heq))
    exact ⟨Board.mem_remove.mpr ⟨hh, hne⟩, Board.signal_settle_of_ne hne _⟩
  · exact ⟨hh, rfl⟩

/-- No more is changed of the pauses of others than that the one of the task is dropped, in the
turn in which the page is handed back. -/
theorem Turns.stays_or_drops (hturns : Turns taskId φ b φ' b') (hb : b.Sound)
    (hleaving : ∀ h, φ = .leaving h → b.signal h.signal ≠ .waiting) :
    (φ'.IsOver ∧ b'.handle? taskId = none ∨ ∀ h ∈ b.handles,
      (∀ h', φ.handle? = some h' → h.signal ≠ h'.signal) →
        h ∈ b'.handles ∧ b'.signal h.signal = b.signal h.signal) ∧
    ∀ h ∈ b.handles, (∀ h', φ.handle? = some h' → h.signal ≠ h'.signal) → h.taskId ≠ taskId →
      h ∈ b'.handles ∧ b'.signal h.signal = b.signal h.signal := by
  cases hturns with
  | own hown | unpaged hown =>
    exact ⟨.inr fun h hh => hown.stays hb hh, fun h hh hforeign _ => hown.stays hb hh hforeign⟩
  | handBack hown | handBackBroken hown =>
    have hpasses := (hown.begins_or_passes hleaving).resolve_right (by simp)
    have hsound := hpasses.shrinks.sound hb
    refine ⟨.inl ⟨trivial, hsound.handle?_cancel⟩, fun h hh hforeign htask => ?_⟩
    obtain ⟨hmem, hsignal⟩ := hown.stays hb hh hforeign
    obtain ⟨hmem', hsignal'⟩ := Board.stays_cancel hsound hmem htask
    exact ⟨hmem', hsignal'.trans hsignal⟩

theorem Turns.drops_of_over (hturns : Turns taskId φ b φ' b') (hb : b.Sound)
    (hleaving : ∀ h, φ = .leaving h → b.signal h.signal ≠ .waiting) (hφ : ¬ φ.IsOver)
    (hover : φ'.IsOver) : b'.handle? taskId = none := by
  cases hturns with
  | own hown =>
    cases hown with
    | stay => exact absurd hover hφ
    | _ => exact hover.elim
  | unpaged => exact hover.elim
  | handBack hown | handBackBroken hown =>
    have hpasses := (hown.begins_or_passes hleaving).resolve_right (by simp)
    exact (hpasses.shrinks.sound hb).handle?_cancel

theorem Turns.eq_of_over (hturns : Turns taskId φ b φ' b') (hover : φ.IsOver) :
    φ' = φ ∧ b' = b := by
  cases hturns with
  | own hown =>
    cases hown with
    | stay => exact ⟨rfl, rfl⟩
    | _ => exact hover.elim
  | unpaged hown | handBack hown | handBackBroken hown =>
    cases hown with
    | _ => exact hover.elim

/-- Nobody loses a pause by a turn of its own. -/
theorem Turns.lost_iff (hturns : Turns taskId φ b φ' b') : φ'.Lost b' ↔ φ.Lost b := by
  have hown : ∀ {ψ : Stance} {b'' : Board}, Own taskId φ b ψ b'' → (ψ.Lost b'' ↔ φ.Lost b) := by
    intro ψ b'' hown
    cases hown with
    | stay => exact Iff.rfl
    | begin hbegin =>
      obtain ⟨-, -, hsignal, -, hsignals⟩ := Board.begin?_eq_some hbegin
      simp [Stance.Lost, Board.signal_append hsignals, hsignal]
    | resume hgiven => simp [Stance.Lost, hgiven]
    | lose hwithdrawn => simp [Stance.Lost, hwithdrawn]
    | withdraw hwaiting => simp [Stance.Lost, hwaiting]
    | leave => exact Iff.rfl
  cases hturns with
  | own hturn => exact hown hturn
  | unpaged hturn | handBack hturn | handBackBroken hturn => exact (hown hturn :)

/-! ## All requests -/

/-- The pauses that are on are those that executions have begun and wait for, each its own. -/
structure Consistent (history : History) (b : Board) (stance : Nat → Stance) : Prop where
  sound : b.Sound
  began : ∀ h ∈ b.handles, ∃ i, Began history i h.signal
  exists_of_began : ∀ i n, Began history i n → n < b.signals.length
  once : ∀ i j n, Began history i n → Began history j n → i = j
  owns : ∀ i h, (stance i).handle? = some h → Began history i h.signal
  waits : ∀ i n, Began history i n → b.signal n = .waiting →
    ∃ h ∈ b.handles, h.signal = n ∧ stance i = .paused h

variable {history : History} {stance : Nat → Stance} {x y : Unit × State} {who : Nat}

theorem Consistent.leaving (hc : Consistent history b stance) (hleaving : stance who = .leaving h) :
    b.signal h.signal ≠ .waiting := by
  intro hwaiting
  obtain ⟨_, -, -, hpaused⟩ := hc.waits who _ (hc.owns who h (by rw [hleaving]; rfl)) hwaiting
  rw [hleaving] at hpaused
  cases hpaused

theorem Consistent.passes (hc : Consistent history x.2.board stance)
    (hpasses : Passes (stance who) x.2.board φ y.2.board) :
    Consistent (history ++ [⟨who, x, y⟩]) y.2.board (Function.update stance who φ) := by
  have hbegan : ∀ {i n}, Began (history ++ [⟨who, x, y⟩]) i n ↔ Began history i n := by
    intro i n
    rw [began_append, or_iff_left]
    rintro ⟨-, rfl, hmore⟩
    have := hpasses.shrinks.length_eq
    omega
  exact {
    sound := hpasses.shrinks.sound hc.sound
    began := fun h hh => by
      simp only [hbegan]
      exact hc.began h (hpasses.shrinks.subset hh)
    exists_of_began := fun i n hi => by
      rw [hpasses.shrinks.length_eq]
      exact hc.exists_of_began i n (hbegan.mp hi)
    once := fun i j n hi hj => hc.once i j n (hbegan.mp hi) (hbegan.mp hj)
    owns := fun i h hi => by
      refine hbegan.mpr (hc.owns i h ?_)
      by_cases hwho : i = who
      · subst hwho
        rw [Function.update_self] at hi
        exact hpasses.handle h hi
      · rwa [Function.update_of_ne hwho] at hi
    waits := fun i n hi hwaiting => by
      obtain ⟨h, hh, rfl, hpaused⟩ :=
        hc.waits i n (hbegan.mp hi) (hpasses.shrinks.waiting hwaiting)
      refine ⟨h, hpasses.shrinks.keeps h hh hwaiting, rfl, ?_⟩
      by_cases hwho : i = who
      · subst hwho
        rw [Function.update_self]
        exact (hpasses.waits h hpaused).resolve_right (not_not_intro hwaiting)
      · rwa [Function.update_of_ne hwho] }

theorem Consistent.begin (hc : Consistent history x.2.board stance) {page : Option PageRef}
    {stepIndex totalSteps : Int} (hgoing : stance who = .going)
    (hbegin : x.2.board.begin? taskId page stepIndex totalSteps = some (h, y.2.board)) :
    Consistent (history ++ [⟨who, x, y⟩]) y.2.board (Function.update stance who (.paused h)) := by
  obtain ⟨-, -, hsignal, hhandles, hsignals⟩ := Board.begin?_eq_some hbegin
  have hlength : y.2.board.signals.length = x.2.board.signals.length + 1 := by
    rw [hsignals, List.length_append, List.length_singleton]
  have hbegan : ∀ {i n}, Began (history ++ [⟨who, x, y⟩]) i n ↔
      Began history i n ∨ who = i ∧ n = h.signal := by
    intro i n
    rw [began_append, hsignal]
    refine or_congr_right (and_congr_right fun _ => and_iff_left_of_imp ?_)
    rintro rfl
    exact hlength
  have hold : ∀ {i n}, Began history i n → n < h.signal :=
    fun hi => hsignal ▸ hc.exists_of_began _ _ hi
  exact {
    sound := hc.sound.begin? hbegin
    began := fun h' hh => by
      rw [hhandles, List.mem_append, List.mem_singleton] at hh
      rcases hh with hh | rfl
      · obtain ⟨i, hi⟩ := hc.began h' hh
        exact ⟨i, hbegan.mpr (.inl hi)⟩
      · exact ⟨who, hbegan.mpr (.inr ⟨rfl, rfl⟩)⟩
    exists_of_began := fun i n hi => by
      rcases hbegan.mp hi with hi | ⟨-, rfl⟩
      · have := hc.exists_of_began i n hi
        omega
      · omega
    once := fun i j n hi hj => by
      rcases hbegan.mp hi with hi | ⟨rfl, rfl⟩
      · rcases hbegan.mp hj with hj | ⟨-, rfl⟩
        · exact hc.once i j n hi hj
        · exact absurd (hold hi) (Nat.lt_irrefl _)
      · rcases hbegan.mp hj with hj | ⟨rfl, -⟩
        · exact absurd (hold hj) (Nat.lt_irrefl _)
        · rfl
    owns := fun i h' hi => by
      rw [hbegan]
      by_cases hwho : i = who
      · subst hwho
        rw [Function.update_self] at hi
        cases hi
        exact .inr ⟨rfl, rfl⟩
      · rw [Function.update_of_ne hwho] at hi
        exact .inl (hc.owns i h' hi)
    waits := fun i n hi hwaiting => by
      rcases hbegan.mp hi with hi | ⟨rfl, rfl⟩
      · have hn := hold hi
        rw [Board.signal_append hsignals, if_neg (by omega)] at hwaiting
        obtain ⟨h', hh, rfl, hpaused⟩ := hc.waits i n hi hwaiting
        refine ⟨h', hhandles ▸ List.mem_append_left _ hh, rfl, ?_⟩
        rwa [Function.update_of_ne]
        rintro rfl
        rw [hgoing] at hpaused
        cases hpaused
      · exact ⟨h, by simp [hhandles], rfl, Function.update_self ..⟩ }

theorem Consistent.turn (hc : Consistent history x.2.board stance) {request : Request}
    (hmoves : request.contract.moves (stance who) x φ y) :
    Consistent (history ++ [⟨who, x, y⟩]) y.2.board (Function.update stance who φ) := by
  cases request with
  | execute r w context =>
    rcases Turns.begins_or_passes hmoves (fun h => hc.leaving) with
      hpasses | ⟨page, stepIndex, totalSteps, h, hgoing, rfl, hbegin⟩
    · exact hc.passes hpasses
    · exact hc.begin hgoing hbegin
  | resume c taskId =>
    obtain ⟨rfl, heq | ⟨h, haccept⟩⟩ := hmoves
    · exact hc.passes ⟨heq ▸ Board.shrinks_refl _, fun _ => id, fun _ => .inl⟩
    · exact hc.passes ⟨shrinks_of_accept? haccept, fun _ => id, fun _ => .inl⟩

/-- What has been settled stays settled. -/
theorem Consistent.settled (hc : Consistent history x.2.board stance) {request : Request}
    (hmoves : request.contract.moves (stance who) x φ y) (hn : n < x.2.board.signals.length)
    (hsettled : x.2.board.signal n ≠ .waiting) : y.2.board.signal n = x.2.board.signal n := by
  cases request with
  | execute r w context =>
    rcases Turns.begins_or_passes hmoves (fun h => hc.leaving) with
      hpasses | ⟨page, stepIndex, totalSteps, h, hgoing, rfl, hbegin⟩
    · exact hpasses.shrinks.settled n hsettled
    · rw [Board.signal_append (Board.begin?_eq_some hbegin).2.2.2.2, if_neg (by omega)]
  | resume c taskId =>
    obtain ⟨-, heq | ⟨h, haccept⟩⟩ := hmoves
    · rw [heq]
    · exact (shrinks_of_accept? haccept).settled n hsettled

/-- Only executions withdraw signals. -/
theorem task?_of_withdrawn {request : Request} (hmoves : request.contract.moves φ x φ' y)
    (hwaiting : x.2.board.signal n = .waiting) (hwithdrawn : y.2.board.signal n = .withdrawn) :
    request.task?.isSome := by
  cases request with
  | execute r w context => rfl
  | resume c taskId =>
    obtain ⟨-, heq | ⟨h, haccept⟩⟩ := hmoves
    · rw [heq, hwaiting] at hwithdrawn
      cases hwithdrawn
    · obtain ⟨-, -, heq⟩ := Board.accept?_eq_some haccept
      rw [heq, Board.signal_remove, Board.signal_settle] at hwithdrawn
      split at hwithdrawn
      · cases hwithdrawn
      · rw [hwaiting] at hwithdrawn
        cases hwithdrawn

theorem Stance.lost_iff_of_ne_paused (hφ : ∀ h, φ ≠ .paused h) : φ.Lost b ↔ φ.Lost b' := by
  cases φ with
  | paused h => exact absurd rfl (hφ h)
  | handedBack lost => cases lost <;> exact Iff.rfl
  | _ => exact Iff.rfl

/-- One loses a pause by a turn of another one that withdraws its signal. -/
theorem Consistent.lost_iff (hc : Consistent history x.2.board stance) {request : Request}
    (hmoves : request.contract.moves (stance who) x φ y) (i : Nat) :
    (stance i).Lost y.2.board ↔ (stance i).Lost x.2.board ∨ ∃ h ∈ x.2.board.handles,
      Began history i h.signal ∧ x.2.board.signal h.signal = .waiting ∧
        y.2.board.signal h.signal = .withdrawn := by
  by_cases hpaused : ∃ h, stance i = .paused h
  · obtain ⟨h, hpaused⟩ := hpaused
    have hbegan : Began history i h.signal := hc.owns i h (by rw [hpaused]; rfl)
    have hlt := hc.exists_of_began i _ hbegan
    rw [hpaused]
    constructor
    · intro hlost
      by_cases hwaiting : x.2.board.signal h.signal = .waiting
      · obtain ⟨h', hh, hsame, -⟩ := hc.waits i _ hbegan hwaiting
        rw [← hsame] at hbegan hwaiting
        exact .inr ⟨h', hh, hbegan, hwaiting, hsame ▸ hlost⟩
      · exact .inl ((hc.settled hmoves hlt hwaiting).symm.trans hlost)
    · rintro (hlost | ⟨h', -, hbegan', hwaiting, hwithdrawn⟩)
      · have hsettled : x.2.board.signal h.signal ≠ .waiting := by
          rw [show x.2.board.signal h.signal = .withdrawn from hlost]
          exact nofun
        exact (hc.settled hmoves hlt hsettled).trans hlost
      · obtain ⟨h'', -, hsame, hpaused'⟩ := hc.waits i _ hbegan' hwaiting
        obtain rfl : h = h'' := Stance.paused.inj (hpaused.symm.trans hpaused')
        change y.2.board.signal h.signal = .withdrawn
        rwa [hsame]
  · have hne : ∀ h, stance i ≠ .paused h := fun h heq => hpaused ⟨h, heq⟩
    rw [Stance.lost_iff_of_ne_paused hne, or_iff_left]
    rintro ⟨h, -, hbegan, hwaiting, -⟩
    obtain ⟨h', -, -, hpaused'⟩ := hc.waits i _ hbegan hwaiting
    exact hne h' hpaused'

end

end Pageflow.Pause.Sharing
