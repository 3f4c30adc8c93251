import Mathlib.Data.List.Nodup
import Pageflow.Pause.Board

/-! The board as a table: no task and no signal has two handles, so looking up a
task finds its only handle, and taking a handle off leaves the other tasks
theirs. -/
namespace Pageflow.Pause.Board

/-- No two handles share a task or a signal, and every signal exists. -/
structure Sound (b : Board) : Prop where
  tasks_nodup : (b.handles.map (·.taskId)).Nodup
  signals_nodup : (b.handles.map (·.signal)).Nodup
  signal_lt : ∀ h ∈ b.handles, h.signal < b.signals.length

theorem sound_empty : empty.Sound := ⟨.nil, .nil, nofun⟩

variable {b b' : Board} {h h' : Handle} {taskId : String} {n m : Nat}

theorem Sound.eq_of_taskId (hb : b.Sound) (hh : h ∈ b.handles) (hh' : h' ∈ b.handles)
    (heq : h.taskId = h'.taskId) : h = h' :=
  List.inj_on_of_nodup_map hb.tasks_nodup hh hh' heq

theorem Sound.eq_of_signal (hb : b.Sound) (hh : h ∈ b.handles) (hh' : h' ∈ b.handles)
    (heq : h.signal = h'.signal) : h = h' :=
  List.inj_on_of_nodup_map hb.signals_nodup hh hh' heq

theorem mem_of_handle? (hfound : b.handle? taskId = some h) :
    h ∈ b.handles ∧ h.taskId = taskId := by
  unfold handle? at hfound
  exact ⟨List.mem_of_find?_eq_some hfound, by simpa using List.find?_some hfound⟩

theorem Sound.handle?_eq_some_iff (hb : b.Sound) :
    b.handle? taskId = some h ↔ h ∈ b.handles ∧ h.taskId = taskId := by
  refine ⟨mem_of_handle?, fun ⟨hmem, htask⟩ => ?_⟩
  cases hfound : b.handle? taskId with
  | none =>
    have hnone := List.find?_eq_none.mp hfound h hmem
    exact absurd htask (by simpa using hnone)
  | some h' =>
    obtain ⟨hmem', htask'⟩ := mem_of_handle? hfound
    rw [hb.eq_of_taskId hmem' hmem (htask'.trans htask.symm)]

theorem handle?_eq_of_mem_iff (hb : b.Sound) (hb' : b'.Sound)
    (hmem : ∀ h : Handle, h.taskId = taskId → (h ∈ b'.handles ↔ h ∈ b.handles)) :
    b'.handle? taskId = b.handle? taskId := by
  ext h
  rw [hb'.handle?_eq_some_iff, hb.handle?_eq_some_iff]
  exact and_congr_left fun htask => hmem h htask

/-! ## Signals -/

@[simp] theorem handles_settle (s : Signal) : (b.settle n s).handles = b.handles := rfl

@[simp] theorem length_signals_settle (s : Signal) :
    (b.settle n s).signals.length = b.signals.length :=
  List.length_modify ..

theorem signal_settle (s : Signal) : (b.settle n s).signal m =
    if m = n ∧ b.signal n = .waiting then s else b.signal m := by
  unfold signal settle
  rw [List.getElem?_modify]
  by_cases heq : n = m
  · subst heq
    cases hsignal : b.signals[n]? with
    | none => simp
    | some old => simp
  · have hne : ¬ m = n := fun h => heq h.symm
    simp [heq, hne]

theorem signal_settle_of_ne (hne : m ≠ n) (s : Signal) : (b.settle n s).signal m = b.signal m := by
  rw [signal_settle, if_neg fun h => hne h.1]

theorem signal_settle_self (hwaiting : b.signal n = .waiting) (s : Signal) :
    (b.settle n s).signal n = s := by
  rw [signal_settle, if_pos ⟨rfl, hwaiting⟩]

@[simp] theorem signal_remove : (b.remove h).signal n = b.signal n := rfl

theorem mem_remove : h' ∈ (b.remove h).handles ↔ h' ∈ b.handles ∧ h'.signal ≠ h.signal := by
  simp [remove]

theorem filter_remove (hhandles : b.handles.filter (·.taskId = taskId) = [h]) :
    (b.remove h).handles.filter (·.taskId = taskId) = [] := by
  unfold remove
  rw [List.filter_comm, hhandles]
  simp

theorem Sound.settle (hb : b.Sound) (n : Nat) (s : Signal) : (b.settle n s).Sound where
  tasks_nodup := hb.tasks_nodup
  signals_nodup := hb.signals_nodup
  signal_lt h hh := by
    rw [length_signals_settle]
    exact hb.signal_lt h hh

theorem Sound.remove (hb : b.Sound) (h : Handle) : (b.remove h).Sound where
  tasks_nodup := hb.tasks_nodup.sublist (List.filter_sublist.map _)
  signals_nodup := hb.signals_nodup.sublist (List.filter_sublist.map _)
  signal_lt h' hh' := hb.signal_lt h' (mem_remove.mp hh').1

/-! ## Beginning and ending pauses -/

theorem begin?_eq_some {page : Option Browser.PageRef} {stepIndex totalSteps : Int}
    (hbegin : b.begin? taskId page stepIndex totalSteps = some (h, b')) :
    b.handle? taskId = none ∧ h.taskId = taskId ∧ h.signal = b.signals.length ∧
      b'.handles = b.handles ++ [h] ∧ b'.signals = b.signals ++ [.waiting] := by
  unfold begin? isPaused at hbegin
  split at hbegin
  · cases hbegin
  · rename_i hnone
    obtain ⟨rfl, rfl⟩ := Prod.mk.inj (Option.some.inj hbegin)
    exact ⟨Option.not_isSome_iff_eq_none.mp hnone, rfl, rfl, rfl, rfl⟩

theorem handle_of_begin? {page : Option Browser.PageRef} {stepIndex totalSteps : Int}
    (hbegin : b.begin? taskId page stepIndex totalSteps = some (h, b')) :
    h = ⟨taskId, page, b.signals.length, stepIndex, totalSteps⟩ := by
  unfold begin? at hbegin
  split at hbegin
  · cases hbegin
  · exact (Prod.mk.inj (Option.some.inj hbegin)).1.symm

theorem signal_append (hsignals : b'.signals = b.signals ++ [.waiting]) :
    b'.signal n = if n = b.signals.length then .waiting else b.signal n := by
  unfold signal
  rw [hsignals]
  by_cases hlt : n < b.signals.length
  · rw [List.getElem?_append_left hlt, if_neg (by omega)]
  · by_cases heq : n = b.signals.length
    · subst heq
      simp
    · rw [if_neg heq, List.getElem?_eq_none (by simp; omega), List.getElem?_eq_none (by omega)]

theorem Sound.begin? (hb : b.Sound) {page : Option Browser.PageRef} {stepIndex totalSteps : Int}
    (hbegin : b.begin? taskId page stepIndex totalSteps = some (h, b')) : b'.Sound := by
  obtain ⟨hnone, htask, hsignal, hhandles, hsignals⟩ := begin?_eq_some hbegin
  have hnew : ∀ h' ∈ b.handles, h'.taskId ≠ h.taskId := by
    intro h' hh' heq
    have hfound := hb.handle?_eq_some_iff.mpr ⟨hh', heq.trans htask⟩
    rw [hnone] at hfound
    cases hfound
  constructor
  · rw [hhandles, List.map_append, List.map_singleton, List.nodup_append]
    refine ⟨hb.tasks_nodup, List.nodup_singleton _, ?_⟩
    simpa using hnew
  · rw [hhandles, List.map_append, List.map_singleton, List.nodup_append]
    refine ⟨hb.signals_nodup, List.nodup_singleton _, ?_⟩
    have hold : ∀ h' ∈ b.handles, h'.signal ≠ h.signal := fun h' hh' heq => by
      have := hb.signal_lt h' hh'
      omega
    simpa using hold
  · rw [hhandles, hsignals]
    intro h' hh'
    simp only [List.length_append, List.length_singleton]
    rcases List.mem_append.mp hh' with hold | hnow
    · have := hb.signal_lt h' hold
      omega
    · rw [List.mem_singleton.mp hnow]
      omega

theorem resumable?_eq_some_iff :
    b.resumable? taskId = some h ↔ b.handle? taskId = some h ∧ b.signal h.signal = .waiting := by
  unfold resumable?
  rw [Option.filter_eq_some_iff]
  simp

theorem resumable?_of_accept? (haccept : b.accept? h = some b') :
    b.resumable? h.taskId = some h := by
  unfold accept? at haccept
  split at haccept
  · assumption
  · cases haccept

theorem accept?_eq_some (haccept : b.accept? h = some b') :
    h ∈ b.handles ∧ b.signal h.signal = .waiting ∧ b' = (b.settle h.signal .given).remove h := by
  have hresumable := resumable?_of_accept? haccept
  obtain ⟨hfound, hwaiting⟩ := resumable?_eq_some_iff.mp hresumable
  unfold accept? at haccept
  rw [if_pos hresumable] at haccept
  exact ⟨(mem_of_handle? hfound).1, hwaiting, (Option.some.inj haccept).symm⟩

theorem cancel_eq {done : Bool} (hcancel : b.cancel taskId = (done, b')) :
    b' = b ∨ ∃ h ∈ b.handles, h.taskId = taskId ∧
      b' = (b.settle h.signal .withdrawn).remove h := by
  unfold cancel at hcancel
  split at hcancel
  · rename_i h hfound
    obtain ⟨hmem, htask⟩ := mem_of_handle? hfound
    exact .inr ⟨h, hmem, htask, (Prod.mk.inj hcancel).2.symm⟩
  · exact .inl (Prod.mk.inj hcancel).2.symm

/-- The pause that was cancelled was the only one of its task. -/
theorem Sound.handle?_cancel (hb : b.Sound) : (b.cancel taskId).2.handle? taskId = none := by
  unfold cancel
  split
  · rename_i h hfound
    obtain ⟨hmem, htask⟩ := mem_of_handle? hfound
    unfold handle?
    rw [List.find?_eq_none]
    intro h' hh' htask'
    obtain ⟨hmem', hother⟩ := mem_remove.mp hh'
    have htasks : h'.taskId = h.taskId := by rw [of_decide_eq_true htask', htask]
    exact hother (congrArg (·.signal) (hb.eq_of_taskId hmem' hmem htasks))
  · assumption

theorem handles_cancel_subset : (b.cancel taskId).2.handles ⊆ b.handles := by
  unfold cancel
  split
  · exact List.filter_sublist.subset
  · exact List.Subset.refl _

/-! ## Boards over time -/

/-- The boards that one leads to, whatever is done to it, with the pauses of which a request to
resume them was accepted, in their order. -/
inductive Leads (b : Board) : List Handle → Board → Prop where
  | refl : Leads b [] b
  | begin {accepted : List Handle} {b₁ b₂ : Board} {taskId : String}
    {page : Option Browser.PageRef} {stepIndex totalSteps : Int} {h : Handle}
    (hleads : Leads b accepted b₁)
    (hbegin : b₁.begin? taskId page stepIndex totalSteps = some (h, b₂)) : Leads b accepted b₂
  | accept {accepted : List Handle} {b₁ b₂ : Board} {h : Handle} (hleads : Leads b accepted b₁)
    (haccept : b₁.accept? h = some b₂) : Leads b (accepted ++ [h]) b₂
  | withdraw {accepted : List Handle} {b₁ : Board} (hleads : Leads b accepted b₁) (n : Nat) :
    Leads b accepted (b₁.settle n .withdrawn)
  | remove {accepted : List Handle} {b₁ : Board} (hleads : Leads b accepted b₁) (h : Handle) :
    Leads b accepted (b₁.remove h)
  | cancel {accepted : List Handle} {b₁ : Board} (hleads : Leads b accepted b₁)
    (taskId : String) : Leads b accepted (b₁.cancel taskId).2

theorem given_of_settle_withdrawn (h : (b.settle m .withdrawn).signal n = .given) :
    b.signal n = .given := by
  rw [signal_settle] at h
  split at h
  · cases h
  · exact h

/-- A signal that is given was given by a request to resume its pause. -/
theorem Leads.accepted {accepted : List Handle} (hleads : b.Leads accepted b')
    (hwaiting : b.signal n = .waiting) (hgiven : b'.signal n = .given) :
    ∃ h ∈ accepted, h.signal = n := by
  induction hleads with
  | refl =>
    rw [hwaiting] at hgiven
    cases hgiven
  | begin _ hbegin ih =>
    rw [signal_append (begin?_eq_some hbegin).2.2.2.2] at hgiven
    split at hgiven
    · cases hgiven
    · exact ih hgiven
  | @accept accepted b₁ b₂ h _ haccept ih =>
    obtain ⟨-, -, rfl⟩ := accept?_eq_some haccept
    rw [signal_remove, signal_settle] at hgiven
    split at hgiven
    · rename_i hsame
      exact ⟨h, List.mem_append_right _ (List.mem_singleton.mpr rfl), hsame.1.symm⟩
    · obtain ⟨h', hmem, hsignal⟩ := ih hgiven
      exact ⟨h', List.mem_append_left _ hmem, hsignal⟩
  | withdraw _ m ih => exact ih (given_of_settle_withdrawn hgiven)
  | remove _ h ih => exact ih hgiven
  | cancel _ taskId ih =>
    unfold Board.cancel at hgiven
    split at hgiven
    · exact ih (given_of_settle_withdrawn hgiven)
    · exact ih hgiven

end Pageflow.Pause.Board
