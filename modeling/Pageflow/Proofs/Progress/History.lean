import Mathlib.Data.List.Induction
import Pageflow.Proofs.Progress.Latest

/-! What a store of latest events holds after any history: of each task the event that no later
update of the task follows, in the order of the last updates, less what has ended longest ago. -/
namespace Pageflow.Progress

/-- What happens to a store of latest events. -/
inductive Update where
  | handle (e : Event)
  | forget (taskId : String)

namespace Update

/-- The task that an update is about. -/
def taskId : Update → String
  | .handle e => e.taskId
  | .forget taskId => taskId

def events : Update → List Event
  | .handle e => [e]
  | .forget _ => []

end Update

/-- The events that no later update of their task follows, in the order they were handled: the
last event of each task, unless the task was forgotten afterwards. -/
def standing : List Update → List Event
  | [] => []
  | .forget _ :: later => standing later
  | .handle e :: later =>
    if e.taskId ∈ later.map Update.taskId then standing later else e :: standing later

/-- One more update leaves no other event of its task standing. -/
theorem standing_append (history : List Update) (u : Update) : standing (history ++ [u]) =
    (standing history).filter (·.taskId ≠ u.taskId) ++ u.events := by
  induction history with
  | nil => cases u <;> simp [standing, Update.events]
  | cons first later ih =>
    cases first with
    | forget taskId => exact ih
    | handle e =>
      simp only [List.cons_append, standing, List.map_append, List.map_cons, List.map_nil,
        List.mem_append, List.mem_singleton]
      by_cases hlater : e.taskId ∈ later.map Update.taskId
      · simp only [hlater, true_or, ↓reduceIte, ih]
      · by_cases hlast : e.taskId = u.taskId
        · rw [if_pos (.inr hlast), if_neg hlater,
            List.filter_cons_of_neg (by simpa using hlast), ih]
        · simp [hlater, hlast, ih]

/-- The entry that a store has of an event. -/
abbrev Event.entry (e : Event) : String × Event := (e.taskId, e)

namespace Store

def update (s : Store) : Update → Store
  | .handle e => s.record e
  | .forget taskId => s.forget taskId

/-- The store after a history of updates. -/
def replay (s : Store) (history : List Update) : Store := history.foldl update s

theorem replay_append (s : Store) (history : List Update) (u : Update) :
    s.replay (history ++ [u]) = (s.replay history).update u := by
  simp [replay]

/-- The entries after an update if nothing is evicted: those of all other tasks, and behind them
the one that is new. -/
def entered (s : Store) (u : Update) : List (String × Event) :=
  s.entries.filter (·.1 ≠ u.taskId) ++ u.events.map Event.entry

theorem record_eq (s : Store) (e : Event) :
    s.record e = evict { s with entries := s.entered (.handle e) } := rfl

theorem entries_forget (s : Store) (taskId : String) :
    (s.forget taskId).entries = s.entered (.forget taskId) := (List.append_nil _).symm

theorem sound_replay (capacity : Int) (history : List Update) :
    ((empty capacity).replay history).Sound := by
  induction history using List.reverseRecOn with
  | nil => exact sound_empty capacity
  | append_singleton history u ih =>
    rw [replay_append]
    cases u with
    | handle e => exact ih.record e
    | forget taskId => exact ih.forget taskId

/-! ## What an eviction drops -/

section

variable {n : Nat} {entries before after : List (String × Event)} {entry : String × Event}

theorem mem_dropFinal_of_open (hmem : entry ∈ entries) (hopen : entry.2.status.isFinal = false) :
    entry ∈ dropFinal n entries := by
  fun_induction dropFinal n entries with
  | case1 entries => exact hmem
  | case2 n hn => exact hmem
  | case3 n key e rest hfinal ih =>
    rcases List.mem_cons.mp hmem with rfl | hrest
    · rw [hopen] at hfinal
      cases hfinal
    · exact ih hrest
  | case4 n key e rest _ ih =>
    rcases List.mem_cons.mp hmem with rfl | hrest
    · exact List.mem_cons_self
    · exact List.mem_cons_of_mem _ (ih hrest)

/-- No more entries are dropped than asked for. -/
theorem length_le_dropFinal (n : Nat) (entries : List (String × Event)) :
    entries.length ≤ (dropFinal n entries).length + n := by
  fun_induction dropFinal n entries with
  | case1 => exact Nat.le_refl _
  | case2 => exact Nat.zero_le _
  | case3 n key e rest hfinal ih =>
    rw [List.length_cons]
    omega
  | case4 n key e rest hopen ih =>
    rw [List.length_cons, List.length_cons]
    omega

/-- As many are dropped as asked for, or all that have ended. -/
theorem dropFinal_length_le (n : Nat) (entries : List (String × Event)) :
    (dropFinal n entries).length + n ≤ entries.length ∨
      ∀ entry ∈ dropFinal n entries, entry.2.status.isFinal = false := by
  fun_induction dropFinal n entries with
  | case1 => exact .inl (Nat.le_refl _)
  | case2 => exact .inr fun entry hmem => absurd hmem List.not_mem_nil
  | case3 n key e rest hfinal ih =>
    refine ih.imp_left fun hle => ?_
    rw [List.length_cons]
    omega
  | case4 n key e rest hopen ih =>
    refine ih.imp (fun hle => ?_) fun hall => ?_
    · rw [List.length_cons, List.length_cons]
      omega
    · rw [List.forall_mem_cons]
      exact ⟨Bool.eq_false_iff.mpr hopen, hall⟩

/-- An entry that is dropped has ended, and so have been dropped all before it that had ended. -/
theorem dropped_first (hnodup : entries.Nodup) (hsplit : entries = before ++ entry :: after)
    (hdropped : entry ∉ dropFinal n entries) : entry.2.status.isFinal = true ∧
      ∀ earlier ∈ before, earlier.2.status.isFinal = true → earlier ∉ dropFinal n entries := by
  fun_induction dropFinal n entries generalizing before with
  | case1 entries => exact absurd (hsplit ▸ List.mem_append_cons_self) hdropped
  | case2 n hn => exact absurd (hsplit ▸ List.mem_append_cons_self) hdropped
  | case3 n key e rest hfinal ih =>
    obtain ⟨hnew, hrest⟩ := List.nodup_cons.mp hnodup
    rcases List.cons_eq_append_iff.mp hsplit with ⟨rfl, hhead⟩ | ⟨before', rfl, htail⟩
    · obtain ⟨rfl, -⟩ := List.cons.inj hhead
      exact ⟨hfinal, fun earlier hmem => absurd hmem List.not_mem_nil⟩
    · obtain ⟨hended, hearlier⟩ := ih hrest htail hdropped
      refine ⟨hended, List.forall_mem_cons.mpr ⟨fun _ hkept => ?_, hearlier⟩⟩
      exact hnew ((dropFinal_sublist n rest).subset hkept)
  | case4 n key e rest hopen ih =>
    obtain ⟨hnew, hrest⟩ := List.nodup_cons.mp hnodup
    obtain ⟨hne, hdropped⟩ := not_or.mp (mt List.mem_cons.mpr hdropped)
    rcases List.cons_eq_append_iff.mp hsplit with ⟨rfl, hhead⟩ | ⟨before', rfl, htail⟩
    · exact absurd (List.cons.inj hhead).1 hne
    · obtain ⟨hended, hearlier⟩ := ih hrest htail hdropped
      refine ⟨hended, List.forall_mem_cons.mpr ⟨fun hhead => absurd hhead hopen, ?_⟩⟩
      intro earlier hmem hfinal
      refine mt List.mem_cons.mp (not_or.mpr ⟨?_, hearlier earlier hmem hfinal⟩)
      rintro rfl
      exact hnew (htail ▸ List.mem_append_left _ hmem)

end

/-- What a store with room for so many entries tells after a history. -/
structure Latest (capacity : Int) (history : List Update) (s : Store) : Prop where
  room : s.capacity = capacity
  /-- What is stored of a task is the last event handled for it, and the entries are in the order
  of the last updates. -/
  last : ∃ events : List Event,
    events.Sublist (standing history) ∧ s.entries = events.map Event.entry
  /-- A task whose last event is running or paused is there, unless it was forgotten since. -/
  live : ∀ e ∈ standing history, e.status.isFinal = false → e.entry ∈ s.entries
  bounded : (s.entries.length : Int) ≤ capacity ∨
    ∀ entry ∈ s.entries, entry.2.status.isFinal = false

/-- What an update may evict. -/
structure Evicts (s : Store) (u : Update) : Prop where
  /-- Only what has ended, and nothing as long as something is there that has ended and was
  updated before it. -/
  oldest : ∀ before entry after, s.entered u = before ++ entry :: after →
    entry ∉ (s.update u).entries → entry.2.status.isFinal = true ∧
      ∀ earlier ∈ before, earlier.2.status.isFinal = true → earlier ∉ (s.update u).entries
  /-- No more than what is too much. -/
  needed : ∀ entry ∈ s.entered u, entry ∉ (s.update u).entries →
    s.capacity ≤ (s.update u).entries.length

section

variable {s : Store} {capacity : Int} {history : List Update}

/-- If something is evicted, no more is than what is too much. -/
theorem capacity_le_evict {entry : String × Event} (hmem : entry ∈ s.entries)
    (hdropped : entry ∉ s.evict.entries) : s.capacity ≤ s.evict.entries.length := by
  have hle := length_le_dropFinal s.excess s.entries
  have hexcess : s.excess ≠ 0 := by
    intro hzero
    simp only [evict, hzero, dropFinal] at hdropped
    exact hdropped hmem
  simp only [evict]
  unfold excess at hle hexcess ⊢
  omega

theorem evicts_forget (s : Store) (taskId : String) : s.Evicts (.forget taskId) where
  oldest _ _ _ hsplit hdropped :=
    absurd (hsplit ▸ List.mem_append_cons_self) (entries_forget s taskId ▸ hdropped)
  needed _ hmem hdropped := absurd hmem (entries_forget s taskId ▸ hdropped)

theorem Sound.evicts (h : s.Sound) (u : Update) : s.Evicts u := by
  cases u with
  | forget taskId => exact evicts_forget s taskId
  | handle e =>
    constructor
    case oldest =>
      intro before entry after hsplit hdropped
      exact dropped_first (List.Nodup.of_map _ (h.append e)) hsplit hdropped
    case needed =>
      intro entry hmem hdropped
      exact capacity_le_evict hmem hdropped

theorem bounded_evict (s : Store) : (s.evict.entries.length : Int) ≤ s.capacity ∨
    ∀ entry ∈ s.evict.entries, entry.2.status.isFinal = false := by
  refine (dropFinal_length_le s.excess s.entries).imp_left fun hle => ?_
  simp only [evict]
  unfold excess at hle ⊢
  omega

theorem Latest.forget (h : s.Latest capacity history) (taskId : String) :
    (s.forget taskId).Latest capacity (history ++ [.forget taskId]) where
  room := h.room
  last := by
    obtain ⟨events, hsub, hentries⟩ := h.last
    refine ⟨events.filter (·.taskId ≠ taskId), ?_, ?_⟩
    · rw [standing_append, Update.events, List.append_nil]
      exact hsub.filter _
    · rw [Store.forget, hentries, List.filter_map]
      rfl
  live e hmem hopen := by
    rw [standing_append, Update.events, List.append_nil, List.mem_filter] at hmem
    exact List.mem_filter.mpr ⟨h.live e hmem.1 hopen, hmem.2⟩
  bounded := by
    refine h.bounded.imp (fun hle => ?_) fun hall entry hmem => ?_
    · have hfewer := List.length_filter_le
        (fun entry : String × Event => decide (entry.1 ≠ taskId)) s.entries
      simp only [Store.forget]
      omega
    · exact hall entry (List.mem_filter.mp hmem).1

theorem Latest.record (h : s.Latest capacity history) (e : Event) :
    (s.record e).Latest capacity (history ++ [.handle e]) where
  room := h.room
  last := by
    obtain ⟨events, hsub, hentries⟩ := (h.forget e.taskId).last
    have hentered : s.entered (.handle e) = (events ++ [e]).map Event.entry := by
      rw [List.map_append, ← hentries]
      rfl
    have hevicted : (s.record e).entries.Sublist ((events ++ [e]).map Event.entry) := by
      rw [← hentered]
      exact dropFinal_sublist _ _
    obtain ⟨kept, hkept, hentries⟩ := List.sublist_map_iff.mp hevicted
    refine ⟨kept, hkept.trans ?_, hentries⟩
    rw [standing_append, Update.events, List.append_nil] at hsub
    rw [standing_append]
    exact hsub.append_right [e]
  live e' hmem hopen := by
    refine mem_dropFinal_of_open ?_ hopen
    have hforget := (h.forget e.taskId).live e'
    rw [standing_append, Update.events, List.append_nil] at hforget
    rw [standing_append, List.mem_append] at hmem
    rcases hmem with hbefore | hnew
    · exact List.mem_append_left _ (hforget hbefore hopen)
    · obtain rfl : e' = e := List.mem_singleton.mp hnew
      exact List.mem_append_right _ (List.mem_singleton_self _)
  bounded := h.room ▸ bounded_evict { s with entries := s.entered (.handle e) }

theorem latest_replay (capacity : Int) (history : List Update) :
    ((empty capacity).replay history).Latest capacity history := by
  induction history using List.reverseRecOn with
  | nil => exact ⟨rfl, ⟨[], .refl _, rfl⟩, nofun, .inr nofun⟩
  | append_singleton history u ih =>
    rw [replay_append]
    cases u with
    | handle e => exact ih.record e
    | forget taskId => exact ih.forget taskId

end

/-- After any history a store tells the latest of every task, and the next update evicts, if
anything, what has ended longest ago. -/
theorem replay_keeps_latest (capacity : Int) (history : List Update) (u : Update) :
    ((empty capacity).replay history).Latest capacity history ∧
      ((empty capacity).replay history).Evicts u :=
  ⟨latest_replay capacity history, (sound_replay capacity history).evicts u⟩

/-- What ends while a live task fills the store is not even taken in. -/
example : ((empty 1).replay [.handle ⟨"a", .completed, 1, 1, "", ""⟩,
    .handle ⟨"b", .running, 0, 1, "", ""⟩, .handle ⟨"c", .failed, 0, 1, "", ""⟩]).entries =
    [("b", ⟨"b", .running, 0, 1, "", ""⟩)] := by decide

end Store
end Pageflow.Progress
