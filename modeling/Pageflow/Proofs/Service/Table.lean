import Mathlib.Data.List.Nodup
import Mathlib.Data.List.Perm.Basic
import Pageflow.Service.Table

/-! The table of tasks: one record for each task, a serial of its own for each record, and
what is dropped of it when a task has ended. -/
namespace Pageflow.Service.Table

/-- No task has two records, no serial is used twice, and the next one is new. -/
structure Sound (t : Table) : Prop where
  taskIds : (t.records.map (·.taskId)).Nodup
  serials : ∀ r ∈ t.records, ∀ r' ∈ t.records, r.serial = r'.serial → r = r'
  fresh : ∀ r ∈ t.records, r.serial < t.nextSerial

variable {t : Table} {r r' : TaskRecord} {l : List TaskRecord} {taskId : String} {n : Nat}

theorem sound_empty : empty.Sound :=
  ⟨List.nodup_nil, fun _ h => (nomatch h), fun _ h => (nomatch h)⟩

theorem Sound.eq_of_taskId (h : t.Sound) (hr : r ∈ t.records) (hr' : r' ∈ t.records)
    (heq : r.taskId = r'.taskId) : r = r' :=
  List.inj_on_of_nodup_map h.taskIds hr hr' heq

theorem mem_of_get? (h : t.get? taskId = some r) : r ∈ t.records ∧ r.taskId = taskId :=
  ⟨List.mem_of_find?_eq_some h, by simpa using List.find?_some h⟩

theorem get?_isSome_iff : (t.get? taskId).isSome ↔ taskId ∈ t.records.map (·.taskId) := by
  simp [get?, List.find?_isSome]

/-! ## Entering -/

theorem mem_put_self : r ∈ put r l := by
  induction l with
  | nil => exact List.mem_singleton_self r
  | cons old rest ih =>
    unfold put
    split
    · exact List.mem_cons_self
    · exact List.mem_cons_of_mem _ ih

theorem mem_of_mem_put (h : r' ∈ put r l) : r' = r ∨ r' ∈ l := by
  induction l with
  | nil => exact .inl (List.mem_singleton.mp h)
  | cons old rest ih =>
    unfold put at h
    split at h <;> rcases List.mem_cons.mp h with rfl | hrest
    · exact .inl rfl
    · exact .inr (List.mem_cons_of_mem _ hrest)
    · exact .inr List.mem_cons_self
    · exact (ih hrest).imp_right (List.mem_cons_of_mem _)

/-- A record takes the place of the one of its task, or a place at the end. -/
theorem taskIds_put : (put r l).map (·.taskId) =
    if r.taskId ∈ l.map (·.taskId) then l.map (·.taskId) else l.map (·.taskId) ++ [r.taskId] := by
  induction l with
  | nil => rfl
  | cons old rest ih =>
    unfold put
    by_cases heq : old.taskId = r.taskId
    · simp [heq]
    · have hne : r.taskId ≠ old.taskId := Ne.symm heq
      simp only [heq, ↓reduceIte, List.map_cons, ih, List.mem_cons, hne, false_or]
      split <;> rfl

theorem nodup_put (h : (l.map (·.taskId)).Nodup) : ((put r l).map (·.taskId)).Nodup := by
  rw [taskIds_put]
  split
  · exact h
  · rename_i hnew
    rw [← List.concat_eq_append]
    exact h.concat hnew

/-- A new record with the next serial, in the place of its task. -/
structure Enters (t : Table) (r : TaskRecord) (t' : Table) : Prop where
  records : t'.records = put r t.records
  serial : r.serial = t.nextSerial
  next : t'.nextSerial = t.nextSerial + 1
  unfinished : r.status = .pending ∧ r.result = none

theorem enters_submit (t : Table) (taskId workflowId : String) (inputValue : Json)
    (metadata : List (String × Json)) (now : Int) :
    t.Enters (t.submit taskId workflowId inputValue metadata now).1
      (t.submit taskId workflowId inputValue metadata now).2 :=
  ⟨rfl, rfl, rfl, rfl, rfl⟩

theorem Sound.enters {t' : Table} (h : t.Sound) (henters : t.Enters r t') : t'.Sound where
  taskIds := by
    rw [henters.records]
    exact nodup_put h.taskIds
  serials := by
    have hnew : ∀ r' ∈ t.records, r'.serial ≠ r.serial := by
      intro r' hr'
      rw [henters.serial]
      exact Nat.ne_of_lt (h.fresh r' hr')
    intro r₁ h₁ r₂ h₂ heq
    rw [henters.records] at h₁ h₂
    rcases mem_of_mem_put h₁ with rfl | hold₁ <;> rcases mem_of_mem_put h₂ with rfl | hold₂
    · rfl
    · exact absurd heq.symm (hnew r₂ hold₂)
    · exact absurd heq (hnew r₁ hold₁)
    · exact h.serials r₁ hold₁ r₂ hold₂ heq
  fresh r' hr' := by
    rw [henters.records] at hr'
    rw [henters.next]
    rcases mem_of_mem_put hr' with rfl | hold
    · rw [henters.serial]
      exact Nat.lt_succ_self _
    · exact Nat.lt_succ_of_lt (h.fresh r' hold)

theorem Enters.taskIds_subset {t' : Table} (h : t.Enters r t') :
    t.records.map (·.taskId) ⊆ t'.records.map (·.taskId) := by
  rw [h.records, taskIds_put]
  split
  · exact List.Subset.refl _
  · exact List.subset_append_left _ _

theorem get?_put : (put r l).find? (·.taskId = taskId) =
    if taskId = r.taskId then some r else l.find? (·.taskId = taskId) := by
  induction l with
  | nil =>
    by_cases heq : r.taskId = taskId
    · simp [put, heq]
    · simp [put, heq, Ne.symm heq]
  | cons old rest ih =>
    unfold put
    by_cases hold : old.taskId = r.taskId
    · rw [if_pos hold, List.find?_cons, List.find?_cons, hold]
      by_cases heq : r.taskId = taskId
      · simp [heq]
      · simp [heq, Ne.symm heq]
    · rw [if_neg hold, List.find?_cons, List.find?_cons, ih]
      by_cases heq : old.taskId = taskId
      · have hne : taskId ≠ r.taskId := fun h => hold (heq.trans h)
        simp [heq, hne]
      · simp [heq]

theorem Enters.get? {t' : Table} (h : t.Enters r t') :
    t'.get? taskId = if taskId = r.taskId then some r else t.get? taskId := by
  unfold Table.get?
  rw [h.records, get?_put]

/-! ## Changing -/

section

variable {f : TaskRecord → TaskRecord}

theorem mem_change : r' ∈ (t.change n f).records ↔
    ∃ r ∈ t.records, (if r.serial = n then f r else r) = r' := by
  simp [change]

/-- What `f` leaves alone, a change leaves alone in all records. -/
theorem map_change {β : Type} {g : TaskRecord → β} (hf : ∀ r, g (f r) = g r) :
    (t.change n f).records.map g = t.records.map g := by
  unfold change
  rw [List.map_map]
  refine List.map_congr_left fun r _ => ?_
  dsimp only [Function.comp_apply]
  split
  · exact hf r
  · rfl

theorem get?_change (hf : ∀ r, (f r).taskId = r.taskId) : (t.change n f).get? taskId =
    (t.get? taskId).map fun r => if r.serial = n then f r else r := by
  have hsame : ∀ r, (if r.serial = n then f r else r).taskId = r.taskId := by
    intro r
    split
    · exact hf r
    · rfl
  unfold get? change
  rw [List.find?_map]
  simp only [Function.comp_def, hsame]

theorem get?_change_self (hf : ∀ r, (f r).taskId = r.taskId) (hr : t.get? taskId = some r)
    (hserial : r.serial = n) : (t.change n f).get? taskId = some (f r) := by
  rw [get?_change hf, hr, Option.map_some, if_pos hserial]

/-- A serial stands for one task. -/
theorem Sound.get?_change_of_ne {other : String} (h : t.Sound)
    (hf : ∀ r, (f r).taskId = r.taskId) (hr : t.get? taskId = some r) (hserial : r.serial = n)
    (hne : other ≠ taskId) : (t.change n f).get? other = t.get? other := by
  rw [get?_change hf]
  cases hother : t.get? other with
  | none => rfl
  | some r' =>
    obtain ⟨hmem, htask⟩ := mem_of_get? hr
    obtain ⟨hmem', htask'⟩ := mem_of_get? hother
    rw [Option.map_some, if_neg]
    intro heq
    refine hne ?_
    rw [← htask, ← htask', h.serials r' hmem' r hmem (heq.trans hserial.symm)]

theorem Sound.change (h : t.Sound) (htask : ∀ r, (f r).taskId = r.taskId)
    (hserial : ∀ r, (f r).serial = r.serial) : (t.change n f).Sound where
  taskIds := by
    rw [map_change htask]
    exact h.taskIds
  serials := by
    have hsame : ∀ r, (if r.serial = n then f r else r).serial = r.serial := by
      intro r
      split
      · exact hserial r
      · rfl
    intro _ h₁ _ h₂ heq
    obtain ⟨r₁, hr₁, rfl⟩ := mem_change.mp h₁
    obtain ⟨r₂, hr₂, rfl⟩ := mem_change.mp h₂
    rw [hsame, hsame] at heq
    rw [h.serials r₁ hr₁ r₂ hr₂ heq]
  fresh r' hr' := by
    obtain ⟨r, hr, rfl⟩ := mem_change.mp hr'
    have hlt := h.fresh r hr
    split
    · rw [hserial]
      exact hlt
    · exact hlt

end

theorem taskIds_begin : (t.begin n).records.map (·.taskId) = t.records.map (·.taskId) :=
  map_change fun _ => rfl

/-- Every record of `t'` is a new one or one of `t`, of the same task and workflow. -/
structure Continues (t t' : Table) : Prop where
  next : t.nextSerial ≤ t'.nextSerial
  records : ∀ r' ∈ t'.records, t.nextSerial ≤ r'.serial ∨ ∃ r ∈ t.records,
    r'.serial = r.serial ∧ r'.taskId = r.taskId ∧ r'.workflowId = r.workflowId

theorem Continues.refl : t.Continues t := ⟨Nat.le_refl _, fun r hr => .inr ⟨r, hr, rfl, rfl, rfl⟩⟩

theorem Continues.trans {t' t'' : Table} (h : t.Continues t') (h' : t'.Continues t'') :
    t.Continues t'' where
  next := Nat.le_trans h.next h'.next
  records r'' hr'' := by
    rcases h'.records r'' hr'' with hnew | ⟨r', hr', hserial', htask', hworkflow'⟩
    · exact .inl (Nat.le_trans h.next hnew)
    rcases h.records r' hr' with hnew | ⟨r, hr, hserial, htask, hworkflow⟩
    · exact .inl (hserial' ▸ hnew)
    · exact .inr ⟨r, hr, hserial'.trans hserial, htask'.trans htask, hworkflow'.trans hworkflow⟩

theorem Enters.continues {t' : Table} (h : t.Enters r t') : t.Continues t' where
  next := h.next ▸ Nat.le_succ _
  records r' hr' := by
    rw [h.records] at hr'
    rcases mem_of_mem_put hr' with rfl | hold
    · exact .inl (Nat.le_of_eq h.serial.symm)
    · exact .inr ⟨r', hold, rfl, rfl, rfl⟩

theorem continues_change {f : TaskRecord → TaskRecord} (hf : ∀ r,
    (f r).serial = r.serial ∧ (f r).taskId = r.taskId ∧ (f r).workflowId = r.workflowId) :
    t.Continues (t.change n f) where
  next := Nat.le_refl _
  records r' hr' := by
    obtain ⟨r, hr, rfl⟩ := mem_change.mp hr'
    refine .inr ⟨r, hr, ?_⟩
    split
    · exact hf r
    · exact ⟨rfl, rfl, rfl⟩

theorem continues_drop {dropped : List String} : t.Continues (t.drop dropped) where
  next := Nat.le_refl _
  records r hr := .inr ⟨r, List.mem_of_mem_filter hr, rfl, rfl, rfl⟩

theorem continues_begin : t.Continues (t.begin n) := continues_change fun _ => ⟨rfl, rfl, rfl⟩

theorem continues_finish {result : Option Execution} : t.Continues (t.finish n result) :=
  continues_change fun _ => by cases result <;> exact ⟨rfl, rfl, rfl⟩

/-! ## Finishing -/

variable {limit : Nat} {keep : String} {dropped : List String}

theorem Sound.begin (h : t.Sound) (serial : Nat) : (t.begin serial).Sound :=
  h.change (fun _ => rfl) fun _ => rfl

theorem Sound.finish (h : t.Sound) (serial : Nat) (result : Option Execution) :
    (t.finish serial result).Sound :=
  h.change (fun _ => by cases result <;> rfl) fun _ => by cases result <;> rfl

theorem Sound.drop (h : t.Sound) (dropped : List String) : (t.drop dropped).Sound where
  taskIds := h.taskIds.sublist (List.filter_sublist.map _)
  serials r hr r' hr' := h.serials r (List.mem_of_mem_filter hr) r' (List.mem_of_mem_filter hr')
  fresh r hr := h.fresh r (List.mem_of_mem_filter hr)

/-- The records of tasks that have ended, apart from one task. -/
def finished (t : Table) (keep : String) : List TaskRecord :=
  t.records.filter fun r => r.status.isFinal && r.taskId ≠ keep

theorem mem_finished : r ∈ t.finished keep ↔
    r ∈ t.records ∧ r.status.isFinal = true ∧ r.taskId ≠ keep := by
  simp [finished]

theorem mem_drop : r ∈ (t.drop dropped).records ↔ r ∈ t.records ∧ r.taskId ∉ dropped := by
  simp [drop]

theorem get?_drop : (t.drop dropped).get? taskId =
    if taskId ∈ dropped then none else t.get? taskId := by
  unfold get? drop
  rw [List.find?_filter]
  split
  · rename_i hdropped
    refine List.find?_eq_none.mpr fun r _ => ?_
    simpa using fun hkept : r.taskId ∉ dropped => fun heq : r.taskId = taskId =>
      hkept (heq ▸ hdropped)
  · rename_i hkept
    refine congrArg (t.records.find? ·) (funext fun r => ?_)
    by_cases heq : r.taskId = taskId
    · simp [heq, hkept]
    · simp [heq]

theorem Sound.get?_of_mem (h : t.Sound) (hr : r ∈ t.records) : t.get? r.taskId = some r := by
  obtain ⟨r', hr'⟩ := Option.isSome_iff_exists.mp (get?_isSome_iff.mpr (List.mem_map_of_mem hr))
  obtain ⟨hmem, htask⟩ := mem_of_get? hr'
  rw [hr', h.eq_of_taskId hmem hr htask]

theorem Sound.get?_of_surplus (h : t.Sound) (hid : taskId ∈ t.surplus limit keep) :
    ∃ r, t.get? taskId = some r ∧ r.status.isFinal = true := by
  obtain ⟨r, hr, rfl⟩ := List.mem_map.mp (List.mem_of_mem_take hid)
  obtain ⟨hmem, hfinal, -⟩ := mem_finished.mp hr
  exact ⟨r, h.get?_of_mem hmem, hfinal⟩

/-- `t'` is what retention leaves of `t`, where `limit` records are to be left if possible
and the task `keep` is to stay: the records of `dropped` are gone. -/
structure Retains (limit : Nat) (keep : String) (t t' : Table) (dropped : List String) : Prop where
  /-- The oldest are dropped first. -/
  oldest : dropped <+: (t.finished keep).map (·.taskId)
  /-- Each is there when its turn comes. -/
  present : ∀ older id later, dropped = older ++ id :: later → ((t.drop older).get? id).isSome
  rest : t'.records = t.records.filter fun r => r.taskId ∉ dropped
  /-- Only what has ended is dropped, and not the task that is to stay. -/
  ended : ∀ r ∈ t.records, r ∉ t'.records → r.status.isFinal = true ∧ r.taskId ≠ keep
  /-- No more than there are too many. -/
  sparing : dropped.length ≤ t.records.length - limit
  enough : t'.records.length ≤ limit ∨ ∀ r ∈ t'.records, r.status.isFinal = true → r.taskId = keep

theorem Sound.nodup_finished (h : t.Sound) : ((t.finished keep).map (·.taskId)).Nodup :=
  h.taskIds.sublist (List.filter_sublist.map _)

theorem length_drop (h : t.Sound) (hnodup : dropped.Nodup)
    (hmem : ∀ id ∈ dropped, id ∈ t.records.map (·.taskId)) :
    (t.drop dropped).records.length + dropped.length = t.records.length := by
  have hperm : ((t.records.filter fun r => r.taskId ∈ dropped).map (·.taskId)).Perm dropped := by
    refine (List.perm_ext_iff_of_nodup (h.taskIds.sublist (List.filter_sublist.map _)) hnodup).mpr
      fun id => ?_
    constructor
    · intro hid
      obtain ⟨r, hr, rfl⟩ := List.mem_map.mp hid
      simpa using (List.mem_filter.mp hr).2
    · intro hid
      obtain ⟨r, hr, rfl⟩ := List.mem_map.mp (hmem id hid)
      exact List.mem_map_of_mem (List.mem_filter.mpr ⟨hr, by simpa using hid⟩)
  have hlength := List.length_eq_length_filter_add (l := t.records) fun r => r.taskId ∈ dropped
  rw [← hperm.length_eq, List.length_map, hlength, Nat.add_comm]
  simp [drop]

theorem Sound.retains_surplus (h : t.Sound) :
    Retains limit keep t (t.drop (t.surplus limit keep)) (t.surplus limit keep) := by
  have hinitial : t.surplus limit keep <+: (t.finished keep).map (·.taskId) :=
    List.take_prefix _ _
  have hnodup : (t.surplus limit keep).Nodup := h.nodup_finished.sublist hinitial.sublist
  have hfinished : ∀ id ∈ t.surplus limit keep, ∃ r ∈ t.finished keep, r.taskId = id :=
    fun id hid => List.mem_map.mp (hinitial.subset hid)
  have hmem : ∀ id ∈ t.surplus limit keep, id ∈ t.records.map (·.taskId) := by
    intro id hid
    obtain ⟨r, hr, rfl⟩ := hfinished id hid
    exact List.mem_map_of_mem (mem_finished.mp hr).1
  refine ⟨hinitial, ?_, rfl, ?_, List.length_take_le _ _, ?_⟩
  · intro older id later heq
    obtain ⟨r, hr, rfl⟩ := List.mem_map.mp (hmem id (by simp [heq]))
    have hnew : r.taskId ∉ older := by
      rw [heq] at hnodup
      exact fun hold => (List.nodup_append.mp hnodup).2.2 _ hold _ List.mem_cons_self rfl
    exact get?_isSome_iff.mpr (List.mem_map_of_mem (mem_drop.mpr ⟨hr, hnew⟩))
  · intro r hr hgone
    have hdropped : r.taskId ∈ t.surplus limit keep := by
      by_contra hkept
      exact hgone (mem_drop.mpr ⟨hr, hkept⟩)
    obtain ⟨r', hr', heq⟩ := hfinished _ hdropped
    obtain ⟨hmem', hfinal⟩ := mem_finished.mp hr'
    rw [h.eq_of_taskId hr hmem' heq.symm]
    exact hfinal
  · have hlength := length_drop h hnodup hmem
    have htake : (t.surplus limit keep).length =
        min (t.records.length - limit) (t.finished keep).length := by
      rw [surplus, List.length_take, List.length_map, finished]
    -- Either there was enough to drop, or all that had ended was dropped.
    by_cases hmany : t.records.length - limit ≤ (t.finished keep).length
    · left
      omega
    · right
      intro r hr hfinal
      by_contra hne
      obtain ⟨hr, hkept⟩ := mem_drop.mp hr
      refine hkept ?_
      rw [surplus, List.take_of_length_le]
      · exact List.mem_map_of_mem (mem_finished.mpr ⟨hr, hfinal, hne⟩)
      · rw [List.length_map]
        exact (Nat.le_of_not_le hmany)

end Pageflow.Service.Table
