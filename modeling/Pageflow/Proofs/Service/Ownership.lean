import Pageflow.Proofs.Pause.Board
import Pageflow.Proofs.Service.Standing

/-! What the turns of a call do to all tasks. The ids of tasks are named by the calls or issued
as new ones; a call deals with the task it has in hand and with ids that were issued to it. -/
namespace Pageflow.Service
open Browser Pause

/-- The ids that have been issued, and what calls share. -/
abbrev Site : Type := List String × State

variable {s : Service} {named : String → Prop}

/-- What holds when a call stands so. -/
structure Good (s : Service) (named : String → Prop) (φ : Stance) (x : Site) : Prop where
  orderly : Orderly s x.2
  fresh : ∀ id, ¬ named id → id ∉ x.1 → Untouched s x.2 id
  known : ∀ id, φ.task? = some id → named id ∨ id ∈ x.1
  stands : φ.At s x.2

/-- Whether a call deals with a task in a turn: it has it in hand, or its id is issued. -/
def Deals (named : String → Prop) (φ : Stance) (x y : Site) (id : String) : Prop :=
  φ.task? = some id ∨ ¬ named id ∧ id ∉ x.1 ∧ id ∈ y.1

/-- What a call does from `x` to `y`, all in one turn. -/
structure Moves (s : Service) (named : String → Prop) (φ : Stance) (x : Site) (φ' : Stance)
    (y : Site) : Prop where
  issued : x.1 ⊆ y.1
  dealt : ∀ id, φ'.task? = some id → Deals named φ x y id
  others : ∀ id, ¬ Deals named φ x y id → Beside s id x.2 y.2
  /-- What the call no longer has in hand it leaves in order. -/
  settled : ∀ id, Deals named φ x y id → φ'.task? = some id ∨ Settled s y.2 id
  good : Good s named φ' y

/-- What happens beside all tasks. -/
structure Leaves (s : Service) (x y : Site) : Prop where
  issued : x.1 ⊆ y.1
  orderly : Orderly s x.2 → Orderly s y.2
  beside : ∀ id, Beside s id x.2 y.2

section

variable {x y z : Site} {φ φ' φ'' : Stance} {id : String} {t : State}

theorem Leaves.refl : Leaves s x x := ⟨fun _ => (·), id, fun _ => .refl⟩

theorem Leaves.trans (h : Leaves s x y) (h' : Leaves s y z) : Leaves s x z where
  issued := List.Subset.trans h.issued h'.issued
  orderly := h'.orderly ∘ h.orderly
  beside id := (h.beside id).trans (h'.beside id)

theorem Good.leaves (h : Good s named φ x) (hleaves : Leaves s x y) : Good s named φ y where
  orderly := hleaves.orderly h.orderly
  fresh id hunnamed hnew :=
    (h.fresh id hunnamed fun hid => hnew (hleaves.issued hid)).beside (hleaves.beside id)
  known id hid := (h.known id hid).imp_right fun hid => hleaves.issued hid
  stands := h.stands.beside fun id _ => hleaves.beside id

theorem Moves.refl (h : Good s named φ x) : Moves s named φ x φ x where
  issued _ hid := hid
  dealt _ := .inl
  others _ _ := .refl
  settled _ hdeals := .inl (hdeals.resolve_right fun hissued => hissued.2.1 hissued.2.2)
  good := h

theorem Moves.leaves (h : Moves s named φ x φ' y) (hleaves : Leaves s y z) :
    Moves s named φ x φ' z where
  issued := List.Subset.trans h.issued hleaves.issued
  dealt id hid := (h.dealt id hid).imp_right fun hissued =>
    ⟨hissued.1, hissued.2.1, hleaves.issued hissued.2.2⟩
  others id hother := (h.others id fun hdeals => hother (hdeals.imp_right fun hissued =>
    ⟨hissued.1, hissued.2.1, hleaves.issued hissued.2.2⟩)).trans (hleaves.beside id)
  settled id hdeals := by
    -- An id that was issued only now belongs to a task that has not been run.
    by_cases hbefore : Deals named φ x y id
    · exact (h.settled id hbefore).imp_right fun hsettled => hsettled.beside (hleaves.beside id)
    · obtain hhand | ⟨hunnamed, hnew, -⟩ := hdeals
      · exact absurd (.inl hhand) hbefore
      · have hfresh := h.good.fresh id hunnamed fun hissued =>
          hbefore (.inr ⟨hunnamed, hnew, hissued⟩)
        exact .inr (hfresh.settled.beside (hleaves.beside id))
  good := h.good.leaves hleaves

/-- The call changes how the task in hand stands, and keeps it in hand or leaves it in order. -/
theorem Moves.own (h : Moves s named φ x φ' y) (hhand : φ'.task? = some id)
    (hothers : ∀ other, other ≠ id → Beside s other y.2 t) (horderly : Orderly s t)
    (hstands : φ''.At s t)
    (hend : φ''.task? = some id ∨ φ''.task? = none ∧ Settled s t id) :
    Moves s named φ x φ'' (y.1, t) where
  issued := h.issued
  dealt other hother := by
    rcases hend with hkept | ⟨hnone, -⟩
    · obtain rfl := Option.some.inj (hkept.symm.trans hother)
      exact h.dealt _ hhand
    · rw [hnone] at hother
      cases hother
  others other hother := by
    refine (h.others other hother).trans (hothers other ?_)
    -- The task in hand was dealt with, for it was in hand before the turn or issued in it.
    rintro rfl
    exact hother (h.dealt _ hhand)
  settled other hdeals := by
    by_cases heq : other = id
    · subst heq
      exact hend.imp_right And.right
    · rcases h.settled other hdeals with hkept | hsettled
      · exact absurd (Option.some.inj (hkept.symm.trans hhand)) heq
      · exact .inr (hsettled.beside (hothers other heq))
  good := by
    refine ⟨horderly, fun other hunnamed hnew => ?_, fun other hother => ?_, hstands⟩
    · refine (h.good.fresh other hunnamed hnew).beside (hothers other ?_)
      rintro rfl
      exact (h.good.known _ hhand).elim hunnamed hnew
    · rcases hend with hkept | ⟨hnone, -⟩
      · obtain rfl := Option.some.inj (hkept.symm.trans hother)
        exact h.good.known _ hhand
      · rw [hnone] at hother
        cases hother

theorem Moves.issue (h : Moves s named φ x (.silent none) y) (hunnamed : ¬ named id)
    (hnew : id ∉ y.1) : Moves s named φ x (.silent (some id)) (id :: y.1, y.2) where
  issued _ hmem := List.mem_cons_of_mem _ (h.issued hmem)
  dealt other hother := by
    obtain rfl : id = other := Option.some.inj hother
    exact .inr ⟨hunnamed, fun hold => hnew (h.issued hold), List.mem_cons_self⟩
  others other hother := h.others other fun hdeals => hother (hdeals.imp_right fun hissued =>
    ⟨hissued.1, hissued.2.1, List.mem_cons_of_mem _ hissued.2.2⟩)
  settled other hdeals := by
    by_cases heq : other = id
    · exact .inl (congrArg some heq.symm)
    · refine Or.imp_left (fun hnone => nomatch hnone) (h.settled other
        (hdeals.imp_right fun hissued => ⟨hissued.1, hissued.2.1, ?_⟩))
      exact (List.mem_cons.mp hissued.2.2).resolve_left heq
  good := by
    refine ⟨h.good.orderly, fun other hother hnot => ?_, fun other hother => ?_, fun _ hid => ?_⟩
    · exact h.good.fresh other hother fun hmem => hnot (List.mem_cons_of_mem _ hmem)
    · obtain rfl : id = other := Option.some.inj hother
      exact .inr List.mem_cons_self
    · obtain rfl : id = _ := Option.some.inj hid
      exact h.good.fresh id hunnamed hnew

theorem Moves.release {taskId : Option String} (h : Moves s named φ x (.silent taskId) y) :
    Moves s named φ x (.silent none) y := by
  cases taskId with
  | none => exact h
  | some id =>
    exact h.own rfl (fun _ _ => .refl) h.good.orderly (fun _ hid => nomatch hid)
      (.inr ⟨rfl, (h.good.stands id rfl).settled⟩)

end

/-! ## Changes -/

section

variable {x y : State} {id taskId : String} {store : Progress.Store} {e : Progress.Event}
  {r r' : TaskRecord}

theorem latest?_of_store (h : x.bus.sink? s.progress = some (.latest store)) :
    s.latest? x id = store.get? id := by
  unfold latest? Progress.Bus.latest?
  rw [h]

theorem Beside.of_record (hhandles : y.board.handles ⊆ x.board.handles) (hbus : y.bus = x.bus)
    (hrecord : y.tasks.get? id = x.tasks.get? id) : Beside s id x y := by
  refine ⟨fun h hmem _ => hhandles hmem, .same hrecord ?_⟩
  unfold latest?
  rw [hbus]

/-- Neither tasks nor pauses nor sinks change. -/
theorem Leaves.of_same {w w' : List String} (hissued : w ⊆ w') (htasks : y.tasks = x.tasks)
    (hboard : y.board.handles ⊆ x.board.handles) (hbus : y.bus = x.bus) :
    Leaves s (w, x) (w', y) where
  issued := hissued
  orderly h := ⟨htasks ▸ h.tasks, hbus ▸ h.store, hbus ▸ h.once⟩
  beside _ := .of_record hboard hbus (by rw [htasks])

theorem Orderly.withTasks {tasks : Table} (h : Orderly s x) (htasks : tasks.Sound) :
    Orderly s { x with tasks } :=
  ⟨htasks, h.store, h.once⟩

theorem Orderly.withBoard (h : Orderly s x) (board : Board) : Orderly s { x with board } :=
  ⟨h.tasks, h.store, h.once⟩

/-! ### Telling -/

theorem Orderly.takes (h : Orderly s x) (htakes : Progress.Takes s.progress [e] x y) :
    Orderly s y where
  tasks := htakes.tasks ▸ h.tasks
  store := by
    obtain ⟨store, hstore, hsound⟩ := h.store
    exact ⟨_, htakes.kept _ hstore trivial, hsound.record e⟩
  once taskId := by
    rw [htakes.audience]
    exact h.once taskId

theorem Orderly.latest?_takes (h : Orderly s x) (htakes : Progress.Takes s.progress [e] x y) :
    s.latest? y e.taskId = some e ∨ e.status.isFinal = true ∧ s.latest? y e.taskId = none := by
  obtain ⟨store, hstore, hsound⟩ := h.store
  rw [latest?_of_store (htakes.kept _ hstore trivial)]
  exact hsound.get?_record_self

theorem Orderly.beside_takes (h : Orderly s x) (htakes : Progress.Takes s.progress [e] x y)
    (hne : id ≠ e.taskId) : Beside s id x y := by
  obtain ⟨store, hstore, hsound⟩ := h.store
  have hafter := htakes.kept _ hstore trivial
  have hrecord : y.tasks.get? id = x.tasks.get? id := by rw [htakes.tasks]
  refine ⟨fun h' hmem _ => htakes.board ▸ hmem, ?_⟩
  rcases hsound.get?_record_of_ne hne with hsame | ⟨e', he', hfinal, hgone⟩
  · refine .same hrecord ?_
    rw [latest?_of_store hafter, latest?_of_store hstore]
    exact hsame
  · refine .evicted e' hrecord ?_ hfinal ?_
    · rw [latest?_of_store hstore]
      exact he'
    · rw [latest?_of_store hafter]
      exact hgone

/-! ### Pausing -/

section

variable {before now : Site} {φ φ' φ'' : Stance} {h : Handle}

/-- The board changes in what regards the task in hand only. -/
theorem Moves.withBoard {board : Board} (hmoves : Moves s named φ before φ' now) {id : String}
    (hhand : φ'.task? = some id) (hhand' : φ''.task? = some id)
    (hothers : ∀ h ∈ board.handles, h.taskId ≠ id → h ∈ now.2.board.handles)
    (hstands : φ''.At s { now.2 with board }) :
    Moves s named φ before φ'' (now.1, { now.2 with board }) := by
  refine hmoves.own hhand (fun other hne => ⟨fun h hmem htask => ?_, .same rfl rfl⟩)
    (hmoves.good.orderly.withBoard board) hstands (.inl hhand')
  exact hothers h hmem (htask ▸ hne)

theorem Moves.pause {page : Option PageRef} {stepIndex totalSteps : Int} {board : Board}
    (hmoves : Moves s named φ before (.going r true) now)
    (hbegin : now.2.board.begin? r.taskId page stepIndex totalSteps = some (h, board)) :
    Moves s named φ before (.paused r h) (now.1, { now.2 with board }) := by
  obtain ⟨-, htask, -, hhandles, -⟩ := Board.begin?_eq_some hbegin
  obtain ⟨hrunning, hunpaused, htold⟩ := hmoves.good.stands
  refine hmoves.withBoard rfl rfl (fun h' hmem hne => ?_)
    ⟨hrunning, fun h' hmem htask' => ?_, htold⟩
  · rw [hhandles] at hmem
    refine (List.mem_append.mp hmem).resolve_right fun hnew => hne ?_
    rw [List.mem_singleton.mp hnew, htask]
  · rw [hhandles] at hmem
    rcases List.mem_append.mp hmem with hold | hnew
    · exact absurd htask' (hunpaused h' hold)
    · exact List.mem_singleton.mp hnew

/-- A pause that has ended is taken off the board, if it is still there. -/
theorem Moves.unpause (hmoves : Moves s named φ before (.paused r h) now) :
    Moves s named φ before (.going r true)
      (now.1, { now.2 with board := now.2.board.remove h }) := by
  obtain ⟨hrunning, honly, htold⟩ := hmoves.good.stands
  refine hmoves.withBoard rfl rfl (fun h' hmem _ => (Board.mem_remove.mp hmem).1)
    ⟨hrunning, fun h' hmem htask => ?_, htold⟩
  obtain ⟨hold, hne⟩ := Board.mem_remove.mp hmem
  exact hne (by rw [honly h' hold htask])

end

/-! ### Records -/

theorem Orderly.beside_change {f : TaskRecord → TaskRecord} {n : Nat} (h : Orderly s x)
    (hf : ∀ r, (f r).taskId = r.taskId) (hr : x.tasks.get? taskId = some r)
    (hserial : r.serial = n) (hne : id ≠ taskId) :
    Beside s id x { x with tasks := x.tasks.change n f } :=
  .of_record (fun _ => (·)) rfl (h.tasks.get?_change_of_ne hf hr hserial hne)

theorem Beside.of_put {tasks : Table} (henters : x.tasks.Enters r tasks) (hne : id ≠ r.taskId) :
    Beside s id x { x with tasks } :=
  .of_record (fun _ => (·)) rfl (henters.get?.trans (if_neg hne))

theorem taskId_finish (result : Option Execution) (r : TaskRecord) :
    (r.finish result).taskId = r.taskId := by
  cases result <;> rfl

section

variable {before now : Site} {φ : Stance}

theorem Moves.enter {w : List String} {t : State} {tasks : Table}
    (hmoves : Moves s named φ before (.silent (some r.taskId)) (w, t))
    (henters : t.tasks.Enters r tasks) :
    Moves s named φ before (.silent (some r.taskId)) (w, { t with tasks }) ∧
      tasks.get? r.taskId = some r := by
  have hrecord : tasks.get? r.taskId = some r := henters.get?.trans (if_pos rfl)
  have horderly := hmoves.good.orderly
  have huntouched := hmoves.good.stands r.taskId rfl
  refine ⟨hmoves.own rfl (fun other hne => .of_put henters hne)
    (horderly.withTasks (horderly.tasks.enters henters)) (fun id hid => ?_) (.inl rfl), hrecord⟩
  obtain rfl := Option.some.inj hid
  refine ⟨huntouched.unpaused, fun r' hr' => ?_, huntouched.silent⟩
  obtain rfl := Option.some.inj (hrecord.symm.trans hr')
  rw [henters.unfinished.1]
  rfl

theorem Moves.begin (hmoves : Moves s named φ before (.silent (some r.taskId)) now)
    (hr : now.2.tasks.get? r.taskId = some r) : Moves s named φ before (.going r false)
      (now.1, { now.2 with tasks := now.2.tasks.begin r.serial }) := by
  have horderly := hmoves.good.orderly
  have huntouched := hmoves.good.stands r.taskId rfl
  refine hmoves.own rfl (fun other hne => horderly.beside_change (fun _ => rfl) hr rfl hne)
    (horderly.withTasks (horderly.tasks.begin _)) ⟨?_, huntouched.unpaused, huntouched.silent⟩
    (.inl rfl)
  exact ⟨_, Table.get?_change_self (fun _ => rfl) hr rfl, rfl, rfl⟩

/-- How an execution ended is entered into the record of its task. -/
theorem Moves.finish {φ' φ'' : Stance} {result : Option Execution}
    (hmoves : Moves s named φ before φ' now) (hhand : φ'.task? = some r.taskId)
    (hrunning : Running now.2 r)
    (hstands : ∀ r' : TaskRecord, ∀ t : State, t.board = now.2.board →
      (∀ id, s.latest? t id = s.latest? now.2 id) →
      t.tasks.get? r.taskId = some (r'.finish result) →
      φ''.At s t ∧ (φ''.task? = some r.taskId ∨ φ''.task? = none ∧ Settled s t r.taskId)) :
    Moves s named φ before φ''
      (now.1, { now.2 with tasks := now.2.tasks.finish r.serial result }) := by
  have horderly := hmoves.good.orderly
  obtain ⟨r', hr', hserial, -⟩ := hrunning
  obtain ⟨hat, hend⟩ := hstands r' { now.2 with tasks := now.2.tasks.finish r.serial result } rfl
    (fun _ => rfl) (Table.get?_change_self (taskId_finish result) hr' hserial)
  exact hmoves.own hhand
    (fun other hne => horderly.beside_change (taskId_finish result) hr' hserial hne)
    (horderly.withTasks (horderly.tasks.finish _ _)) hat hend

/-- An execution that has told how it ended leaves its task in order. -/
theorem Moves.finish_closing {e : Execution}
    (hmoves : Moves s named φ before
      (.closing r (if e.completed then .completed else .failed)) now) :
    Moves s named φ before (.silent none)
      (now.1, { now.2 with tasks := now.2.tasks.finish r.serial (some e) }) := by
  obtain ⟨hrunning, hunpaused, hlast⟩ := hmoves.good.stands
  refine hmoves.finish rfl hrunning fun r' t hboard hlatest hrecord =>
    ⟨fun _ hid => (nomatch hid), .inr ⟨rfl, fun h hmem => hunpaused h (hboard ▸ hmem), ?_⟩⟩
  intro r'' event hr'' _ hevent
  obtain rfl := Option.some.inj (hrecord.symm.trans hr'')
  rw [hlast event ((hlatest _).symm.trans hevent)]
  unfold TaskRecord.finish
  dsimp only
  split <;> rfl

/-- So does one that fails before anything was told of it. -/
theorem Moves.finish_untold (hmoves : Moves s named φ before (.going r false) now) :
    Moves s named φ before (.silent none)
      (now.1, { now.2 with tasks := now.2.tasks.finish r.serial none }) := by
  obtain ⟨hrunning, hunpaused, hsilent⟩ := hmoves.good.stands
  refine hmoves.finish rfl hrunning fun r' t hboard hlatest hrecord =>
    ⟨fun _ hid => (nomatch hid), .inr ⟨rfl, fun h hmem => hunpaused h (hboard ▸ hmem), ?_⟩⟩
  intro r'' event _ _ hevent
  rw [hlatest, hsilent] at hevent
  cases hevent

/-- One that was told of and fails does not. -/
theorem Moves.finish_told (hmoves : Moves s named φ before (.going r true) now) :
    Moves s named φ before (.broken r)
      (now.1, { now.2 with tasks := now.2.tasks.finish r.serial none }) := by
  obtain ⟨hrunning, hunpaused, htold⟩ := hmoves.good.stands
  refine hmoves.finish rfl hrunning fun r' t hboard hlatest hrecord =>
    ⟨⟨fun h hmem => hunpaused h (hboard ▸ hmem), fun r'' hr'' => ?_⟩, .inl rfl⟩
  obtain rfl := Option.some.inj (hrecord.symm.trans hr'')
  obtain ⟨event, hevent, hopen⟩ := htold
  exact ⟨rfl, event, (hlatest _).trans hevent, hopen⟩

end

/-- Dropping what has ended happens beside all tasks. -/
theorem Orderly.leaves_discard {w : List String} (h : Orderly s x) (limit : Nat) (keep : String) :
    Leaves s (w, x) (w, s.discard (x.tasks.surplus limit keep) x) := by
  obtain ⟨store, hstore, hsound⟩ := h.store
  have hafter : (s.discard (x.tasks.surplus limit keep) x).bus.sink? s.progress =
      some (.latest ((x.tasks.surplus limit keep).foldl Progress.Store.forget store)) := by
    unfold discard
    rw [Progress.Bus.sink?_modifySink, if_pos rfl, hstore]
    rfl
  refine ⟨fun _ => (·), fun _ => ⟨h.tasks.drop _, ⟨_, hafter, hsound.foldl_forget _⟩, h.once⟩,
    fun id => ⟨fun _ hmem _ => hmem, ?_⟩⟩
  have hrecord : (s.discard (x.tasks.surplus limit keep) x).tasks.get? id =
      if id ∈ x.tasks.surplus limit keep then none else x.tasks.get? id := Table.get?_drop
  have hevent : s.latest? (s.discard (x.tasks.surplus limit keep) x) id =
      if id ∈ x.tasks.surplus limit keep then none else s.latest? x id := by
    rw [latest?_of_store hafter, latest?_of_store hstore]
    exact Progress.Store.get?_foldl_forget _
  by_cases hid : id ∈ x.tasks.surplus limit keep
  · obtain ⟨r, hr, hfinal⟩ := h.tasks.get?_of_surplus hid
    rw [if_pos hid] at hrecord hevent
    exact .dropped r hr hfinal hrecord hevent
  · rw [if_neg hid] at hrecord hevent
    exact .same hrecord hevent

end
end Pageflow.Service
