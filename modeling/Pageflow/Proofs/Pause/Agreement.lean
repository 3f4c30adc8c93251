import Pageflow.Proofs.Pause.Consistent

/-! Pauses and requests to resume agree, in whatever order the turns of all
requests come. What is said of a run is read off the turns taken: when a pause
began, and for which pause a request was accepted. -/
namespace Pageflow.Pause
open Browser

abbrev History : Type := List (Move State Unit)

/-- In one of its turns request `i` began the pause with signal `n`. -/
def Began (history : History) (i n : Nat) : Prop :=
  ∃ m ∈ history, m.who = i ∧ n = m.before.2.board.signals.length ∧
    m.after.2.board.signals.length = n + 1

/-- In one of its turns request `j` gave signal `n`. -/
def Accepted (history : History) (j n : Nat) : Prop :=
  ∃ m ∈ history, m.who = j ∧ m.before.2.board.signal n = .waiting ∧
    m.after.2.board.signal n = .given

def Phase.looked? : Phase → Option Handle
  | .checking h | .accepted h => some h
  | _ => none

def Phase.Harmless : Phase → Prop
  | .fresh | .checking _ | .refused => True
  | _ => False

section

variable {r : Request} {φ φ' : Phase} {b b' : Board} {h : Handle} {taskId : String} {n : Nat}

theorem Turns.ne_fresh (hturns : Turns r φ b φ' b') : φ' ≠ .fresh := by
  cases hturns <;> exact nofun

theorem Turns.board_eq_of_harmless (hturns : Turns r φ b φ' b') (hharmless : φ'.Harmless) :
    φ.Harmless ∧ b' = b := by
  cases hturns with
  | check | checkOn | turnAway | refuse => exact ⟨trivial, rfl⟩
  | _ => exact hharmless.elim

theorem Turns.looked (hturns : Turns r φ b φ' b') (hlooked : φ'.looked? = some h) :
    φ = .fresh ∧ b.handle? r.taskId = some h ∨ φ.looked? = some h := by
  cases hturns with
  | check hcheck | acceptUnasked hcheck =>
    cases hlooked
    exact .inl ⟨rfl, (Board.resumable?_eq_some_iff.mp hcheck).1⟩
  | checkOn | accept | tell => exact .inr hlooked
  | _ => cases hlooked

/-- A turn begins a pause or leaves the pause of its request and the number of
signals as they are. -/
theorem Turns.begins (hturns : Turns r φ b φ' b') :
    b'.signals.length = b.signals.length ∧ φ'.pause? = φ.pause? ∨
      φ.pause? = none ∧ ∃ h, φ'.pause? = some h ∧ h.signal = b.signals.length ∧
        b'.signals.length = b.signals.length + 1 := by
  cases hturns with
  | begin hbegin =>
    obtain ⟨-, -, hsignal, -, hsignals⟩ := Board.begin?_eq_some hbegin
    exact .inr ⟨rfl, _, rfl, hsignal, by simp [hsignals]⟩
  | withdraw => exact .inl ⟨Board.length_signals_settle _, rfl⟩
  | acceptUnasked _ haccept | accept haccept =>
    obtain ⟨-, -, rfl⟩ := Board.accept?_eq_some haccept
    exact .inl ⟨Board.length_signals_settle _, rfl⟩
  | cancel hcancel =>
    rcases Board.cancel_eq hcancel with rfl | ⟨h, -, -, rfl⟩
    · exact .inl ⟨rfl, rfl⟩
    · exact .inl ⟨Board.length_signals_settle _, rfl⟩
  | _ => exact .inl ⟨rfl, rfl⟩

/-- A turn gives one signal, that of the pause it accepts, or none. -/
theorem Turns.gives (hturns : Turns r φ b φ' b') :
    φ'.accept? = φ.accept? ∧ (∀ n, b.signal n = .waiting → b'.signal n ≠ .given) ∨
      φ.accept? = none ∧ ∃ h, φ'.accept? = some h ∧
        ∀ n, b.signal n = .waiting ∧ b'.signal n = .given ↔ n = h.signal := by
  have hsame : ∀ n, b.signal n = .waiting → b.signal n ≠ .given := fun n hn => by simp [hn]
  have hwithdrawn : ∀ (h : Handle) (n : Nat), b.signal n = .waiting →
      (b.settle h.signal .withdrawn).signal n ≠ .given := by
    intro h n hn
    rw [Board.signal_settle]
    split
    · exact nofun
    · exact hsame n hn
  have hgiven : ∀ h : Handle, b.signal h.signal = .waiting → ∀ n, b.signal n = .waiting ∧
      (b.settle h.signal .given).signal n = .given ↔ n = h.signal := by
    intro h hwaiting n
    rw [Board.signal_settle]
    constructor
    · rintro ⟨hn, hgives⟩
      by_contra hne
      rw [if_neg fun heq => hne heq.1] at hgives
      exact hsame n hn hgives
    · rintro rfl
      exact ⟨hwaiting, if_pos ⟨rfl, hwaiting⟩⟩
  cases hturns with
  | begin hbegin =>
    obtain ⟨-, -, -, -, hsignals⟩ := Board.begin?_eq_some hbegin
    refine .inl ⟨rfl, fun n hn => ?_⟩
    rw [Board.signal_append hsignals]
    split
    · exact nofun
    · exact hsame n hn
  | withdraw => exact .inl ⟨rfl, hwithdrawn _⟩
  | acceptUnasked _ haccept | accept haccept =>
    obtain ⟨-, hwaiting, rfl⟩ := Board.accept?_eq_some haccept
    exact .inr ⟨rfl, _, rfl, hgiven _ hwaiting⟩
  | cancel hcancel =>
    rcases Board.cancel_eq hcancel with rfl | ⟨h, -, -, rfl⟩
    · exact .inl ⟨rfl, hsame⟩
    · exact .inl ⟨rfl, hwithdrawn h⟩
  | _ => exact .inl ⟨rfl, hsame⟩

end

section

variable {call : Nat → Request} {b b' : Board} {phase : Nat → Phase} {who : Nat} {φ : Phase}
  {h : Handle} {taskId : String}

theorem Request.Owns.taskId_eq {r : Request} (howns : r.Owns h) : h.taskId = r.taskId := by
  obtain ⟨page, stepIndex, totalSteps, rfl⟩ := howns
  rfl

theorem Consistent.handle?_remove (hc : Consistent call b phase) (who : Nat)
    (hown : (phase who).pause? = some h ∨ h ∈ b.handles) (htask : taskId ≠ h.taskId) :
    (b.remove h).handle? taskId = b.handle? taskId := by
  refine Board.handle?_eq_of_mem_iff hc.sound (hc.sound.remove h) fun h' htask' => ?_
  rw [Board.mem_remove]
  refine ⟨fun hmem => hmem.1, fun hmem => ⟨hmem, fun heq => htask ?_⟩⟩
  rcases hown with hown | hown
  · obtain ⟨i, hi⟩ := hc.owned h' hmem
    have hpause : (phase i).pause? = some h' := by
      rcases hi with hi | hi
      · rw [hi]
        rfl
      · rw [hi]
        rfl
    obtain rfl := hc.distinct i who h' h hpause hown heq
    rw [hpause] at hown
    cases hown
    exact htask'.symm
  · rw [← hc.sound.eq_of_signal hmem hown heq]
    exact htask'.symm

theorem Consistent.handle?_turn (hc : Consistent call b phase)
    (hturns : Turns (call who) (phase who) b φ b') (htask : taskId ≠ (call who).taskId) :
    b'.handle? taskId = b.handle? taskId := by
  have hfits := hc.fits who
  have hremove : ∀ h, (phase who).pause? = some h →
      (b.remove h).handle? taskId = b.handle? taskId :=
    fun h hpause => hc.handle?_remove who (.inl hpause)
      (((hfits.pause hpause).1.taskId_eq).symm ▸ htask)
  have hfinish : ∀ h ∈ b.handles, h.taskId = (call who).taskId → ∀ s,
      ((b.settle h.signal s).remove h).handle? taskId = b.handle? taskId := by
    intro h hmem htask' s
    exact hc.handle?_remove who (.inr hmem) (htask'.symm ▸ htask)
  generalize hr : call who = r at hturns hfits htask hfinish
  generalize hphase : phase who = ψ at hturns hfits hremove
  cases hturns with
  | begin hbegin =>
    obtain ⟨-, htask', -, hhandles, -⟩ := Board.begin?_eq_some hbegin
    refine Board.handle?_eq_of_mem_iff hc.sound (hc.sound.begin? hbegin) fun h' heq => ?_
    rw [hhandles, List.mem_append, List.mem_singleton, or_iff_left]
    rintro rfl
    exact htask (heq.symm.trans htask')
  | wake | giveUp | leave => exact hremove _ rfl
  | acceptUnasked hcheck haccept =>
    obtain ⟨hfound, -⟩ := Board.resumable?_eq_some_iff.mp hcheck
    obtain ⟨hmem, -, rfl⟩ := Board.accept?_eq_some haccept
    exact hfinish _ hmem (Board.mem_of_handle? hfound).2 _
  | accept haccept =>
    obtain ⟨hmem, -, rfl⟩ := Board.accept?_eq_some haccept
    exact hfinish _ hmem (by rw [show r = .resume _ from hfits]; rfl) _
  | cancel hcancel =>
    rcases Board.cancel_eq hcancel with rfl | ⟨h, hmem, htask', rfl⟩
    · rfl
    · exact hfinish h hmem htask' _
  | withdraw | wait | check | checkOn | tell | turnAway | refuse => rfl

theorem Consistent.signal_turn (hc : Consistent call b phase)
    (hturns : Turns (call who) (phase who) b φ b') {n : Nat} (hchanged : b'.signal n ≠ b.signal n) :
    ∃ i h, (Function.update phase who φ i).pause? = some h ∧ h.signal = n ∧
      h.taskId = (call who).taskId := by
  have hfits := hc.fits who
  have hlater : ∀ h ∈ b.handles, (phase who).pause? = none → φ.pause? = none →
      ∃ i, (Function.update phase who φ i).pause? = some h := by
    intro h hmem hpause hpause'
    obtain ⟨i, hi⟩ := hc.owned h hmem
    refine ⟨i, (pause?_update (hpause'.trans hpause.symm) i).trans ?_⟩
    rcases hi with hi | hi
    · rw [hi]
      rfl
    · rw [hi]
      rfl
  have hsettles : ∀ (h : Handle) (s : Signal), (b.settle h.signal s).signal n ≠ b.signal n →
      h.signal = n := by
    intro h s hne
    by_contra heq
    exact hne (Board.signal_settle_of_ne (Ne.symm heq) s)
  generalize hr : call who = r at hturns hfits
  generalize hphase : phase who = ψ at hturns hfits hlater
  cases hturns with
  | begin hbegin =>
    obtain ⟨-, htask, hsignal, -, hsignals⟩ := Board.begin?_eq_some hbegin
    refine ⟨who, _, by rw [Function.update_self]; rfl, ?_, htask⟩
    rw [Board.signal_append hsignals] at hchanged
    by_contra hne
    exact hchanged (if_neg fun heq => hne (hsignal.trans heq.symm))
  | withdraw =>
    exact ⟨who, _, by rw [Function.update_self]; rfl, hsettles _ _ hchanged, hfits.1.taskId_eq⟩
  | acceptUnasked hcheck haccept =>
    obtain ⟨hfound, -⟩ := Board.resumable?_eq_some_iff.mp hcheck
    obtain ⟨hmem, -, rfl⟩ := Board.accept?_eq_some haccept
    obtain ⟨i, hi⟩ := hlater _ hmem rfl rfl
    exact ⟨i, _, hi, hsettles _ _ hchanged, (Board.mem_of_handle? hfound).2⟩
  | accept haccept =>
    obtain ⟨hmem, -, rfl⟩ := Board.accept?_eq_some haccept
    obtain ⟨i, hi⟩ := hlater _ hmem rfl rfl
    exact ⟨i, _, hi, hsettles _ _ hchanged, by rw [show r = .resume _ from hfits]; rfl⟩
  | cancel hcancel =>
    rcases Board.cancel_eq hcancel with rfl | ⟨h, hmem, htask, rfl⟩
    · exact absurd rfl hchanged
    · obtain ⟨i, hi⟩ := hlater h hmem rfl rfl
      exact ⟨i, h, hi, hsettles h _ hchanged, htask⟩
  | wake | giveUp | leave | wait | check | checkOn | tell | turnAway | refuse =>
    exact absurd rfl hchanged

end

/-- What the turns taken so far say about the phases reached. -/
structure Recorded (call : Nat → Request) (history : History) (phase : Nat → Phase) : Prop where
  began : ∀ i n, Began history i n ↔ ∃ h, (phase i).pause? = some h ∧ h.signal = n
  accepted : ∀ j n, Accepted history j n ↔ ∃ h, (phase j).accept? = some h ∧ h.signal = n
  absent : ∀ i, phase i = .fresh → ∀ m ∈ history, m.who ≠ i
  harmless : ∀ i, (phase i).Harmless → ∀ m ∈ history, m.who = i →
    m.after.2.board = m.before.2.board
  looked : ∀ j h, (phase j).looked? = some h → ∃ first,
    history.find? (·.who = j) = some first ∧
      first.before.2.board.handle? (call j).taskId = some h
  handles : ∀ m ∈ history, ∀ taskId, taskId ≠ (call m.who).taskId →
    m.after.2.board.handle? taskId = m.before.2.board.handle? taskId
  signals : ∀ m ∈ history, ∀ n, m.after.2.board.signal n ≠ m.before.2.board.signal n →
    ∃ i h, (phase i).pause? = some h ∧ h.signal = n ∧ h.taskId = (call m.who).taskId

section

variable {call : Nat → Request} {history : History} {phase : Nat → Phase} {x y : Unit × State}
  {who : Nat} {φ : Phase}

theorem began_append {i n : Nat} : Began (history ++ [⟨who, x, y⟩]) i n ↔ Began history i n ∨
    who = i ∧ n = x.2.board.signals.length ∧ y.2.board.signals.length = n + 1 := by
  unfold Began
  simp only [List.mem_append, List.mem_singleton, or_and_right, exists_or, exists_eq_left]

theorem accepted_append {j n : Nat} : Accepted (history ++ [⟨who, x, y⟩]) j n ↔
    Accepted history j n ∨
      who = j ∧ x.2.board.signal n = .waiting ∧ y.2.board.signal n = .given := by
  unfold Accepted
  simp only [List.mem_append, List.mem_singleton, or_and_right, exists_or, exists_eq_left]

theorem Turns.pause?_update {b b' : Board}
    (hturns : Turns (call who) (phase who) b φ b') {i : Nat} {h : Handle}
    (hpause : (phase i).pause? = some h) : (Function.update phase who φ i).pause? = some h := by
  by_cases hi : i = who
  · subst hi
    rw [Function.update_self]
    rcases hturns.begins with ⟨-, hsame⟩ | ⟨hnone, -⟩
    · rw [hsame, hpause]
    · rw [hnone] at hpause
      cases hpause
  · rw [Function.update_of_ne hi, hpause]

/-- What a turn adds to a record of handles is what it adds to the phase, if that had none
before. -/
theorem recorded_update {f : Phase → Option Handle} {past : Nat → Nat → Prop} {N : Nat → Prop}
    (hpast : ∀ i n, past i n ↔ ∃ h, f (phase i) = some h ∧ h.signal = n)
    (hnow : f φ = f (phase who) ∧ (∀ n, ¬ N n) ∨
      f (phase who) = none ∧ ∃ h, f φ = some h ∧ ∀ n, N n ↔ n = h.signal) (i n : Nat) :
    past i n ∨ who = i ∧ N n ↔
      ∃ h, f (Function.update phase who φ i) = some h ∧ h.signal = n := by
  rw [hpast]
  by_cases hi : i = who
  · subst hi
    rw [Function.update_self]
    rcases hnow with ⟨hsame, hnot⟩ | ⟨hnone, h, hsome, hadds⟩
    · rw [hsame, or_iff_left fun hnew => hnot n hnew.2]
    · rw [hnone, hsome, hadds n]
      constructor
      · rintro (⟨_, hfalse, -⟩ | ⟨-, rfl⟩)
        · cases hfalse
        · exact ⟨h, rfl, rfl⟩
      · rintro ⟨_, hh, rfl⟩
        cases hh
        exact .inr ⟨rfl, rfl⟩
  · rw [Function.update_of_ne hi, or_iff_left fun hnew => hi hnew.1.symm]

theorem Recorded.began_turn (hrecorded : Recorded call history phase)
    (hturns : Turns (call who) (phase who) x.2.board φ y.2.board) (i n : Nat) :
    Began (history ++ [⟨who, x, y⟩]) i n ↔
      ∃ h, (Function.update phase who φ i).pause? = some h ∧ h.signal = n := by
  rw [began_append]
  refine recorded_update hrecorded.began
    (N := fun n => n = x.2.board.signals.length ∧ y.2.board.signals.length = n + 1) ?_ i n
  rcases hturns.begins with ⟨hlength, hsame⟩ | ⟨hnone, h, hsome, hsignal, hlength⟩
  · refine .inl ⟨hsame, ?_⟩
    rintro n ⟨rfl, hmore⟩
    omega
  · refine .inr ⟨hnone, h, hsome, fun n => ?_⟩
    omega

theorem Recorded.accepted_turn (hrecorded : Recorded call history phase)
    (hturns : Turns (call who) (phase who) x.2.board φ y.2.board) (j n : Nat) :
    Accepted (history ++ [⟨who, x, y⟩]) j n ↔
      ∃ h, (Function.update phase who φ j).accept? = some h ∧ h.signal = n := by
  rw [accepted_append]
  refine recorded_update hrecorded.accepted
    (N := fun n => x.2.board.signal n = .waiting ∧ y.2.board.signal n = .given) ?_ j n
  rcases hturns.gives with ⟨hsame, hnot⟩ | ⟨hnone, h, hsome, hgives⟩
  · exact .inl ⟨hsame, fun n hnow => hnot n hnow.1 hnow.2⟩
  · exact .inr ⟨hnone, h, hsome, hgives⟩

theorem Recorded.looked_turn (hrecorded : Recorded call history phase)
    (hturns : Turns (call who) (phase who) x.2.board φ y.2.board) (j : Nat) (h : Handle)
    (hlooked : (Function.update phase who φ j).looked? = some h) :
    ∃ first : Move State Unit, List.find? (·.who = j) (history ++ [⟨who, x, y⟩]) = some first ∧
      first.before.2.board.handle? (call j).taskId = some h := by
  have hbefore : (phase j).looked? = some h → ∃ first : Move State Unit,
      List.find? (·.who = j) (history ++ [⟨who, x, y⟩]) = some first ∧
        first.before.2.board.handle? (call j).taskId = some h := by
    intro hbefore
    obtain ⟨first, hfirst, hfound⟩ := hrecorded.looked j h hbefore
    refine ⟨first, ?_, hfound⟩
    rw [List.find?_append, hfirst]
    rfl
  by_cases hj : j = who
  · subst hj
    rw [Function.update_self] at hlooked
    rcases hturns.looked hlooked with ⟨hfresh, hfound⟩ | hlooked'
    · have hnone : history.find? (·.who = j) = none := by
        rw [List.find?_eq_none]
        intro m hm
        simpa using hrecorded.absent j hfresh m hm
      rw [List.find?_append, hnone]
      exact ⟨⟨j, x, y⟩, by simp, hfound⟩
    · exact hbefore hlooked'
  · rw [Function.update_of_ne hj] at hlooked
    exact hbefore hlooked

theorem Recorded.turn (hrecorded : Recorded call history phase)
    (hc : Consistent call x.2.board phase)
    (hturns : Turns (call who) (phase who) x.2.board φ y.2.board) :
    Recorded call (history ++ [⟨who, x, y⟩]) (Function.update phase who φ) where
  began := hrecorded.began_turn hturns
  accepted := hrecorded.accepted_turn hturns
  absent i hfresh := by
    rw [List.forall_mem_append, List.forall_mem_singleton]
    by_cases hi : i = who
    · subst hi
      rw [Function.update_self] at hfresh
      exact absurd hfresh hturns.ne_fresh
    · rw [Function.update_of_ne hi] at hfresh
      exact ⟨hrecorded.absent i hfresh, Ne.symm hi⟩
  harmless i hharmless := by
    rw [List.forall_mem_append, List.forall_mem_singleton]
    by_cases hi : i = who
    · subst hi
      rw [Function.update_self] at hharmless
      obtain ⟨hbefore, hboard⟩ := hturns.board_eq_of_harmless hharmless
      exact ⟨hrecorded.harmless i hbefore, fun _ => hboard⟩
    · rw [Function.update_of_ne hi] at hharmless
      exact ⟨hrecorded.harmless i hharmless, fun hwho => absurd hwho.symm hi⟩
  looked := hrecorded.looked_turn hturns
  handles := by
    rw [List.forall_mem_append, List.forall_mem_singleton]
    exact ⟨hrecorded.handles, fun taskId htask => hc.handle?_turn hturns htask⟩
  signals := by
    rw [List.forall_mem_append, List.forall_mem_singleton]
    refine ⟨fun m hm n hchanged => ?_, fun n hchanged => hc.signal_turn hturns hchanged⟩
    obtain ⟨i, h, hpause, hsignal, htask⟩ := hrecorded.signals m hm n hchanged
    exact ⟨i, h, hturns.pause?_update hpause, hsignal, htask⟩

/-- Whatever the order of the turns, the board, the phases and the turns taken
belong together. -/
theorem plays_consistent {e : Unit × State} (hempty : x.2.board = .empty)
    (hplays : Plays climate (fun i => (call i).contract) x history e phase) :
    Consistent call e.2.board phase ∧ Recorded call history phase := by
  induction hplays with
  | start =>
    rw [hempty]
    refine ⟨consistent_start call, ?_⟩
    constructor
    · intro i n
      exact ⟨nofun, nofun⟩
    · intro j n
      exact ⟨nofun, nofun⟩
    all_goals exact nofun
  | turn who _ hturns ih => exact ⟨ih.1.turn hturns, ih.2.turn ih.1 hturns⟩
  | happen _ hhappens ih =>
    rw [show _ = _ from hhappens]
    exact ih

/-- The pauses and the requests to resume of a run agree. -/
structure Agreement (call : Nat → Request) (history : History)
    (stage : Nat → Stage State Ask Ask.Reply Answer) : Prop where
  /-- A request begins one pause, and a pause has one request. -/
  instances : ∀ i j n n', Began history i n → Began history j n' → (n = n' ↔ i = j)
  /-- What began a pause is a request to pause; one that returned began one. -/
  begins : ∀ i, (∀ n, Began history i n → ∃ taskId page stepIndex totalSteps,
      call i = .pause taskId page stepIndex totalSteps) ∧
    (stage i = .ended (.ok .paused) → ∃ n, Began history i n)
  /-- A pause returns normally exactly if one request to resume was accepted for
  it, and only one. -/
  returns : ∀ i n result, Began history i n → stage i = .ended result →
    (result = .ok .paused ↔ ∃! j, Accepted history j n)
  /-- For a pause that timed out or was cancelled none was accepted. -/
  fails : ∀ i n fault, Began history i n → stage i = .ended (.error fault) →
    ∀ j, ¬ Accepted history j n
  /-- What is accepted for a pause is a request to resume its task, which found
  this very pause when it began. -/
  accepts : ∀ j n, Accepted history j n → ∃ i, Began history i n ∧
    call j = .resume (call i).taskId ∧ ∃ first h, history.find? (·.who = j) = some first ∧
      first.before.2.board.handle? (call i).taskId = some h ∧ h.signal = n
  /-- A request to resume is answered with success exactly if it was accepted. -/
  answers : ∀ j result, stage j = .ended result →
    (result = .ok (.resumed none) ↔ ∃ n, Accepted history j n)
  /-- A refused request to resume has changed nothing on the board. -/
  refuses : ∀ j refusal, stage j = .ended (.ok (.resumed (some refusal))) →
    ∀ m ∈ history, m.who = j → m.after.2.board = m.before.2.board
  /-- A turn of a request on one task changes neither the handle of another task
  nor the signal of a pause of one. -/
  apart : ∀ m ∈ history, (∀ taskId, taskId ≠ (call m.who).taskId →
      m.after.2.board.handle? taskId = m.before.2.board.handle? taskId) ∧
    ∀ i n, Began history i n → (call i).taskId ≠ (call m.who).taskId →
      m.after.2.board.signal n = m.before.2.board.signal n

theorem Phase.eq_of_accept? {φ : Phase} {h : Handle} (haccept : φ.accept? = some h) :
    φ = .accepted h := by
  cases φ with
  | accepted =>
    cases haccept
    rfl
  | _ => cases haccept

/-- A pause that has ended has left, with its signal given or withdrawn. -/
theorem Phase.Ends.left {φ : Phase} {h : Handle} {result : Result Answer}
    (hends : φ.Ends result) (hpause : φ.pause? = some h) :
    φ = .left h true ∧ result = .ok .paused ∨
      φ = .left h false ∧ ∃ fault, result = .error fault := by
  cases φ with
  | left _ resumed =>
    cases hpause
    cases resumed with
    | true => exact .inl ⟨rfl, hends⟩
    | false => exact .inr ⟨rfl, hends⟩
  | on | leaving => exact hends.elim
  | _ => cases hpause

theorem Phase.Ends.accepted_iff {φ : Phase} {result : Result Answer} (hends : φ.Ends result) :
    result = .ok (.resumed none) ↔ ∃ h, φ.accept? = some h := by
  cases φ with
  | accepted h => exact ⟨fun _ => ⟨h, rfl⟩, fun _ => hends⟩
  | left h resumed =>
    cases resumed with
    | true =>
      rw [show result = .ok .paused from hends]
      exact ⟨nofun, nofun⟩
    | false =>
      obtain ⟨fault, rfl⟩ := hends
      exact ⟨nofun, nofun⟩
  | refused => exact ⟨fun hresumed => absurd hresumed hends.2, nofun⟩
  | cancelled =>
    obtain ⟨was, rfl⟩ := hends
    exact ⟨nofun, nofun⟩
  | _ => exact hends.elim

theorem Phase.Ends.harmless {φ : Phase} {refusal : Refusal}
    (hends : φ.Ends (.ok (.resumed (some refusal)))) : φ.Harmless := by
  cases φ with
  | refused => trivial
  | left h resumed =>
    cases resumed with
    | true => cases hends
    | false => exact nomatch hends
  | accepted => cases hends
  | cancelled => exact nomatch hends
  | _ => exact hends.elim

/-- The signal of an ended pause tells whether a request was accepted for it. -/
theorem Consistent.ended {b : Board} (hc : Consistent call b phase)
    (hrecorded : Recorded call history phase) {i n : Nat} {result : Result Answer}
    (hbegan : Began history i n) (hends : (phase i).Ends result) :
    (result = .ok .paused ∧ ∃ j, Accepted history j n) ∨
      ((∃ fault, result = .error fault) ∧ ∀ j, ¬ Accepted history j n) := by
  obtain ⟨h, hpause, rfl⟩ := (hrecorded.began i n).mp hbegan
  have hfits := hc.fits i
  rcases hends.left hpause with ⟨hleft, hresult⟩ | ⟨hleft, hresult⟩
  · rw [hleft] at hfits
    obtain ⟨j, h', haccept, hsignal⟩ := hc.given h.signal hfits.2.2
    exact .inl ⟨hresult, j, (hrecorded.accepted j h.signal).mpr ⟨h', haccept, hsignal⟩⟩
  · rw [hleft] at hfits
    refine .inr ⟨hresult, fun j haccepted => ?_⟩
    obtain ⟨h', haccept, hsignal⟩ := (hrecorded.accepted j h.signal).mp haccepted
    have hgiven := hc.fits j
    rw [Phase.eq_of_accept? haccept] at hgiven
    have hwithdrawn := hfits.2.2
    rw [← hsignal, hgiven.2] at hwithdrawn
    cases hwithdrawn

theorem Consistent.agreement {b : Board} {stage : Nat → Stage State Ask Ask.Reply Answer}
    (hc : Consistent call b phase) (hrecorded : Recorded call history phase)
    (hends : ∀ i result, stage i = .ended result → (phase i).Ends result) :
    Agreement call history stage where
  instances i j n n' hi hj := by
    obtain ⟨h, hpause, rfl⟩ := (hrecorded.began i n).mp hi
    obtain ⟨h', hpause', rfl⟩ := (hrecorded.began j n').mp hj
    constructor
    · intro heq
      exact hc.distinct i j h h' hpause hpause' heq
    · rintro rfl
      rw [hpause] at hpause'
      cases hpause'
      rfl
  begins i := by
    constructor
    · intro n hi
      obtain ⟨h, hpause, -⟩ := (hrecorded.began i n).mp hi
      exact ⟨_, ((hc.fits i).pause hpause).1⟩
    · intro hstage
      have hend := hends i _ hstage
      cases hphase : phase i with
      | left h resumed => exact ⟨h.signal, (hrecorded.began i _).mpr ⟨h, by rw [hphase]; rfl, rfl⟩⟩
      | refused =>
        rw [hphase] at hend
        exact absurd rfl hend.1
      | accepted =>
        rw [hphase] at hend
        cases hend
      | cancelled =>
        rw [hphase] at hend
        exact nomatch hend
      | _ =>
        rw [hphase] at hend
        exact hend.elim
  returns i n result hi hstage := by
    rcases hc.ended hrecorded hi (hends i result hstage) with
      ⟨hresult, j, hj⟩ | ⟨⟨fault, rfl⟩, hnone⟩
    · refine ⟨fun _ => ⟨j, hj, fun j' hj' => ?_⟩, fun _ => hresult⟩
      obtain ⟨h, haccept, hsignal⟩ := (hrecorded.accepted j n).mp hj
      obtain ⟨h', haccept', hsignal'⟩ := (hrecorded.accepted j' n).mp hj'
      exact hc.accepted_once j' j h' h haccept' haccept (hsignal'.trans hsignal.symm)
    · refine ⟨nofun, fun ⟨j, hj, _⟩ => absurd hj (hnone j)⟩
  fails i n fault hi hstage := by
    rcases hc.ended hrecorded hi (hends i _ hstage) with ⟨hresult, -⟩ | ⟨-, hnone⟩
    · cases hresult
    · exact hnone
  accepts j n hj := by
    obtain ⟨h, haccept, rfl⟩ := (hrecorded.accepted j n).mp hj
    obtain ⟨i, hpause⟩ := hc.accepted_pause j h haccept
    have hphase := Phase.eq_of_accept? haccept
    have hfits := hc.fits j
    have htask := ((hc.fits i).pause hpause).1.taskId_eq
    obtain ⟨first, hfirst, hfound⟩ := hrecorded.looked j h (by rw [hphase]; rfl)
    rw [hphase] at hfits
    have hcall : call j = .resume (call i).taskId := by rw [hfits.1, htask]
    rw [hcall] at hfound
    exact ⟨i, (hrecorded.began i _).mpr ⟨h, hpause, rfl⟩, hcall, first, h, hfirst, hfound, rfl⟩
  answers j result hstage := by
    rw [(hends j result hstage).accepted_iff]
    constructor
    · rintro ⟨h, haccept⟩
      exact ⟨h.signal, (hrecorded.accepted j _).mpr ⟨h, haccept, rfl⟩⟩
    · rintro ⟨n, hj⟩
      obtain ⟨h, haccept, -⟩ := (hrecorded.accepted j n).mp hj
      exact ⟨h, haccept⟩
  refuses j refusal hstage := hrecorded.harmless j (hends j _ hstage).harmless
  apart m hm := by
    refine ⟨hrecorded.handles m hm, fun i n hi htask => ?_⟩
    by_contra hchanged
    obtain ⟨i', h', hpause', hsignal', htask'⟩ := hrecorded.signals m hm n hchanged
    obtain ⟨h, hpause, hsignal⟩ := (hrecorded.began i n).mp hi
    obtain rfl := hc.distinct i i' h h' hpause hpause' (hsignal.trans hsignal'.symm)
    exact htask (((hc.fits i).pause hpause').1.taskId_eq.symm.trans htask')

/-- Over one coordinator, any calls to pause, to resume and to cancel, in any
order of their turns: pauses and requests to resume agree. -/
theorem pauses_agree {c : Coordinator} (hc : c.Announces) (call : Nat → Request)
    {x : Unit × State} (hempty : x.2.board = .empty) {history : History}
    {e : Ensemble State Ask Ask.Reply Unit Answer}
    (hreaches : Reaches climate (fun i => (call i).run c) x history e) :
    Agreement call history e.stage := by
  obtain ⟨phase, hplays, hstands⟩ := hreaches.plays (fun i => (call i).contract)
    (fun i y _ _ => c.keeps_run hc (call i) y) (fun _ _ _ _ _ => trivial)
  obtain ⟨hconsistent, hrecorded⟩ := plays_consistent hempty hplays
  refine hconsistent.agreement hrecorded fun i result hstage => ?_
  have hstand := hstands i
  rw [hstage] at hstand
  exact hstand

end

/-- A task is paused and resumed, and cannot be resumed again. -/
def resumedOnce : Nat → Request
  | 0 => .pause "t" none 0 1
  | _ => .resume "t"

def quietCoordinator : Coordinator where
  detector := .new [] []
  channel := none
  timeoutSec := 300

theorem pauses_agree_resumedOnce : ∃ history e,
    Reaches climate (fun i => (resumedOnce i).run quietCoordinator) ((), {}) history e ∧
      e.stage 0 = .ended (.ok .paused) ∧ e.stage 1 = .ended (.ok (.resumed none)) ∧
      e.stage 2 = .ended (.ok (.resumed (some .notPaused))) ∧
      Agreement resumedOnce history e.stage := by
  have hstart : Reaches climate (fun i => (resumedOnce i).run quietCoordinator) ((), {}) [] _ :=
    .start
  have hwait : climate.Settles fun _ => none := ⟨fun _ _ => id, fun _ _ hnow => by cases hnow⟩
  have hpaused := hstart.call hwait 0 rfl trivial
  have hresumed := (hpaused.call hwait 1 rfl trivial).call hwait 2 rfl trivial
  have hreturned := hresumed.reply hwait 0 rfl Ask.refused () (climate_refused _ _)
  exact ⟨_, _, hreturned, rfl, rfl, rfl, pauses_agree (.inl rfl) resumedOnce rfl hreturned⟩

end Pageflow.Pause
