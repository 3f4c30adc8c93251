import Pageflow.Proofs.Socket.Clients

/-! Publishing an event, turn by turn. The event is sent once to every sink that the client had
registered when the publishing began, unless the sink is closed. -/
namespace Pageflow.Socket
open Progress

variable {client taskId text : String} {α : Type} {c : Contract State Ask
  (Unit × List (Note Ask Ask.Reply)) α Phase} {e : Event} {id : SinkId} {ids rest : List SinkId}
  {φ : Phase} {before now : Site}

/-- What a call holds on to while an event is delivered: `holds ids` when it is still to go to
the sinks `ids`. -/
structure Delivers (client : String) (e : Event)
    (c : Contract State Ask (Unit × List (Note Ask Ask.Reply)) α Phase)
    (holds : List SinkId → Phase → Site → Site → Prop) : Prop where
  minds : ∀ {ids φ before now} {s : State}, holds ids φ before now →
    now.2.bus.Changes client (Failed client (since before now)) s.bus →
    holds ids φ before (now.1, s)
  /-- A sink may be left out if it is closed or not one of the client. -/
  drops : ∀ {id rest φ before now}, holds (id :: rest) φ before now →
    now.2.bus.socket? client id ≠ some false → holds rest φ before now
  stops : ∀ {id rest φ before now}, holds (id :: rest) φ before now →
    now.2.bus.socket? client id ≠ some true →
    ∀ q, tells client e.line q = now.2.bus.serves client id →
    ∃ φ', c.moves φ before φ' now ∧ c.rests φ' q ∧ ∀ later r w, c.rely φ' later →
      w.2 = later.1.2 ++ [⟨q, r⟩] → holds rest φ' later (w, later.2) ∧
        later.2.bus.serves client id = now.2.bus.serves client id

section

variable {holds : List SinkId → Phase → Site → Site → Prop} (hd : Delivers client e c holds)
include hd

/-- A sink is waited for that is not one of the client. -/
theorem Delivers.stops_other (h : holds (id :: rest) φ before now)
    (hother : now.2.bus.socket? client id = none) (q : Ask)
    (htells : tells client e.line q = false) :
    ∃ φ', c.moves φ before φ' now ∧ c.rests φ' q ∧ ∀ later r w, c.rely φ' later →
      w.2 = later.1.2 ++ [⟨q, r⟩] → holds rest φ' later (w, later.2) := by
  have hserves : now.2.bus.serves client id = false := by
    unfold Bus.serves
    rw [hother]
    rfl
  have hopen : now.2.bus.socket? client id ≠ some true := by
    rw [hother]
    nofun
  obtain ⟨φ', hmoves, hrests, hnext⟩ := hd.stops h hopen q (htells.trans hserves.symm)
  exact ⟨φ', hmoves, hrests, fun later r w hrely hw => (hnext later r w hrely hw).1⟩

theorem Delivers.keeps_send {name : String} (h : holds (id :: rest) φ before now)
    (hsink : now.2.bus.sink? id = some (.socket name false)) :
    (Program.rescue (.ask (.send name (.text e.line)) .ofResult) fun _ => Program.modify fun s =>
      { s with bus := s.bus.modifySink id fun _ => .socket name true }).Keeps
      (climate client).noted c (fun _ => holds rest) φ before now := by
  have hsocket : now.2.bus.socket? client id = (Sink.socket name false).socket? client :=
    Bus.socket?_of_sink? hsink
  have hopen : now.2.bus.socket? client id ≠ some true := by
    rw [hsocket]
    by_cases hname : name = client <;> simp [Sink.socket?, hname]
  have htells : tells client e.line (.send name (.text e.line)) = now.2.bus.serves client id := by
    unfold Bus.serves
    rw [hsocket]
    by_cases hname : name = client <;> simp [tells, Sink.socket?, hname]
  obtain ⟨φ', hmoves, hrests, hnext⟩ := hd.stops h hopen _ htells
  refine Program.keeps_rescueIf.mpr ⟨False.elim, fun _ => ?_⟩
  refine ⟨φ', hmoves, hrests, fun later r w hrely hanswer => Program.keeps_ofResult.mpr ?_⟩
  obtain ⟨hholds, hsame⟩ := hnext later r w hrely hanswer.2
  cases r with
  | ok value => exact hholds
  | error fault =>
    dsimp only
    split
    · -- The answer that closes the sink is on record since the turn began.
      refine hd.minds hholds (Bus.changes_modifySink fun sink hsink' => Sink.fate_close ?_ ?_)
      · rw [← hsocket, ← Bus.socket?_of_sink? hsink']
        exact hsame
      · rintro rfl
        rw [since_answered hanswer.2]
        exact ⟨e, fault, List.mem_singleton.mpr rfl⟩
    · exact hholds

theorem Delivers.keeps_deliver (h : holds (id :: rest) φ before now) :
    (deliver e id).Keeps (climate client).noted c (fun _ => holds rest) φ before now := by
  unfold deliver Program.state
  simp only [Program.bind_eq_bind, Program.bind, Program.Keeps]
  have hnone : (none : Option Bool) ≠ some false := (Option.some_ne_none false).symm
  have hdrops : ∀ {sink : Sink}, now.2.bus.sink? id = some sink →
      sink.socket? client ≠ some false → holds rest φ before now := fun hsink hshut =>
    hd.drops h (Bus.socket?_of_sink? hsink ▸ hshut)
  -- One case for each kind of sink; only a webhook, an open socket and a terminal are waited for.
  split
  · rename_i url hsink
    obtain ⟨φ', hmoves, hrests, hnext⟩ := hd.stops_other h (Bus.socket?_of_sink? hsink)
      (.post url e.notice) rfl
    exact ⟨False.elim, fun _ => ⟨φ', hmoves, hrests, fun later r w hrely hanswer =>
      Program.keeps_ofResult.mpr (hnext later r w hrely hanswer.2)⟩⟩
  · rename_i name hsink
    exact hd.keeps_send h hsink
  · rename_i name hsink
    refine hdrops hsink ?_
    by_cases hname : name = client <;> simp [Sink.socket?, hname]
  · rename_i hsink
    split
    · have hprompted : holds (id :: rest) φ before (now.1, { now.2 with prompting := true }) :=
        hd.minds h .refl
      obtain ⟨φ', hmoves, hrests, hnext⟩ := hd.stops_other hprompted (Bus.socket?_of_sink? hsink)
        (.start (.prompt e.taskId)) rfl
      exact ⟨False.elim, fun _ => ⟨φ', hmoves, hrests, fun later r w hrely hanswer =>
        hnext later r w hrely hanswer.2⟩⟩
    · exact hdrops hsink hnone
  · rename_i hsink
    exact hdrops hsink hnone
  · rename_i sink hweb hopen hshut hterminal hfailing hsink
    refine hd.minds (hdrops hsink fun hsocket => ?_) (Bus.changes_modifySink fun sink _ =>
      .inl (sink.socket?_keep client e))
    cases sink with
    | socket name closed =>
      cases closed with
      | true => exact hshut name rfl
      | false => exact hopen name rfl
    | _ => cases hsocket
  · rename_i hsink
    refine hd.drops h ?_
    unfold Bus.socket?
    rw [hsink]
    exact hnone

theorem Delivers.keeps_deliverAll (h : holds ids φ before now) :
    (deliverAll e ids).Keeps (climate client).noted c (fun result φ before now =>
      ∃ left, holds left φ before now ∧ (result = .ok () → left = [])) φ before now := by
  induction ids generalizing φ before now with
  | nil => exact ⟨[], h, fun _ => rfl⟩
  | cons id rest ih =>
    refine Program.keeps_bind.mpr (Program.keeps_rescueIf.mpr ((hd.keeps_deliver h).mono ?_))
    rintro (fault | _) φ before now hholds
    · dsimp only
      split
      · exact ih hholds
      · exact ⟨rest, hholds, nofun⟩
    · exact ih hholds

end

/-! ## Calls that publish -/

/-- In its turn a call has come from `before` to `now`, and the event is still to go to the
sinks `rest`. It is sent as often as it was due, if sending has not failed meanwhile. -/
structure Owes (client taskId text : String) (φ : Phase) (before : Site) (rest : List SinkId)
    (now : Site) : Prop where
  good : Good client now
  leaves : Leaves client before now
  bounded : ∀ id ∈ rest, id < now.2.bus.sinks.length
  meets : Meets (Failed client (since before now))
    (told client text (since before now) + now.2.bus.due client rest)
    (φ.due client taskId before.2.bus)

/-- One turn of a call that publishes. -/
structure Publishes (client taskId text : String) (φ : Phase) (x : Site) (φ' : Phase) (y : Site) :
    Prop where
  good : Good client y
  leaves : Leaves client x y
  stands : φ'.At client taskId y.2.bus
  begun : φ'.Tells
  meets : Meets (Failed client (since x y))
    (told client text (since x y) + φ'.due client taskId y.2.bus) (φ.due client taskId x.2.bus)

def publishContract (client taskId text : String) :
    Contract State Ask (Unit × List (Note Ask Ask.Reply)) Unit Phase where
  start := .fresh
  rely φ x := Good client x ∧ φ.At client taskId x.2.bus
  rests φ q := match φ with
    | .waiting mine _ _ => tells client text q = mine
    | _ => False
  moves := Publishes client taskId text
  ends φ result := ∃ left, φ = .past left ∧ (result = .ok () → left = 0)

theorem Owes.minds {s : State} (h : Owes client taskId text φ before ids now)
    (hchanges : now.2.bus.Changes client (Failed client (since before now)) s.bus) :
    Owes client taskId text φ before ids (now.1, s) where
  good := h.good.changes (List.Subset.refl _) hchanges Failed.overall
  leaves := ⟨h.leaves.notes, h.leaves.changes.trans hchanges id id⟩
  bounded id hid := Nat.lt_of_lt_of_le (h.bounded id hid) hchanges.sinks
  meets := h.meets.trans (Bus.meets_due fun id _ => hchanges.fate id) id id

theorem Owes.drops (h : Owes client taskId text φ before (id :: rest) now)
    (hclosed : now.2.bus.socket? client id ≠ some false) :
    Owes client taskId text φ before rest now where
  good := h.good
  leaves := h.leaves
  bounded j hj := h.bounded j (List.mem_cons_of_mem _ hj)
  meets := by
    have hmeets := h.meets
    rw [Bus.due_cons, if_neg hclosed] at hmeets
    exact hmeets

theorem Owes.stops (h : Owes client taskId text φ before (id :: rest) now)
    (hopen : now.2.bus.socket? client id ≠ some true) :
    Publishes client taskId text φ before (.waiting (now.2.bus.serves client id) id rest) now where
  good := h.good
  leaves := h.leaves
  stands := ⟨h.bounded, rfl⟩
  begun := trivial
  meets := by
    have hdue : now.2.bus.due client (id :: rest) =
        (now.2.bus.serves client id).toNat + now.2.bus.due client rest := by
      rw [Bus.due_cons, Nat.add_comm]
      unfold Bus.serves
      cases hsocket : now.2.bus.socket? client id with
      | none => rfl
      | some closed =>
        cases closed with
        | true => exact absurd hsocket hopen
        | false => rfl
    have hmeets := h.meets
    rw [hdue] at hmeets
    exact hmeets

theorem owes_answered {mine : Bool} {q : Ask} {r : Ask.Reply q}
    {w : Unit × List (Note Ask Ask.Reply)} (hgood : Good client now)
    (hat : (Phase.waiting mine id rest).At client taskId now.2.bus)
    (htells : tells client text q = mine) (hw : w.2 = now.1.2 ++ [⟨q, r⟩]) :
    Owes client taskId text (.waiting mine id rest) now rest (w, now.2) := by
  have hleaves : Leaves client now (w, now.2) := .of_bus (hw ▸ List.prefix_append _ _) rfl
  have htold : told client text (since now (w, now.2)) = mine.toNat := by
    rw [since_answered hw, ← htells]
    refine List.countP_singleton.trans ?_
    cases tells client text q <;> rfl
  refine ⟨hgood.leaves hleaves, hleaves, fun j hj => hat.1 j (List.mem_cons_of_mem _ hj), ?_⟩
  rw [htold]
  exact .refl

theorem delivers_owes (client taskId : String) (e : Event) :
    Delivers client e (publishContract client taskId e.line) fun rest φ before now =>
      Owes client taskId e.line φ before rest now where
  minds := Owes.minds
  drops := Owes.drops
  stops h hopen _ htells := ⟨_, h.stops hopen, htells, fun _ _ _ hrely hw =>
    ⟨owes_answered hrely.1 hrely.2 htells hw, hrely.2.2⟩⟩

theorem keeps_publish (client taskId : String) (e : Event) {x : Site} (hgood : Good client x) :
    (publish taskId e).Keeps (climate client).noted
      (publishContract client taskId { e with taskId }.line)
      (publishContract client taskId { e with taskId }.line).closes .fresh x x := by
  have hbegins : Owes client taskId { e with taskId }.line .fresh x
      (x.2.bus.audience taskId) x := by
    refine ⟨hgood, .refl, fun id hid => Bus.mem_audience_lt hgood.sound hid, ?_⟩
    rw [since_self]
    unfold told
    rw [List.countP_nil, Nat.zero_add]
    exact .refl
  refine ((delivers_owes client taskId { e with taskId }).keeps_deliverAll hbegins).mono ?_
  rintro result φ before now ⟨left, howes, hall⟩
  refine ⟨.past (now.2.bus.due client left), ?_, _, rfl, fun hok => ?_⟩
  · exact ⟨howes.good, howes.leaves, trivial, trivial, howes.meets⟩
  · rw [hall hok]
    rfl

end Pageflow.Socket
