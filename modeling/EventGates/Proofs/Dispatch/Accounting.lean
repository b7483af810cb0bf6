import EventGates.Proofs.Dispatch.Projection

/-!
# Every event is accounted for

An event that is offered to a gate is counted once, and one that was accepted is in the queue, is
being delivered, was delivered, or is accounted for as lost in one of three ways: its delivery was
broken off, a dispatcher that let go of the queue discarded it, or it was discarded when the
dispatcher was handed out again. The main theorem `run_accounts` says so of every run, and that the
queue holds in order those accepted events that have not left it.

The invariant is `Accounts`. It compares a ledger with the gate, given whether the worker of the gate
carries an event.
-/

namespace EventGates

/-- A worker in this phase has an event that it took. -/
def Phase.isCarrying {κ : Type} : Phase κ → Bool
  | .holding _ => true
  | .delivering _ => true
  | _ => false

/-- A worker of the gate has an event that it took. -/
def System.isCarrying {κ : Type} (s : System κ) (g : GateId) : Bool :=
  s.workers.keys.any fun w => (s.workers.find? w).any fun a => a.gate = g && a.phase.isCarrying

/-- The worker at the desk has an event that it took. -/
def Desk.isCarrying {κ : Type} (d : Desk κ) : Bool := d.worker.any fun entry => entry.2.isCarrying

/-- The ledger agrees with the gate. -/
structure Accounts (gate : Gate) (l : Ledger) (carrying : Bool) : Prop where
  attempts : l.attempts =
    gate.counters.accepted + gate.counters.droppedFull + gate.counters.droppedIdle
  accepted : l.accepted.length = gate.counters.accepted
  queue : l.accepted = l.gone ++ gate.queue
  room : gate.queue.length ≤ gate.capacity
  gone : l.gone.length = l.passages.length + l.discardedAtEnd + l.discardedAtHandOut
  delivered : l.finished.countP (·.completed) = gate.counters.delivered
  going : ∀ p, l.current = some p → p.completed = false
  current : l.current.isSome = carrying

namespace Accounts

variable {gate : Gate} {l : Ledger} {carrying : Bool}

/-! ## One lemma for each kind of step -/

/-- An event that is put into the queue or refused for want of a slot is counted. -/
lemma push (h : Accounts gate l carrying) (e : Event) :
    Accounts (gate.push e).1 (l.offered e (gate.push e).2) carrying := by
  obtain ⟨attempts, accepted, queue, room, gone, delivered, going, current⟩ := h
  obtain ⟨free, push⟩ | ⟨_, push⟩ := gate.push_cases e
  · rw [push]
    refine ⟨?_, ?_, ?_, ?_, gone, delivered, going, current⟩
    · simp only [Ledger.offered, attempts]
      omega
    · simp only [Ledger.offered, List.length_append, accepted, List.length_singleton]
    · simp only [Ledger.offered, queue, List.append_assoc]
    · simp only [List.length_append, List.length_singleton]
      omega
  · rw [push]
    refine ⟨?_, accepted, queue, room, gone, delivered, going, current⟩
    simp only [Ledger.offered, attempts]
    omega

/-- An event that is offered is counted. -/
lemma offer (h : Accounts gate l carrying) (e : Event) :
    Accounts (gate.offer e).1 (l.offered e (gate.offer e).2) carrying := by
  obtain ⟨_, offer⟩ | ⟨_, offer⟩ := gate.offer_cases e
  · rw [offer]
    exact h.push e
  · rw [offer]
    refine { h with attempts := ?_ }
    simp only [Ledger.offered, Gate.dropIdle, h.attempts]
    omega

/-- Changes of listeners are not in the accounts. -/
lemma change (h : Accounts gate l carrying) (c : Registry.Change ListenerId) :
    Accounts { gate with registry := gate.registry.change c } (l.changed c) carrying :=
  { h with }

/-- What is in the queue when the dispatcher is handed out is lost, and accounted for. -/
lemma handOut (h : Accounts gate l carrying) {gate' : Gate} (out : gate.handOut = some gate') :
    Accounts gate' (l.handedOut gate.queue) carrying := by
  obtain ⟨_, rfl⟩ := Gate.handOut_eq_some out
  refine { h with queue := ?_, room := Nat.zero_le _, gone := ?_ }
  · simp only [Ledger.handedOut, h.queue, List.append_nil]
  · have gone := h.gone
    simp only [Ledger.passages] at gone
    simp only [Ledger.handedOut, Ledger.passages, List.length_append, gone]
    omega

/-- What is in the queue when a dispatcher lets go of it is lost, and accounted for; so is the event
that was being delivered. -/
lemma ended (h : Accounts gate l carrying) :
    Accounts gate.close.drain.takeBack (l.ended gate.queue) false := by
  refine
    { h with
      queue := ?_, room := Nat.zero_le _, gone := ?_, delivered := ?_, going := nofun
      current := rfl }
  · simp only [Ledger.ended, Gate.takeBack, Gate.drain, h.queue, List.append_nil]
  · have gone := h.gone
    simp only [Ledger.passages] at gone
    simp only [Ledger.ended, Ledger.passages, List.length_append, gone, Option.toList_none,
      List.length_nil]
    omega
  · -- the event that was being delivered does not count as delivered
    have left : l.current.toList.countP (·.completed) = 0 := by
      simp only [List.countP_eq_zero, Option.mem_toList]
      intro p hp
      simp [h.going p hp]
    simp only [Ledger.ended, Ledger.passages, List.countP_append, left, h.delivered]
    rfl

/-- A worker that takes the first event of the queue carries it. -/
lemma take (h : Accounts gate l false) {gate' : Gate} {e : Event}
    (taken : gate.pop = some (e, gate')) : Accounts gate' (l.taken e) true := by
  obtain ⟨es, queue, rfl⟩ := Gate.pop_eq_some taken
  have none : l.current = none := by simpa using h.current
  refine
    { h with
      queue := ?_, room := ?_, gone := ?_, going := ?_, current := rfl }
  · simp only [Ledger.taken, h.queue, queue, List.append_assoc, List.singleton_append]
  · have room := h.room
    simp only [queue, List.length_cons] at room
    exact Nat.le_of_lt room
  · have gone := h.gone
    simp only [Ledger.passages, none, List.length_append, Option.toList_none, List.length_nil]
      at gone
    simp only [Ledger.taken, Ledger.passages, List.length_append, gone, Option.toList_some,
      List.length_singleton]
    omega
  · intro p hp
    cases hp
    rfl

/-- The current entry may be extended. -/
lemma extend (h : Accounts gate l carrying) (change : Passage → Passage)
    (same : ∀ p, (change p).completed = p.completed) (calls : List Call) :
    Accounts gate { l with current := l.current.map change, calls } carrying := by
  refine { h with gone := ?_, going := ?_, current := ?_ }
  · have gone := h.gone
    simp only [Ledger.passages, List.length_append] at gone ⊢
    rw [gone]
    cases l.current with
    | none => rfl
    | some p => rfl
  · intro p hp
    simp only [Option.map_eq_some_iff] at hp
    obtain ⟨q, hq, rfl⟩ := hp
    rw [same]
    exact h.going q hq
  · simp only [Option.isSome_map, h.current]

/-- A delivery that begins is of the event that the worker carries. -/
lemma begun (h : Accounts gate l carrying) (live : List ListenerId) :
    Accounts gate (l.begun live) carrying :=
  h.extend (fun p => { p with snapshot := some live }) (fun _ => rfl) l.calls

/-- A callback is not in the accounts. -/
lemma called (h : Accounts gate l carrying) (x : ListenerId) (e : Event) :
    Accounts gate (l.called x e) carrying :=
  h.extend (fun p => { p with called := p.called ++ [x] }) (fun _ => rfl) (l.calls ++ [Call.mk x e])

/-- An event whose delivery ran to its end is counted. -/
lemma complete (h : Accounts gate l true) :
    Accounts gate.countDelivered.endDelivery l.completed false := by
  obtain ⟨p, hp⟩ := Option.isSome_iff_exists.mp h.current
  refine { h with gone := ?_, delivered := ?_, going := nofun, current := rfl }
  · have gone := h.gone
    simp only [Ledger.passages, hp, List.length_append, Option.toList_some, List.length_singleton]
      at gone
    simp only [Ledger.completed, Ledger.passages, hp, gone, Option.map_some, Option.toList_some,
      Option.toList_none, List.append_nil, List.length_append, List.length_singleton]
  · simp only [Ledger.completed, hp, Option.map_some, Option.toList_some, List.countP_append,
      List.countP_singleton, h.delivered]
    rfl

end Accounts

/-! ## Runs -/

/-- A gate at a desk agrees with the ledger there. -/
def Desk.Accounted {κ : Type} (d : Desk κ) : Prop :=
  ∀ gate, d.gate = some gate → Accounts gate d.ledger d.isCarrying

/-- Every step keeps the accounts. -/
lemma Desk.Step.accounted {κ : Type} {d d' : Desk κ} (step : d.Step d') (h : d.Accounted) :
    d'.Accounted := by
  rintro gate' there
  cases step with
  | stay => exact h gate' there
  | create name capacity bus =>
    cases there
    exact ⟨rfl, rfl, rfl, Nat.zero_le _, rfl, rfl, nofun, rfl⟩
  | remove _ => cases there
  | offer e =>
    cases there
    exact (h _ rfl).offer e
  | enter e =>
    cases there
    exact (h _ rfl).push e
  | change c =>
    cases there
    exact (h _ rfl).change c
  | handOut out =>
    cases there
    exact (h _ rfl).handOut out
  | release _ =>
    cases there
    exact (h _ rfl).ended
  | engage w _ =>
    cases there
    exact h _ rfl
  | begin =>
    cases there
    exact h _ rfl
  | rest =>
    cases there
    exact h _ rfl
  | @take gate _ w phase l e free taken =>
    cases there
    have idle : Accounts gate l false := by
      have accounts := h _ rfl
      cases phase with
      | ready => exact accounts
      | idle => exact accounts
      | _ => cases free
    exact idle.take taken
  | deliver =>
    cases there
    exact { (h _ rfl).begun _ with }
  | call k =>
    cases there
    exact (h _ rfl).called _ _
  | proceed callback =>
    cases there
    exact h _ rfl
  | panicked =>
    cases there
    exact { h _ rfl with }
  | complete =>
    cases there
    exact (h _ rfl).complete
  | @stop gate w phase l _ =>
    cases there
    have accounts := h _ rfl
    cases phase with
    | delivering d => exact { accounts.ended with }
    | _ => exact accounts.ended

namespace Chronicle

variable {κ : Type}

/-- Whether a worker of a gate carries an event is to be seen at the desk. -/
lemma Shows.isCarrying {c : Chronicle κ} {g : GateId} {d : Desk κ} (shows : c.Shows g d) :
    c.system.isCarrying g = d.isCarrying := by
  rw [Bool.eq_iff_iff]
  simp only [System.isCarrying, Desk.isCarrying, List.any_eq_true, Option.any_eq_true,
    Bool.and_eq_true, decide_eq_true_eq, Prod.exists]
  constructor
  · rintro ⟨w, _, a, found, own, carrying⟩
    exact ⟨w, a.phase, (shows.worker w a.phase).mpr ⟨a, found, own, rfl⟩, carrying⟩
  · rintro ⟨w, phase, worker, carrying⟩
    obtain ⟨a, found, own, rfl⟩ := (shows.worker w phase).mp worker
    exact ⟨w, Table.mem_keys_of_find? found, a, found, own, carrying⟩

/-- In every run an event that is offered to a gate is counted once; an accepted event is delivered,
abandoned, discarded at one of two times, being delivered or in the queue; and the queue, which is
never longer than the gate allows, is what is left of the accepted events in their order. -/
theorem run_accounts (ms : List (Move κ)) {g : GateId} {gate : Gate}
    (there : (run ms).system.fabric.gates.find? g = some gate) :
    let l := (run ms).ledgers g
    let n := gate.counters
    l.attempts = n.accepted + n.droppedFull + n.droppedIdle ∧
      n.accepted =
        n.delivered + l.abandoned + l.discardedAtEnd + l.discardedAtHandOut +
          (if (run ms).system.isCarrying g then 1 else 0) + gate.queue.length ∧
      l.accepted.length = n.accepted ∧
      l.accepted = l.gone ++ gate.queue ∧
      gate.queue.length ≤ gate.capacity := by
  intro l n
  obtain ⟨d, shows, _⟩ := (run_sound ms).desk g
  have accounted : d.Accounted :=
    run_desk (fun _ => nofun) (fun _ _ _ h step => step.accounted h) ms shows
  have accounts := accounted gate (shows.gate.symm.trans there)
  rw [← shows.ledger, ← shows.isCarrying] at accounts
  refine ⟨accounts.attempts, ?_, accounts.accepted, accounts.queue, accounts.room⟩
  have carried : l.current.toList.length = if (run ms).system.isCarrying g then 1 else 0 := by
    rw [← accounts.current]
    cases (run ms).ledgers g |>.current with
    | none => rfl
    | some p => rfl
  have finished : l.finished.length = n.delivered + l.abandoned := by
    rw [← accounts.delivered, List.length_eq_countP_add_countP (·.completed)]
    simp [Ledger.abandoned, l]
  calc n.accepted
    _ = l.accepted.length := accounts.accepted.symm
    _ = l.gone.length + gate.queue.length := by rw [accounts.queue, List.length_append]
    _ = l.finished.length + l.current.toList.length + l.discardedAtEnd + l.discardedAtHandOut +
          gate.queue.length := by rw [accounts.gone, Ledger.passages, List.length_append]
    _ = _ := by
      rw [finished, carried]
      omega

/-- Six events are accepted, and each goes another way: one is delivered, one is abandoned when its
worker is dropped, one is discarded then and one, which came late, when the queue is handed out
again; one is being delivered and one waits. One more is refused at a full queue and one at an idle
gate. -/
theorem run_accounts_every_way :
    let e : Event := { seq := 0, payload := .addItem { sourceItemUid := "lamp" } }
    let ms : List (Move Unit) :=
      [.create "desk" 2 none, .gate 0 (.offer e), .gate 0 (.change (.add 7)), .gate 0 .handOut,
        .gate 0 (.engage 0), .gate 0 (.offer e), .gate 0 (.offer e), .gate 0 (.offer e),
        .worker 0 .begin, .worker 0 .take, .worker 0 .deliver, .worker 0 (.call ()),
        .worker 0 .returned, .worker 0 .complete, .gate 0 (.offer e), .worker 0 .take,
        .worker 0 .deliver, .worker 0 (.call ()), .worker 0 .abort, .worker 0 .stop,
        .gate 0 (.enter e), .gate 0 .handOut, .gate 0 (.engage 1), .gate 0 (.offer e),
        .gate 0 (.offer e), .worker 1 .begin, .worker 1 .take]
    let l := (run ms).ledgers 0
    ∃ gate, (run ms).system.fabric.gates.find? 0 = some gate ∧
      gate.counters = ⟨6, 1, 1, 1, 0⟩ ∧
      (l.abandoned, l.discardedAtEnd, l.discardedAtHandOut) = (1, 1, 1) ∧
      (run ms).system.isCarrying 0 = true ∧ gate.queue.length = 1 ∧
      l.attempts = 6 + 1 + 1 := by
  intro e ms l
  have view : ((run ms).system.fabric.gates.find? 0).map
      (fun gate => (gate.counters, gate.queue.length)) = some (⟨6, 1, 1, 1, 0⟩, 1) := by
    decide +kernel
  obtain ⟨gate, there, seen⟩ := Option.map_eq_some_iff.mp view
  obtain ⟨counters, waiting⟩ := Prod.mk.inj seen
  refine ⟨gate, there, counters, by decide +kernel, by decide +kernel, waiting, ?_⟩
  have accounts := (run_accounts ms there).1
  rw [counters] at accounts
  exact accounts

end Chronicle

end EventGates
