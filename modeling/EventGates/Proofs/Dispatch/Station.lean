import EventGates.Proofs.Dispatch.Desk

/-!
# What happens at one gate

What becomes of a gate depends on the gate, on the phase of its worker and on whether that worker is
to stop, and on nothing else: not on other gates, links, buses or numbers. A `Station` is that part of
a system, and an `Input` is what a move means there. `Station.step` makes of an input what a system
makes of the move, with the operations on gates alone.

Since the counters of a gate are never looked at, a station goes through the same whatever they were
when it began (`step_since`).
-/

namespace EventGates

/-- A worker as its gate knows it, without numbers. -/
structure Shift (κ : Type) where
  phase : Phase κ := .unstarted
  /-- Its token is cancelled. -/
  cancelled : Bool
  aborted : Bool := false

/-- A gate, if it is there, and the worker that serves it. -/
structure Station (κ : Type) where
  gate : Option Gate := none
  worker : Option (Shift κ) := none

/-- What is done at a gate. -/
inductive Input (κ : Type) where
  | remove
  | offer (e : Event)
  | enter (e : Event)
  | change (c : Registry.Change ListenerId)
  | handOut
  | release
  /-- The dispatcher becomes a worker, whose token may be cancelled already. -/
  | engage (cancelled : Bool)
  | work (m : WorkerMove κ)
  /-- The token of the worker is cancelled. -/
  | cancel

/-! ## Inputs and stations of systems -/

namespace System

variable {κ : Type}

/-- The worker that serves a gate. -/
def server (s : System κ) (g : GateId) : Option (Worker κ) :=
  s.workers.keys.findSome? fun w => (s.workers.find? w).filter (·.gate = g)

def shift (s : System κ) (a : Worker κ) : Shift κ :=
  { phase := a.phase, cancelled := s.isCancelled a.token, aborted := a.aborted }

def station (s : System κ) (g : GateId) : Station κ :=
  { gate := s.fabric.gates.find? g, worker := (s.server g).map s.shift }

/-- What a move of a gate is at the gate. -/
def gateInput (s : System κ) : GateMove → Input κ
  | .offer e => .offer e
  | .enter e => .enter e
  | .handOut => .handOut
  | .release => .release
  | .engage t => .engage (s.isCancelled t)
  | .change c => .change c

/-- What a move is at a gate; none if it has nothing to do with it. -/
def input? (s : System κ) (g : GateId) : Move κ → Option (Input κ)
  | .remove x => if x = g then some .remove else none
  | .gate x m => if x = g then some (s.gateInput m) else none
  | .worker w m => if (s.workers.find? w).any (·.gate = g) then some (.work m) else none
  | .cancel t => if (s.server g).any (·.token = t) then some .cancel else none
  | _ => none

end System

/-- What moves are at a gate, one after the other. -/
def Chronicle.inputs {κ : Type} (c : Chronicle κ) (g : GateId) : List (Move κ) → List (Input κ)
  | [] => []
  | m :: ms => (c.system.input? g m).toList ++ (c.next m).inputs g ms

/-! ## Steps of stations -/

namespace Shift

variable {κ : Type}

def isStopping (a : Shift κ) : Bool := a.aborted || a.cancelled

def mayStop (a : Shift κ) : Bool :=
  match a.phase with
  | .unstarted => a.aborted
  | phase => phase.isWaiting && a.isStopping

def goTo (a : Shift κ) (phase : Phase κ) : Option (Shift κ) := some { a with phase }

def take (a : Shift κ) (gate : Gate) : Option (Gate × Option (Shift κ)) :=
  gate.pop.map fun (e, gate) => (gate, a.goTo (.holding e))

/-- What a worker does at a gate; none if it cannot be done. -/
def work (gate : Gate) (a : Shift κ) : Phase κ → WorkerMove κ → Option (Gate × Option (Shift κ))
  | .unstarted, .begin => if a.aborted then none else some (gate, a.goTo .ready)
  | .ready, .take => if a.cancelled then none else a.take gate
  | .ready, .rest =>
    if a.cancelled || gate.pop.isSome then none else some (gate, a.goTo .idle)
  | .idle, .take => if a.isStopping then none else a.take gate
  | .holding e, .deliver =>
    if a.cancelled then none
    else some (gate.beginDelivery, a.goTo (.delivering ⟨e, none, gate.registry.live⟩))
  | .delivering ⟨e, none, _ :: xs⟩, .call k => some (gate, a.goTo (.delivering ⟨e, some k, xs⟩))
  | .delivering ⟨e, some _, xs⟩, .proceed k => some (gate, a.goTo (.delivering ⟨e, some k, xs⟩))
  | .delivering ⟨e, some _, xs⟩, .returned => some (gate, a.goTo (.delivering ⟨e, none, xs⟩))
  | .delivering ⟨e, some _, xs⟩, .panicked _ =>
    some (gate.countPanic, a.goTo (.delivering ⟨e, none, xs⟩))
  | .delivering ⟨_, none, []⟩, .complete => some (gate.countDelivered.endDelivery, a.goTo .ready)
  | phase, .stop =>
    if a.mayStop then some ((phase.leave gate).close.drain.takeBack, none) else none
  | _, .abort => some (gate, some { a with aborted := true })
  | _, _ => none

end Shift

namespace Station

variable {κ : Type}

/-- What an input leads to. One that cannot be is skipped, and nothing happens at a gate that is
gone. -/
def step (st : Station κ) (i : Input κ) : Station κ :=
  match st.gate with
  | none => st
  | some gate =>
    match i, st.worker with
    | .remove, worker => if gate.handedOut then st else ⟨none, worker⟩
    | .offer e, worker => ⟨some (gate.offer e).1, worker⟩
    | .enter e, worker => ⟨some (gate.push e).1, worker⟩
    | .change c, worker => ⟨some { gate with registry := gate.registry.change c }, worker⟩
    | .handOut, worker => ⟨some (gate.handOut.getD gate), worker⟩
    | .release, none => if gate.handedOut then ⟨some gate.close.drain.takeBack, none⟩ else st
    | .engage cancelled, none => if gate.handedOut then ⟨some gate, some { cancelled }⟩ else st
    | .work m, some a =>
      match a.work gate a.phase m with
      | none => st
      | some (gate, worker) => ⟨some gate, worker⟩
    | .cancel, some a => ⟨some gate, some { a with cancelled := true }⟩
    | _, _ => st

/-- The dispatcher is handed out and not at work. -/
def isHeld (st : Station κ) : Bool := st.gate.any (·.handedOut) && st.worker.isNone

/-- The callback that is made. -/
def call? (st : Station κ) : Input κ → Option Call
  | .work (.call _) =>
    match st.worker with
    | some ⟨.delivering ⟨e, none, x :: _⟩, _, _⟩ => some ⟨x, e⟩
    | _ => none
  | _ => none

def run (st : Station κ) (is : List (Input κ)) : Station κ := is.foldl step st

/-- The callbacks that are made, in order. -/
def calls (st : Station κ) : List (Input κ) → List Call
  | [] => []
  | i :: is => (st.call? i).toList ++ (st.step i).calls is

lemma eq_of_isHeld {st : Station κ} (held : st.isHeld = true) :
    ∃ gate, st = ⟨some gate, none⟩ ∧ gate.handedOut = true := by
  obtain ⟨gate, worker⟩ := st
  simp only [isHeld, Bool.and_eq_true, Option.any_eq_true, Option.isNone_iff_eq_none] at held
  obtain ⟨⟨gate, rfl, out⟩, rfl⟩ := held
  exact ⟨gate, rfl, out⟩

/-- Nobody drops a dispatcher or puts it to work who does not hold it. -/
lemma step_of_not_isHeld {st : Station κ} (free : st.isHeld = false) (cancelled : Bool) :
    st.step .release = st ∧ st.step (.engage cancelled) = st := by
  obtain ⟨gate, worker⟩ := st
  cases gate with
  | none => exact ⟨rfl, rfl⟩
  | some gate =>
    cases worker with
    | some a => exact ⟨rfl, rfl⟩
    | none =>
      have back : ¬gate.handedOut = true := by simpa [isHeld] using free
      exact ⟨if_neg back, if_neg back⟩

end Station

/-! ## Counters make no difference -/

/-- Two counts together. -/
def Counters.plus (c d : Counters) : Counters where
  accepted := c.accepted + d.accepted
  droppedFull := c.droppedFull + d.droppedFull
  droppedIdle := c.droppedIdle + d.droppedIdle
  delivered := c.delivered + d.delivered
  listenerPanics := c.listenerPanics + d.listenerPanics

/-- The gate as it would be if it had begun with counters. -/
def Gate.since (gate : Gate) (base : Counters) : Gate :=
  { gate with counters := base.plus gate.counters }

def Station.since {κ : Type} (st : Station κ) (base : Counters) : Station κ :=
  { st with gate := st.gate.map (·.since base) }

namespace Gate

variable (gate : Gate) (base : Counters)

lemma push_since (e : Event) :
    (gate.since base).push e = ((gate.push e).1.since base, (gate.push e).2) := by
  obtain ⟨free, push⟩ | ⟨full, push⟩ := gate.push_cases e
  · rw [push]
    exact if_pos free
  · rw [push]
    exact if_neg (Nat.not_lt_of_le full)

lemma offer_since (e : Event) : ((gate.since base).offer e).1 = (gate.offer e).1.since base := by
  have running : (gate.since base).running = gate.running := rfl
  simp only [offer, running]
  split
  · rw [push_since]
  · rfl

lemma handOut_since : (gate.since base).handOut = gate.handOut.map (·.since base) := by
  have out : (gate.since base).handedOut = gate.handedOut := rfl
  simp only [handOut, out]
  split <;> rfl

lemma pop_since : (gate.since base).pop = gate.pop.map fun (e, gate) => (e, gate.since base) := by
  have queue : (gate.since base).queue = gate.queue := rfl
  simp only [pop, queue]
  split <;> rfl

lemma leave_since {κ : Type} (phase : Phase κ) :
    phase.leave (gate.since base) = (phase.leave gate).since base := by
  cases phase <;> rfl

end Gate

/-- A worker does the same at a gate that has counted more. -/
lemma Shift.work_since {κ : Type} (gate : Gate) (base : Counters) (a : Shift κ) (phase : Phase κ)
    (m : WorkerMove κ) :
    a.work (gate.since base) phase m =
      (a.work gate phase m).map fun (gate, worker) => (gate.since base, worker) := by
  have take : a.take (gate.since base) =
      (a.take gate).map fun (gate, worker) => (gate.since base, worker) := by
    simp only [Shift.take, Gate.pop_since, Option.map_map]
    rfl
  have more : (gate.since base).pop.isSome = gate.pop.isSome := by
    rw [Gate.pop_since, Option.isSome_map]
  -- one case for each line of `work`, in its order
  simp only [work]
  split
  case h_1 => split <;> rfl
  case h_2 => split <;> [rfl; exact take]
  case h_3 => rw [more]; split <;> rfl
  case h_4 => split <;> [rfl; exact take]
  case h_5 => split <;> rfl
  case h_11 => rw [Gate.leave_since]; split <;> rfl
  all_goals rfl

/-- A station makes the same of an input whatever its gate counted before. -/
lemma Station.step_since {κ : Type} (st : Station κ) (base : Counters) (i : Input κ) :
    (st.since base).step i = (st.step i).since base := by
  obtain ⟨gate, worker⟩ := st
  cases gate with
  | none => rfl
  | some gate =>
    have out : (gate.since base).handedOut = gate.handedOut := rfl
    cases i with
    | remove =>
      simp only [since, Option.map_some, step, out]
      split <;> rfl
    | offer e => simp only [since, Option.map_some, step, Gate.offer_since]
    | enter e => simp only [since, Option.map_some, step, Gate.push_since]
    | change c => rfl
    | handOut =>
      simp only [since, Option.map_some, step, Gate.handOut_since]
      cases gate.handOut <;> rfl
    | release =>
      cases worker with
      | none =>
        simp only [since, Option.map_some, step, out]
        split <;> rfl
      | some a => rfl
    | engage cancelled =>
      cases worker with
      | none =>
        simp only [since, Option.map_some, step, out]
        split <;> rfl
      | some a => rfl
    | work m =>
      cases worker with
      | none => rfl
      | some a =>
        simp only [since, Option.map_some, step, Shift.work_since]
        cases a.work gate a.phase m <;> rfl
    | cancel => cases worker <;> rfl

/-- A station goes through the same, with the same callbacks, whatever its gate counted before. -/
lemma Station.run_since {κ : Type} (st : Station κ) (base : Counters) (is : List (Input κ)) :
    (st.since base).run is = (st.run is).since base ∧ (st.since base).calls is = st.calls is := by
  induction is generalizing st with
  | nil => exact ⟨rfl, rfl⟩
  | cons i is ih =>
    obtain ⟨run, calls⟩ := ih (st.step i)
    refine ⟨?_, ?_⟩
    · show ((st.since base).step i).run is = _
      rw [step_since, run]
      rfl
    · rw [Station.calls, step_since, calls]
      rfl

end EventGates
