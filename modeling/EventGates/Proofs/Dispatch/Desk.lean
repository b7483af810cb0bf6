import EventGates.Proofs.Dispatch.Chronicle
import EventGates.Proofs.Gate.Queue

/-!
# Desks

A move changes one gate at most. What there is to say about a gate is on its desk: the gate itself,
the worker that serves it with the phase that it is in, and the ledger. `Desk.Step` lists what can
happen at a desk. It leaves out everything that does not matter there: other gates, tokens, the
numbers of events, and what callbacks have left to do.

A sound chronicle shows a desk for each gate. Where two chronicles differ at one gate and its worker
alone, the lemmas `Sound.passes_of_…` turn a step at that desk into one at each: all others stay as
they are.
-/

namespace EventGates

/-- What there is to say about a gate. -/
structure Desk (κ : Type) where
  gate : Option Gate := none
  worker : Option (WorkerId × Phase κ) := none
  ledger : Ledger := {}

/-- A worker may take an event. -/
def Phase.isFree {κ : Type} : Phase κ → Bool
  | .ready => true
  | .idle => true
  | _ => false

/-- What becomes of a gate when its worker stops in a phase: a delivery is ended. -/
def Phase.leave {κ : Type} : Phase κ → Gate → Gate
  | .delivering _, gate => gate.endDelivery
  | _, gate => gate

namespace Desk

variable {κ : Type}

/-- What can happen at a desk. -/
inductive Step : Desk κ → Desk κ → Prop where
  | stay {d : Desk κ} : Step d d
  | create {l : Ledger} (name : String) (capacity : Nat) (bus : Option BusId) :
    Step ⟨none, none, l⟩ ⟨some { name, capacity, bus }, none, {}⟩
  | remove {gate : Gate} {worker : Option (WorkerId × Phase κ)} {l : Ledger} :
    gate.handedOut = false →
    Step ⟨some gate, worker, l⟩ ⟨none, worker, l⟩
  | offer {gate : Gate} {worker : Option (WorkerId × Phase κ)} {l : Ledger} (e : Event) :
    Step ⟨some gate, worker, l⟩ ⟨some (gate.offer e).1, worker, l.offered e (gate.offer e).2⟩
  | enter {gate : Gate} {worker : Option (WorkerId × Phase κ)} {l : Ledger} (e : Event) :
    Step ⟨some gate, worker, l⟩ ⟨some (gate.push e).1, worker, l.offered e (gate.push e).2⟩
  | change {gate : Gate} {worker : Option (WorkerId × Phase κ)} {l : Ledger}
    (c : Registry.Change ListenerId) :
    Step ⟨some gate, worker, l⟩
      ⟨some { gate with registry := gate.registry.change c }, worker, l.changed c⟩
  | handOut {gate gate' : Gate} {worker : Option (WorkerId × Phase κ)} {l : Ledger} :
    gate.handOut = some gate' →
    Step ⟨some gate, worker, l⟩ ⟨some gate', worker, l.handedOut gate.queue⟩
  | release {gate : Gate} {l : Ledger} :
    gate.handedOut = true →
    Step ⟨some gate, none, l⟩ ⟨some gate.close.drain.takeBack, none, l.ended gate.queue⟩
  | engage {gate : Gate} {l : Ledger} (w : WorkerId) :
    gate.handedOut = true →
    Step ⟨some gate, none, l⟩ ⟨some gate, some (w, .unstarted), l⟩
  | begin {gate : Gate} {w : WorkerId} {l : Ledger} :
    Step ⟨some gate, some (w, .unstarted), l⟩ ⟨some gate, some (w, .ready), l⟩
  | rest {gate : Gate} {w : WorkerId} {l : Ledger} :
    Step ⟨some gate, some (w, .ready), l⟩ ⟨some gate, some (w, .idle), l⟩
  | take {gate gate' : Gate} {w : WorkerId} {phase : Phase κ} {l : Ledger} {e : Event} :
    phase.isFree = true →
    gate.pop = some (e, gate') →
    Step ⟨some gate, some (w, phase), l⟩ ⟨some gate', some (w, .holding e), l.taken e⟩
  | deliver {gate : Gate} {w : WorkerId} {l : Ledger} {e : Event} :
    Step ⟨some gate, some (w, .holding e), l⟩
      ⟨some gate.beginDelivery, some (w, .delivering ⟨e, none, gate.registry.live⟩),
        l.begun gate.registry.live⟩
  | call {gate : Gate} {w : WorkerId} {l : Ledger} {e : Event} {x : ListenerId}
    {xs : List ListenerId} (k : κ) :
    Step ⟨some gate, some (w, .delivering ⟨e, none, x :: xs⟩), l⟩
      ⟨some gate, some (w, .delivering ⟨e, some k, xs⟩), l.called x e⟩
  | proceed {gate : Gate} {w : WorkerId} {l : Ledger} {e : Event} {xs : List ListenerId} {k : κ}
    (callback : Option κ) :
    Step ⟨some gate, some (w, .delivering ⟨e, some k, xs⟩), l⟩
      ⟨some gate, some (w, .delivering ⟨e, callback, xs⟩), l⟩
  | panicked {gate : Gate} {w : WorkerId} {l : Ledger} {e : Event} {xs : List ListenerId} {k : κ} :
    Step ⟨some gate, some (w, .delivering ⟨e, some k, xs⟩), l⟩
      ⟨some gate.countPanic, some (w, .delivering ⟨e, none, xs⟩), l⟩
  | complete {gate : Gate} {w : WorkerId} {l : Ledger} {e : Event} :
    Step ⟨some gate, some (w, .delivering ⟨e, none, []⟩), l⟩
      ⟨some gate.countDelivered.endDelivery, some (w, .ready), l.completed⟩
  | stop {gate : Gate} {w : WorkerId} {phase : Phase κ} {l : Ledger} :
    phase.isWaiting = true →
    Step ⟨some gate, some (w, phase), l⟩
      ⟨some (phase.leave gate).close.drain.takeBack, none, l.ended gate.queue⟩

/-- A worker serves a gate whose queue is handed out. -/
def Served (d : Desk κ) : Prop :=
  d.worker.isSome = true → ∃ gate, d.gate = some gate ∧ gate.handedOut = true

/-- A worker at a gate that is there has its queue. -/
lemma served_some {gate : Gate} {worker : Option (WorkerId × Phase κ)} {l : Ledger} :
    Served ⟨some gate, worker, l⟩ ↔ (worker.isSome = true → gate.handedOut = true) := by
  simp [Served]

/-- Who serves a gate does so until it stops. -/
lemma Step.served {d d' : Desk κ} (step : d.Step d') (served : d.Served) : d'.Served := by
  cases step with
  | stay => exact served
  | create => exact nofun
  | remove out =>
    intro busy
    rw [served_some.mp served busy] at out
    cases out
  | offer e =>
    rw [served_some, Gate.handedOut_offer]
    exact served_some.mp served
  | enter e =>
    rw [served_some, Gate.handedOut_push]
    exact served_some.mp served
  | change c =>
    have held := served_some.mp served
    exact served_some.mpr held
  | handOut out =>
    obtain ⟨_, rfl⟩ := Gate.handOut_eq_some out
    exact served_some.mpr fun _ => rfl
  | release => exact nofun
  | engage w out => exact served_some.mpr fun _ => out
  | take _ taken =>
    have held := served_some.mp served rfl
    obtain ⟨es, _, rfl⟩ := Gate.pop_eq_some taken
    exact served_some.mpr fun _ => held
  | stop => exact nofun
  | _ =>
    have held := served_some.mp served rfl
    exact served_some.mpr fun _ => held

/-- Who stops serving a gate gives its queue back. -/
lemma Step.freed {gate gate' : Gate} {served : WorkerId × Phase κ} {l l' : Ledger}
    (step : Step ⟨some gate, some served, l⟩ ⟨some gate', none, l'⟩) : gate'.handedOut = false := by
  cases step with
  | stop => rfl

end Desk

/-! ## Systems that differ at one gate -/

namespace System

variable {κ : Type}

/-- Two systems have the same gates and workers. -/
structure Alike (s s' : System κ) : Prop where
  gates : ∀ x, s'.fabric.gates.find? x = s.fabric.gates.find? x
  workers : s'.workers = s.workers
  nextGate : s'.fabric.nextGate = s.fabric.nextGate
  nextWorker : s'.nextWorker = s.nextWorker

/-- The gate `g` becomes `gate'`, and no other gate and no worker changes. -/
structure GateTurns (s s' : System κ) (g : GateId) (gate' : Option Gate) : Prop where
  gates : ∀ x, s'.fabric.gates.find? x = if x = g then gate' else s.fabric.gates.find? x
  workers : s'.workers = s.workers
  nextGate : s.fabric.nextGate ≤ s'.fabric.nextGate
  nextWorker : s'.nextWorker = s.nextWorker

/-- The gate `g` becomes `gate'` and its worker, which has the number `w`, becomes `after`, and no
other gate or worker changes. -/
structure WorkerTurns (s s' : System κ) (g : GateId) (gate' : Gate) (w : WorkerId)
    (after : Option (Worker κ)) : Prop where
  gates : ∀ x, s'.fabric.gates.find? x = if x = g then some gate' else s.fabric.gates.find? x
  workers : ∀ x, s'.workers.find? x = if x = w then after else s.workers.find? x
  own : ∀ b, after = some b → b.gate = g
  nextGate : s'.fabric.nextGate = s.fabric.nextGate
  nextWorker : s.nextWorker ≤ s'.nextWorker

end System

/-! ## Chronicles with desks -/

namespace Chronicle

variable {κ : Type}

/-- The chronicle has this desk for a gate. -/
structure Shows (c : Chronicle κ) (g : GateId) (d : Desk κ) : Prop where
  gate : c.system.fabric.gates.find? g = d.gate
  ledger : c.ledgers g = d.ledger
  worker : ∀ w phase, d.worker = some (w, phase) ↔
    ∃ a, c.system.workers.find? w = some a ∧ a.gate = g ∧ a.phase = phase

/-- There is a desk for each gate, and the numbers of new gates and workers are not in use. -/
structure Sound (c : Chronicle κ) : Prop where
  desk : ∀ g, ∃ d, c.Shows g d ∧ d.Served
  newGate : ∀ g, c.system.fabric.nextGate ≤ g → c.system.fabric.gates.find? g = none
  newWorker : ∀ w, c.system.nextWorker ≤ w → c.system.workers.find? w = none

/-- What happens between two chronicles is a step at each desk. -/
structure Passes (c c' : Chronicle κ) : Prop where
  sound : c'.Sound
  step : ∀ g d, c.Shows g d → ∃ d', c'.Shows g d' ∧ d.Step d'

variable {c c' : Chronicle κ} {g : GateId} {d d' : Desk κ}

/-- A system without gates has blank desks. -/
lemma shows_start (g : GateId) : Shows {} g ({} : Desk κ) := ⟨rfl, rfl, by simp⟩

lemma sound_start : Sound ({} : Chronicle κ) where
  desk g := ⟨{}, shows_start g, nofun⟩
  newGate _ _ := rfl
  newWorker _ _ := rfl

/-- A gate has one desk. -/
lemma Shows.unique (shows : c.Shows g d) (shows' : c.Shows g d') : d = d' := by
  obtain ⟨gate, worker, l⟩ := d
  obtain ⟨gate', worker', l'⟩ := d'
  have gates : gate = gate' := shows.gate.symm.trans shows'.gate
  have ledgers : l = l' := shows.ledger.symm.trans shows'.ledger
  have workers : worker = worker' := by
    apply Option.ext
    rintro ⟨w, phase⟩
    exact (shows.worker w phase).trans (shows'.worker w phase).symm
  rw [gates, workers, ledgers]

namespace Sound

/-- A gate that is there has an old number. -/
lemma gate_lt (h : Sound c) {gate : Gate} (there : c.system.fabric.gates.find? g = some gate) :
    g < c.system.fabric.nextGate := by
  by_contra old
  rw [h.newGate g (Nat.le_of_not_lt old)] at there
  cases there

/-- A worker that is there has an old number. -/
lemma worker_lt (h : Sound c) {w : WorkerId} {a : Worker κ}
    (found : c.system.workers.find? w = some a) : w < c.system.nextWorker := by
  by_contra old
  rw [h.newWorker w (Nat.le_of_not_lt old)] at found
  cases found

/-- A step at one desk is one at each, if the others are as they were. -/
lemma passes_of_turn (h : Sound c) (shows : c.Shows g d) (step : d.Step d')
    (here : c'.Shows g d') (elsewhere : ∀ x e, x ≠ g → c.Shows x e → c'.Shows x e)
    (newGate : ∀ x, c'.system.fabric.nextGate ≤ x → c'.system.fabric.gates.find? x = none)
    (newWorker : ∀ w, c'.system.nextWorker ≤ w → c'.system.workers.find? w = none) :
    c.Passes c' := by
  have step : ∀ x e, c.Shows x e → ∃ e', c'.Shows x e' ∧ e.Step e' := by
    intro x e other
    by_cases hx : x = g
    · subst hx
      cases other.unique shows
      exact ⟨d', here, step⟩
    · exact ⟨e, elsewhere x e hx other, .stay⟩
  refine ⟨⟨?_, newGate, newWorker⟩, step⟩
  intro x
  obtain ⟨e, other, served⟩ := h.desk x
  obtain ⟨e', other', turn⟩ := step x e other
  exact ⟨e', other', turn.served served⟩

/-- Nothing changes at any desk. -/
lemma passes_of_alike (h : Sound c) (alike : c.system.Alike c'.system)
    (ledgers : c'.ledgers = c.ledgers) : c.Passes c' := by
  have same : ∀ x e, c.Shows x e → c'.Shows x e := by
    intro x e shows
    refine ⟨(alike.gates x).trans shows.gate, ?_, ?_⟩
    · rw [ledgers]
      exact shows.ledger
    · rw [alike.workers]
      exact shows.worker
  obtain ⟨d, shows, served⟩ := h.desk 0
  refine h.passes_of_turn shows .stay (same _ _ shows) (fun x e _ => same x e) ?_ ?_
  · intro x hx
    rw [alike.gates]
    exact h.newGate x (alike.nextGate ▸ hx)
  · intro w hw
    rw [alike.workers]
    exact h.newWorker w (alike.nextWorker ▸ hw)

/-- One desk changes, but for its worker. -/
lemma passes_of_gateTurns (h : Sound c) (shows : c.Shows g d) (step : d.Step d')
    (turns : c.system.GateTurns c'.system g d'.gate)
    (ledgers : c'.ledgers = Function.update c.ledgers g d'.ledger)
    (worker : d'.worker = d.worker) (old : g < c'.system.fabric.nextGate) : c.Passes c' := by
  refine h.passes_of_turn shows step ⟨?_, ?_, ?_⟩ ?_ ?_ ?_
  · rw [turns.gates, if_pos rfl]
  · rw [ledgers, Function.update_self]
  · rw [worker, turns.workers]
    exact shows.worker
  · intro x e hx other
    refine ⟨?_, ?_, ?_⟩
    · rw [turns.gates, if_neg hx]
      exact other.gate
    · rw [ledgers, Function.update_of_ne hx]
      exact other.ledger
    · rw [turns.workers]
      exact other.worker
  · intro x hx
    have ne : x ≠ g := Nat.ne_of_gt (Nat.lt_of_lt_of_le old hx)
    rw [turns.gates, if_neg ne]
    exact h.newGate x (Nat.le_trans turns.nextGate hx)
  · intro w hw
    rw [turns.workers]
    exact h.newWorker w (turns.nextWorker ▸ hw)

/-- One desk changes, whose worker has the number `w`, before if there was one and after if there
is. -/
lemma passes_of_workerTurns (h : Sound c) (shows : c.Shows g d) (step : d.Step d')
    {gate' : Gate} {w : WorkerId} {before after : Option (Worker κ)}
    (turns : c.system.WorkerTurns c'.system g gate' w after) (gate : d'.gate = some gate')
    (ledgers : c'.ledgers = Function.update c.ledgers g d'.ledger)
    (found : c.system.workers.find? w = before) (own : ∀ a, before = some a → a.gate = g)
    (was : d.worker = before.map fun a => (w, a.phase))
    (becomes : d'.worker = after.map fun a => (w, a.phase))
    (old : g < c.system.fabric.nextGate) (oldWorker : w < c'.system.nextWorker) :
    c.Passes c' := by
  refine h.passes_of_turn shows step ⟨?_, ?_, ?_⟩ ?_ ?_ ?_
  · rw [turns.gates, if_pos rfl, gate]
  · rw [ledgers, Function.update_self]
  · intro v phase
    rw [becomes, turns.workers]
    by_cases hv : v = w
    · subst hv
      simp only [Option.map_eq_some_iff, Prod.mk.injEq, true_and, if_true]
      constructor
      · rintro ⟨a, rfl, rfl⟩
        exact ⟨a, rfl, turns.own a rfl, rfl⟩
      · rintro ⟨a, rfl, _, rfl⟩
        exact ⟨a, rfl, rfl⟩
    · -- no other worker serves this gate, before or after
      have none : ¬∃ a, c.system.workers.find? v = some a ∧ a.gate = g ∧ a.phase = phase := by
        rw [← shows.worker, was]
        simp [Ne.symm hv]
      simp only [if_neg hv, none, iff_false]
      simp [Ne.symm hv]
  · intro x e hx other
    refine ⟨?_, ?_, ?_⟩
    · rw [turns.gates, if_neg hx]
      exact other.gate
    · rw [ledgers, Function.update_of_ne hx]
      exact other.ledger
    · intro v phase
      rw [other.worker, turns.workers]
      by_cases hv : v = w
      · subst hv
        rw [found, if_pos rfl]
        constructor
        · rintro ⟨a, rfl, rfl, _⟩
          exact absurd (own a rfl) hx
        · rintro ⟨a, rfl, rfl, _⟩
          exact absurd (turns.own a rfl) hx
      · rw [if_neg hv]
  · intro x hx
    rw [turns.nextGate] at hx
    have ne : x ≠ g := Nat.ne_of_gt (Nat.lt_of_lt_of_le old hx)
    rw [turns.gates, if_neg ne]
    exact h.newGate x hx
  · intro v hv
    have ne : v ≠ w := Nat.ne_of_gt (Nat.lt_of_lt_of_le oldWorker hv)
    rw [turns.workers, if_neg ne]
    exact h.newWorker v (Nat.le_trans turns.nextWorker hv)

end Sound

end Chronicle

end EventGates
