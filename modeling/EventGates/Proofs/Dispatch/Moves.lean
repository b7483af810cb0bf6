import EventGates.Dispatch.System
import EventGates.Proofs.Fabric.Gates
import EventGates.Proofs.Registry.Staging

/-!
# Moves of a system

Everything that happens to a fabric at work happens in moves, each at one instant: producers offer
events, dispatchers are handed out, let go of or put to work, tokens are cancelled, listeners change,
and each worker goes from one phase to the next. Moves of workers and of everybody else come in any
order, so what a callback does to the system while it is under way is any sequence of moves: when it
returns or panics, and at which signal it goes on, is left open.

`System.move` gives what a move leads to, and nothing if it cannot be made. It is made of the
operations of `System` and `Fabric`; only the order in which a worker goes through its phases is laid
down here.
-/

namespace EventGates

/-- What is done to a gate. -/
inductive GateMove where
  | offer (e : Event)
  /-- An offer that found the gate running before gets to the queue only now. -/
  | enter (e : Event)
  /-- The dispatcher is handed out. -/
  | handOut
  /-- A dispatcher that is not at work is dropped. -/
  | release
  /-- A dispatcher becomes a worker. -/
  | engage (t : TokenId)
  | change (c : Registry.Change ListenerId)

/-- What a worker does, or what is done to it. -/
inductive WorkerMove (κ : Type) where
  | begin
  /-- It takes the next event. -/
  | take
  /-- It finds no event and waits. -/
  | rest
  /-- It begins to deliver the event that it took. -/
  | deliver
  /-- It calls the next listener, which has `k` left to do. -/
  | call (k : κ)
  /-- The callback goes on, or is suspended, with `k` left to do. -/
  | proceed (k : κ)
  | returned
  | panicked (message : String)
  /-- It has called every listener. -/
  | complete
  /-- It finds its token cancelled, or is dropped. -/
  | stop
  /-- It is to be dropped as soon as it is waiting. -/
  | abort

/-- What is done to nothing but links, buses, tables and numbers. -/
inductive SideMove where
  | addBus (capacity : Nat)
  | publish (bus : Option BusId) (finding : Finding)
  | makeEvent (d : Draft)
  | link (a b : GateId)
  | unlink (a b : GateId)
  | unlinkAll (g : GateId)
  | addToken
  | addTable
  | register (t : TableId) (path : String) (h : Handler)
  | unregister (t : TableId) (path : String)

inductive Move (κ : Type) where
  | create (name : String) (capacity : Nat) (bus : Option BusId)
  /-- A gate that nothing holds goes away. -/
  | remove (g : GateId)
  | gate (g : GateId) (m : GateMove)
  | worker (w : WorkerId) (m : WorkerMove κ)
  | cancel (t : TokenId)
  | side (m : SideMove)

namespace Fabric

/-! ## Late offers, and changes of any kind -/

/-- Puts an event into the queue of a gate, without a look at whether the gate is running. -/
def enter (f : Fabric) (g : GateId) (e : Event) : Fabric :=
  match f.gates.find? g with
  | none => f
  | some gate =>
    let (gate, admission) := gate.push e
    let f := { f with gates := f.gates.insert g gate }
    match admission.kind? with
    | none => f
    | some kind => f.diagnose g kind (some e.typeName) none

/-- Makes a change to the listeners of a gate. -/
def changeListeners (f : Fabric) (g : GateId) : Registry.Change ListenerId → Fabric
  | .add x => (f.addListener g x).1
  | .remove x => (f.removeListener g x).1
  | .clear => f.clearListeners g

/-- A late offer changes the gate that it is made to. -/
lemma find?_enter (f : Fabric) (g x : GateId) (e : Event) :
    (f.enter g e).gates.find? x =
      if x = g then (f.gates.find? g).map fun gate => (gate.push e).1 else f.gates.find? x := by
  cases hg : f.gates.find? g with
  | none =>
    by_cases hx : x = g
    · simp [enter, hg, hx]
    · simp [enter, hg, hx]
  | some gate =>
    simp only [enter, hg]
    split <;> simp

@[simp] lemma nextGate_enter (f : Fabric) (g : GateId) (e : Event) :
    (f.enter g e).nextGate = f.nextGate := by
  simp only [enter]
  split
  · rfl
  · split <;> simp

/-- A change to the listeners of a gate changes that gate. -/
lemma find?_changeListeners (f : Fabric) (g x : GateId) (c : Registry.Change ListenerId) :
    (f.changeListeners g c).gates.find? x =
      if x = g then
        (f.gates.find? g).map fun gate => { gate with registry := gate.registry.change c }
      else f.gates.find? x := by
  cases c with
  | add y => exact f.find?_changeRegistry g x _
  | remove y => exact f.find?_changeRegistry g x _
  | clear => exact f.find?_updateGate g x _

@[simp] lemma nextGate_changeListeners (f : Fabric) (g : GateId)
    (c : Registry.Change ListenerId) : (f.changeListeners g c).nextGate = f.nextGate := by
  cases c with
  | add y => exact f.nextGate_changeRegistry g _
  | remove y => exact f.nextGate_changeRegistry g _
  | clear => rfl

end Fabric

/-- A worker in this phase is where it looks whether it is to stop. Between two callbacks it does
not. -/
def Phase.isWaiting {κ : Type} : Phase κ → Bool
  | .delivering d => d.callback.isSome
  | _ => true

namespace System

variable {κ : Type}

/-! ## Who serves a gate -/

/-- A worker serves the gate. -/
def isServed (s : System κ) (g : GateId) : Bool :=
  s.workers.keys.any fun w => (s.workers.find? w).any fun a => a.gate = g

/-- The dispatcher of the gate is handed out and not at work. -/
def isHeld (s : System κ) (g : GateId) : Bool :=
  (s.fabric.gates.find? g).any (·.handedOut) && !s.isServed g

/-! ## Moves -/

def moveGate (s : System κ) (g : GateId) : GateMove → Option (System κ)
  | .offer e => some (s.onFabric (·.offer g e))
  | .enter e => some (s.onFabric (·.enter g e))
  | .handOut => (s.fabric.handOut g).map fun fabric => { s with fabric }
  | .release => if s.isHeld g then some (s.onFabric (·.endDispatch g)) else none
  | .engage t => if s.isHeld g then some (s.addWorker g t).1 else none
  | .change c => some (s.onFabric (·.changeListeners g c))

/-- A worker may stop where it looks for it, once its token is cancelled or it is to be dropped. One
that never ran does not know its token. -/
def mayStop (s : System κ) (a : Worker κ) : Bool :=
  match a.phase with
  | .unstarted => a.aborted
  | phase => phase.isWaiting && s.isStopping a

def moveWorker (s : System κ) (w : WorkerId) (a : Worker κ) :
    Phase κ → WorkerMove κ → Option (System κ)
  | .unstarted, .begin => if a.aborted then none else some (s.begin w a)
  | .ready, .take => if s.isCancelled a.token then none else s.receive w a
  | .ready, .rest =>
    if s.isCancelled a.token || (s.receive w a).isSome then none else some (s.setPhase w .idle)
  | .idle, .take => if s.isStopping a then none else s.receive w a
  | .holding e, .deliver =>
    if s.isCancelled a.token then none else some (s.beginDelivery w a e)
  | .delivering ⟨e, none, _ :: xs⟩, .call k =>
    some (s.setPhase w (.delivering ⟨e, some k, xs⟩))
  | .delivering ⟨e, some _, xs⟩, .proceed k => some (s.setPhase w (.delivering ⟨e, some k, xs⟩))
  | .delivering ⟨e, some _, xs⟩, .returned => some (s.setPhase w (.delivering ⟨e, none, xs⟩))
  | .delivering ⟨e, some k, xs⟩, .panicked message =>
    some (s.panicked w a ⟨e, some k, xs⟩ message)
  | .delivering ⟨_, none, []⟩, .complete => some (s.completeDelivery w a)
  | _, .stop => if s.mayStop a then some (s.finish w a) else none
  | _, .abort => some (s.abort w)
  | _, _ => none

def moveSide (s : System κ) : SideMove → System κ
  | .addBus capacity => s.onFabric fun f => (f.addBus capacity).1
  | .publish bus finding => s.onFabric (·.publish bus finding)
  | .makeEvent d => s.onFabric fun f => (f.makeEvent d).1
  | .link a b => s.onFabric fun f =>
    match f.link a b with
    | .error _ => f
    | .ok (f, _) => f
  | .unlink a b => s.onFabric fun f => (f.unlink a b).1
  | .unlinkAll g => s.onFabric fun f => (f.unlinkAll g).1
  | .addToken => s.addToken.1
  | .addTable => s.addTable.1
  | .register t path h =>
    match s.register t path h with
    | .error _ => s
    | .ok s => s
  | .unregister t path => (s.unregister t path).1

/-- What a move leads to; none if it cannot be made. -/
def move (s : System κ) : Move κ → Option (System κ)
  | .create name capacity bus => some (s.onFabric fun f => (f.addGate { name, capacity, bus }).1)
  | .remove g =>
    if (s.fabric.gates.find? g).any (·.handedOut) then none else some (s.onFabric (·.removeGate g))
  | .gate g m => s.moveGate g m
  | .worker w m => (s.workers.find? w).bind fun a => s.moveWorker w a a.phase m
  | .cancel t => some (s.cancel t)
  | .side m => some (s.moveSide m)

/-- What is done to a gate changes that gate alone, or puts its dispatcher to work. -/
lemma moveGate_cases {s s' : System κ} {g : GateId} {m : GateMove}
    (made : s.moveGate g m = some s') :
    (∃ f, s' = { s with fabric := f } ∧ f.nextGate = s.fabric.nextGate ∧
      ∀ x, x ≠ g → f.gates.find? x = s.fabric.gates.find? x) ∨
    ∃ t, m = .engage t ∧ s.isHeld g = true ∧ s' = (s.addWorker g t).1 := by
  cases m with
  | offer e =>
    cases made
    refine .inl ⟨_, rfl, Fabric.nextGate_offer .., ?_⟩
    intro x ne
    rw [Fabric.find?_offer, if_neg ne]
  | enter e =>
    cases made
    refine .inl ⟨_, rfl, Fabric.nextGate_enter .., ?_⟩
    intro x ne
    rw [Fabric.find?_enter, if_neg ne]
  | change c =>
    cases made
    refine .inl ⟨_, rfl, Fabric.nextGate_changeListeners .., ?_⟩
    intro x ne
    rw [Fabric.find?_changeListeners, if_neg ne]
  | handOut =>
    simp only [moveGate, Option.map_eq_some_iff] at made
    obtain ⟨f, out, rfl⟩ := made
    obtain ⟨_, gate, _, _, rfl⟩ := Fabric.handOut_eq_some out
    refine .inl ⟨_, rfl, rfl, ?_⟩
    intro x ne
    rw [Table.find?_insert, if_neg ne]
  | release =>
    simp only [moveGate] at made
    split at made
    · cases made
      refine .inl ⟨_, rfl, Fabric.nextGate_endDispatch .., ?_⟩
      intro x ne
      rw [Fabric.find?_endDispatch, if_neg ne]
    · cases made
  | engage t =>
    simp only [moveGate] at made
    split at made
    · next held =>
      cases made
      exact .inr ⟨t, rfl, held, rfl⟩
    · cases made

end System

end EventGates
