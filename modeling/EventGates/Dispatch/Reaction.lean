import EventGates.Dispatch.System

/-!
# Listeners that return at once

Where no listener is ever suspended, a listener is a function that reacts to an event by a change
of the fabric and of a state that the listeners share. A worker then goes on until the queue of
its gate is empty or its token is cancelled.
-/

namespace EventGates

/-- What listeners do when they are called. -/
abbrev Reaction (σ : Type) := ListenerId → Event → σ × Fabric → σ × Fabric

namespace System

variable {σ : Type} (react : Reaction σ)

/-- One step of a delivery. -/
def reactDelivery (t : σ) (s : System Empty) (w : WorkerId) (worker : Worker Empty)
    (d : Delivery Empty) : σ × System Empty :=
  match d.remaining with
  | [] => (t, s.completeDelivery w worker)
  | x :: xs =>
    let (t, fabric) := react x d.event (t, s.fabric)
    (t, { s with fabric }.setPhase w (.delivering { d with remaining := xs }))

/-- One step of a worker, none if it has to wait. -/
def reactStep (t : σ) (s : System Empty) (w : WorkerId) (worker : Worker Empty) :
    Option (σ × System Empty) :=
  match worker.phase with
  | .unstarted => some (t, if worker.aborted then s.finish w worker else s.begin w worker)
  | .ready =>
    some (t,
      if s.isCancelled worker.token then s.finish w worker
      else (s.receive w worker).getD (s.setPhase w .idle))
  | .idle =>
    if s.isStopping worker then some (t, s.finish w worker)
    else (s.receive w worker).map (t, ·)
  | .holding e =>
    some (t,
      if s.isCancelled worker.token then s.finish w worker else s.beginDelivery w worker e)
  | .delivering d => some (s.reactDelivery react t w worker d)

/-- Lets the workers make so many steps at most, until all of them have to wait. -/
def reactWithin : Nat → σ × System Empty → σ × System Empty
  | 0, ts => ts
  | steps + 1, (t, s) =>
    match s.workers.entries.findSome? fun (w, worker) => s.reactStep react t w worker with
    | none => (t, s)
    | some ts => reactWithin steps ts

end System

end EventGates
