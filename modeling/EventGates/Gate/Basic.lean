import EventGates.Event.Basic
import EventGates.Gate.Counters
import EventGates.Gate.Registry

/-!
# Gates

A gate has a queue of fixed capacity and the listeners that its dispatcher calls for each event of
the queue. The receiving end of the queue is either in the gate or handed out to the one dispatcher;
only while the gate is marked running are events let into the queue.

The operations here are the ones that happen at one instant: offering an event, handing the queue
out, and the three steps in which a dispatcher lets go of it.
-/

namespace EventGates

abbrev GateId := Nat

abbrev BusId := Nat

abbrev ListenerId := Nat

/-- What becomes of an event that is offered to a gate. -/
inductive Admission where
  | accepted
  | overflow
  | idle
deriving DecidableEq, Repr

/-- A gate without its links. -/
structure Gate where
  name : String
  /-- Slots of the queue, at least one. -/
  capacity : Nat
  /-- Where its diagnostics are published. -/
  bus : Option BusId := none
  running : Bool := false
  /-- The receiving end of the queue is with a dispatcher. -/
  handedOut : Bool := false
  queue : List Event := []
  counters : Counters := {}
  registry : Registry ListenerId := {}

namespace Gate

/-! ## Offering events -/

/-- Puts an event into the queue, if a slot is free. -/
def push (g : Gate) (e : Event) : Gate × Admission :=
  if g.queue.length < g.capacity then
    ({ g with
        queue := g.queue ++ [e]
        counters := { g.counters with accepted := g.counters.accepted + 1 } }, .accepted)
  else
    ({ g with
        counters := { g.counters with droppedFull := g.counters.droppedFull + 1 } }, .overflow)

/-- Drops an event for want of a dispatcher. -/
def dropIdle (g : Gate) : Gate :=
  { g with counters := { g.counters with droppedIdle := g.counters.droppedIdle + 1 } }

/-- Offers an event. -/
def offer (g : Gate) (e : Event) : Gate × Admission :=
  if g.running then g.push e else (g.dropIdle, .idle)

/-! ## Handing the queue out -/

/-- Hands out the receiving end, with whatever is in the queue discarded; none if it is handed out
already. -/
def handOut (g : Gate) : Option Gate :=
  if g.handedOut then none else some { g with queue := [], running := true, handedOut := true }

/-- The dispatcher, on its end, lets no more events in. -/
def close (g : Gate) : Gate := { g with running := false }

/-- It discards what is left in the queue. -/
def drain (g : Gate) : Gate := { g with queue := [] }

/-- It gives the receiving end back. -/
def takeBack (g : Gate) : Gate := { g with handedOut := false }

/-! ## Delivering events -/

/-- Takes the oldest event out of the queue. -/
def pop (g : Gate) : Option (Event × Gate) :=
  match g.queue with
  | [] => none
  | e :: es => some (e, { g with queue := es })

def beginDelivery (g : Gate) : Gate := { g with registry := g.registry.beginDelivery }

def endDelivery (g : Gate) : Gate := { g with registry := g.registry.endDelivery }

/-- Counts a delivery that ran to its end. -/
def countDelivered (g : Gate) : Gate :=
  { g with counters := { g.counters with delivered := g.counters.delivered + 1 } }

/-- Counts a listener that panicked. -/
def countPanic (g : Gate) : Gate :=
  { g with counters := { g.counters with listenerPanics := g.counters.listenerPanics + 1 } }

end Gate

end EventGates
