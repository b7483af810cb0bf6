/-!
# Counters of a gate

Each event that is offered to a gate is counted once, as accepted or as dropped. Deliveries that ran
to their end and panics of listeners are counted beside.

A running system counts in words of 64 bits, and so it numbers its gates, events and records. Here they
are natural numbers: that a count comes round to zero after 2^64 steps is taken as out of reach.
-/

namespace EventGates

/-- What a gate counts. -/
structure Counters where
  accepted : Nat := 0
  droppedFull : Nat := 0
  droppedIdle : Nat := 0
  delivered : Nat := 0
  listenerPanics : Nat := 0
deriving DecidableEq, Repr

/-- All dropped events. -/
def Counters.dropped (c : Counters) : Nat := c.droppedFull + c.droppedIdle

end EventGates
