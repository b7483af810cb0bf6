import EventGates.Diagnostics.Record

/-!
# Diagnostics buses

A bus keeps the latest records, as many as its capacity. A subscriber reads the records published
after it subscribed in their order; one that fell behind is told how many it lost and goes on with
the oldest record kept.
-/

namespace EventGates

/-- A bus with everything published on it, the latest record first. -/
structure Bus where
  /-- How many records are kept. -/
  capacity : Nat
  history : List Diagnostic := []

/-- What a subscriber finds. -/
inductive Reading where
  | record (d : Diagnostic)
  | lagged (lost : Nat)
deriving DecidableEq, Repr

namespace Bus

/-- Records are kept in a ring whose size is a power of two. -/
def ringSize (capacity : Nat) : Nat := (max capacity 1).nextPowerOfTwo

def ofCapacity (capacity : Nat) : Bus := { capacity := ringSize capacity }

/-- The capacity of a bus that is given no other. -/
def defaultCapacity : Nat := 1024

/-- How many records were published. -/
def sent (b : Bus) : Nat := b.history.length

def publish (b : Bus) (d : Diagnostic) : Bus := { b with history := d :: b.history }

/-- Everything published, the earliest record first. -/
def published (b : Bus) : List Diagnostic := b.history.reverse

/-- What a subscriber finds that has read the first `next` records. -/
def unread (b : Bus) (next : Nat) : List Reading :=
  let due := b.sent - next
  let lost := due - b.capacity
  let kept := ((b.history.take (due - lost)).reverse).map Reading.record
  if lost = 0 then kept else .lagged lost :: kept

end Bus

end EventGates
