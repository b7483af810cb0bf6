/-!
# Listener registries

A registry lists the listeners of a gate in the order in which they came, each once. While an event
is being delivered, additions and removals are staged; when the delivery ends the staged additions
are made in order, then the staged removals.
-/

namespace EventGates

/-- What became of a change to a registry. -/
inductive Mutation where
  | applied
  | staged
  | unchanged
deriving DecidableEq, Repr

def Mutation.label : Mutation → String
  | .applied => "applied"
  | .staged => "staged"
  | .unchanged => "unchanged"

/-- The listeners of a gate. -/
structure Registry (α : Type) where
  live : List α := []
  /-- An event is being delivered. -/
  delivering : Bool := false
  pendingAdds : List α := []
  pendingRemoves : List α := []
deriving DecidableEq, Repr

namespace Registry

variable {α : Type} [DecidableEq α]

/-- Puts a listener at the end, unless it is there. -/
def enlist (live : List α) (x : α) : List α := if x ∈ live then live else live ++ [x]

def delist (live : List α) (x : α) : List α := live.filter (· ≠ x)

def add (r : Registry α) (x : α) : Registry α × Mutation :=
  if r.delivering then ({ r with pendingAdds := r.pendingAdds ++ [x] }, .staged)
  else if x ∈ r.live then (r, .unchanged)
  else ({ r with live := r.live ++ [x] }, .applied)

def remove (r : Registry α) (x : α) : Registry α × Mutation :=
  if r.delivering then ({ r with pendingRemoves := r.pendingRemoves ++ [x] }, .staged)
  else if x ∈ r.live then ({ r with live := delist r.live x }, .applied)
  else (r, .unchanged)

/-- Drops every listener and every staged addition. -/
def clear (r : Registry α) : Registry α := { r with live := [], pendingAdds := [] }

def size (r : Registry α) : Nat := r.live.length

/-- Begins a delivery; the listeners to call are the live ones. -/
def beginDelivery (r : Registry α) : Registry α := { r with delivering := true }

/-- Ends a delivery and makes the staged changes. -/
def endDelivery (r : Registry α) : Registry α :=
  { live := (r.pendingAdds.foldl enlist r.live).filter fun x => x ∉ r.pendingRemoves }

end Registry

end EventGates
