import EventGates.Proofs.Dispatch.Moves
import Mathlib.Logic.Function.Basic

/-!
# Chronicles

A chronicle is a system with a ledger for each gate. The ledger writes down what the system itself
does not keep: the events that were accepted, in that order; those that left the queue again, and
how; for each event that a worker took, the listeners that were live when its delivery began and
those that were called; and every single callback. An entry is made from the system before the move
and does not change what the move does.

`Chronicle.run` makes moves one after the other, from a system without gates. A move that cannot be
made is skipped. That scripts do nothing to their systems but such moves is
`Script.Session.exists_run`.
-/

namespace EventGates

/-- A callback as it was made. -/
structure Call where
  listener : ListenerId
  event : Event

/-- An event that a worker took, and its delivery. -/
structure Passage where
  /-- How many accepted events had left the queue before. -/
  entry : Nat
  event : Event
  /-- The live listeners when the delivery began, if it did. -/
  snapshot : Option (List ListenerId) := none
  /-- The listeners that were called, in order. -/
  called : List ListenerId := []
  /-- The delivery ran to its end. -/
  completed : Bool := false

/-- The history of a gate. -/
structure Ledger where
  attempts : Nat := 0
  /-- The events that were let into the queue, in order. -/
  accepted : List Event := []
  /-- Those of them that left the queue, in order. -/
  gone : List Event := []
  /-- How many were discarded when a dispatcher let go of the queue. -/
  discardedAtEnd : Nat := 0
  /-- How many were discarded when the dispatcher was handed out. -/
  discardedAtHandOut : Nat := 0
  /-- The events that were taken and are not being delivered any more, in order. -/
  finished : List Passage := []
  /-- The event that is being delivered. -/
  current : Option Passage := none
  calls : List Call := []
  /-- The listeners that were added, as often as they were, in order. -/
  added : List ListenerId := []

/-- The callbacks of a delivery. -/
def Passage.calls (p : Passage) : List Call := p.called.map fun x => ⟨x, p.event⟩

namespace Ledger

/-- Every event that was taken. -/
def passages (l : Ledger) : List Passage := l.finished ++ l.current.toList

/-- How many events were taken and then not delivered to the end. -/
def abandoned (l : Ledger) : Nat := l.finished.countP fun p => !p.completed

/-! ## Entries -/

def offered (l : Ledger) (e : Event) : Admission → Ledger
  | .accepted => { l with attempts := l.attempts + 1, accepted := l.accepted ++ [e] }
  | _ => { l with attempts := l.attempts + 1 }

def changed (l : Ledger) (c : Registry.Change ListenerId) : Ledger :=
  { l with added := l.added ++ Registry.additions [c] }

/-- The dispatcher is handed out and a queue discarded. -/
def handedOut (l : Ledger) (queue : List Event) : Ledger :=
  { l with gone := l.gone ++ queue, discardedAtHandOut := l.discardedAtHandOut + queue.length }

/-- A dispatcher lets go of a queue, and of the event that it was delivering. -/
def ended (l : Ledger) (queue : List Event) : Ledger :=
  { l with
    gone := l.gone ++ queue
    discardedAtEnd := l.discardedAtEnd + queue.length
    finished := l.passages
    current := none }

def taken (l : Ledger) (e : Event) : Ledger :=
  { l with gone := l.gone ++ [e], current := some { entry := l.gone.length, event := e } }

/-- The delivery to the live listeners begins. -/
def begun (l : Ledger) (live : List ListenerId) : Ledger :=
  { l with current := l.current.map fun p => { p with snapshot := some live } }

def called (l : Ledger) (x : ListenerId) (e : Event) : Ledger :=
  { l with
    current := l.current.map fun p => { p with called := p.called ++ [x] }
    calls := l.calls ++ [⟨x, e⟩] }

/-- The delivery ran to its end. -/
def completed (l : Ledger) : Ledger :=
  { l with
    finished := l.finished ++ (l.current.map fun p => { p with completed := true }).toList
    current := none }

end Ledger

/-- The entry about what is done to a gate. -/
def GateMove.note (gate : Gate) (l : Ledger) : GateMove → Ledger
  | .offer e => l.offered e (gate.offer e).2
  | .enter e => l.offered e (gate.push e).2
  | .handOut => l.handedOut gate.queue
  | .release => l.ended gate.queue
  | .engage _ => l
  | .change c => l.changed c

/-- The entry about what a worker of a gate does. -/
def WorkerMove.note {κ : Type} (gate : Gate) (l : Ledger) : Phase κ → WorkerMove κ → Ledger
  | _, .take =>
    match gate.queue with
    | [] => l
    | e :: _ => l.taken e
  | _, .deliver => l.begun gate.registry.live
  | .delivering ⟨e, _, x :: _⟩, .call _ => l.called x e
  | _, .complete => l.completed
  | _, .stop => l.ended gate.queue
  | _, _ => l

/-- A system and the histories of its gates. -/
structure Chronicle (κ : Type) where
  system : System κ := {}
  ledgers : GateId → Ledger := fun _ => {}

namespace Chronicle

variable {κ : Type}

/-- The ledgers with an entry for a gate. -/
def entry (c : Chronicle κ) (g : GateId) (note : Gate → Ledger → Ledger) : GateId → Ledger :=
  match c.system.fabric.gates.find? g with
  | none => c.ledgers
  | some gate => Function.update c.ledgers g (note gate (c.ledgers g))

/-- The ledgers after a move. -/
def noted (c : Chronicle κ) : Move κ → GateId → Ledger
  | .create .. => Function.update c.ledgers c.system.fabric.nextGate {}
  | .gate g m => c.entry g fun gate l => m.note gate l
  | .worker w m =>
    match c.system.workers.find? w with
    | none => c.ledgers
    | some a => c.entry a.gate fun gate l => m.note gate l a.phase
  | _ => c.ledgers

/-- Makes a move, if it can be made. -/
def next (c : Chronicle κ) (m : Move κ) : Chronicle κ :=
  match c.system.move m with
  | none => c
  | some system => { system, ledgers := c.noted m }

lemma next_of_made {c : Chronicle κ} {m : Move κ} {s : System κ} (made : c.system.move m = some s) :
    c.next m = { system := s, ledgers := c.noted m } := by
  simp only [next, made]

lemma next_of_refused {c : Chronicle κ} {m : Move κ} (refused : c.system.move m = none) :
    c.next m = c := by
  simp only [next, refused]

/-- Makes moves from where they can be made. -/
def runFrom (c : Chronicle κ) (ms : List (Move κ)) : Chronicle κ := ms.foldl next c

/-- Makes moves in a system without gates. -/
def run (ms : List (Move κ)) : Chronicle κ := runFrom {} ms

lemma run_append (ms ms' : List (Move κ)) : run (ms ++ ms') = (run ms).runFrom ms' :=
  List.foldl_append

lemma runFrom_append (c : Chronicle κ) (ms ms' : List (Move κ)) :
    c.runFrom (ms ++ ms') = (c.runFrom ms).runFrom ms' :=
  List.foldl_append

/-- A run goes on with one more move. -/
lemma run_concat (ms : List (Move κ)) (m : Move κ) : run (ms ++ [m]) = (run ms).next m := by
  simp only [run, runFrom, List.foldl_append, List.foldl_cons, List.foldl_nil]

end Chronicle

end EventGates
