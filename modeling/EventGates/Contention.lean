import EventGates.Fabric.Basic

/-!
# Contention

Several threads work on the same gates at once. In each of its rounds a thread picks two gates and
does to them what the workload says. The tally taken at the end is the same for every interleaving
of the threads, so here they work one after the other.
-/

namespace EventGates

/-- What the threads do. -/
inductive Workload where
  /-- They link and unlink gates. -/
  | links
  /-- They link a gate of their own to one of the gates and let it go away. -/
  | drop
  /-- They add one listener to the gates. -/
  | listeners
  /-- They take the dispatchers of the gates for good. -/
  | dispatcher
  /-- They post, at a gate that is linked to all others and at each gate itself; the dispatchers of
  the gates are held or not. -/
  | post (held : Bool)
deriving DecidableEq, Repr

structure Contention where
  workload : Workload
  /-- How many gates there are, at least one. -/
  gates : Nat
  threads : Nat
  /-- How many rounds each thread goes through. -/
  rounds : Nat
  capacity : Nat
deriving DecidableEq, Repr

/-- What is counted at a gate in the end. -/
structure GateTally where
  listeners : Nat
  running : Bool
  counters : Counters
  /-- Partners that are listed though they went away. -/
  deadPartners : Nat
deriving DecidableEq, Repr

structure Tally where
  /-- Rounds whose operation failed or succeeded, whichever the workload counts. -/
  hits : Nat
  /-- Names of gates that are linked on one side only. -/
  asymmetric : List (String × String)
  gates : List GateTally
  /-- Partners left after every gate removed its links. -/
  left : Nat

namespace Contention

/-- The fabric that the threads work on, and their hits. -/
structure Arena where
  fabric : Fabric
  /-- The gate linked to all others, if the workload has one. -/
  hub : Option GateId := none
  hits : Nat := 0

namespace Arena

def hit (a : Arena) (happened : Bool) : Arena := { a with hits := a.hits + happened.toNat }

/-- Links two gates; a failure is a hit. -/
def link (x y : GateId) (a : Arena) : Arena :=
  match a.fabric.link x y with
  | .error _ => a.hit true
  | .ok (fabric, _) => { a with fabric }

/-- What is posted in a round. -/
def draft : Draft := ⟨.addItem { sourceItemUid := "x" }, none⟩

/-- Posts a new event, handed to the fabric by `send`. -/
def post (send : Event → Fabric → Fabric) (a : Arena) : Arena :=
  let (fabric, e) := a.fabric.makeEvent draft
  { a with fabric := send e fabric }

/-- A round in which a thread has picked two gates. -/
def round (workload : Workload) (number : Nat) (x y : GateId) (a : Arena) : Arena :=
  match workload with
  | .links =>
    if number % 3 = 0 then { a with fabric := (a.fabric.unlink x y).1 }
    else if number % 7 = 0 then { a with fabric := (a.fabric.unlinkAll x).1 }
    else a.link y x
  | .drop =>
    let (fabric, g) := a.fabric.addGate { name := "temporary", capacity := 1 }
    let fabric := match fabric.link g x with
      | .error _ => fabric
      | .ok (fabric, _) => fabric
    ({ a with fabric := fabric.removeGate g } : Arena).link y x
  | .listeners =>
    let (fabric, mutation) := a.fabric.addListener x 0
    ({ a with fabric } : Arena).hit (mutation = .applied)
  | .dispatcher =>
    match a.fabric.handOut x with
    | none => a
    | some fabric => ({ a with fabric } : Arena).hit true
  | .post _ =>
    let a := match a.hub with
      | none => a
      | some hub => a.post fun e f => f.post hub e
    a.post fun e f => f.offer x e

end Arena

variable (c : Contention)

def gateName (i : Nat) : String := "g" ++ toString i

/-- The gates before the threads begin. -/
def gateIds : List GateId := List.range c.gates

/-- The fabric with its gates. -/
def fabric : Fabric :=
  (List.range c.gates).foldl
    (fun f i => (f.addGate { name := gateName i, capacity := max c.capacity 1 }).1) {}

/-- Links a gate to each of several others. -/
def linkEach (hub : GateId) (gs : List GateId) (f : Fabric) : Fabric :=
  gs.foldl (fun f g => match f.link hub g with
    | .error _ => f
    | .ok (f, _) => f) f

/-- Hands out the dispatcher of each gate. -/
def holdEach (gs : List GateId) (f : Fabric) : Fabric :=
  gs.foldl (fun f g => (f.handOut g).getD f) f

/-- What the threads find. -/
def start : Arena :=
  match c.workload with
  | .post held =>
    let (f, hub) := c.fabric.addGate { name := "hub", capacity := 1 }
    let f := linkEach hub c.gateIds f
    { fabric := if held then holdEach c.gateIds f else f, hub := some hub }
  | _ => { fabric := c.fabric }

/-- All rounds of a thread. -/
def runThread (a : Arena) (thread : Nat) : Arena :=
  (List.range c.rounds).foldl (fun a r =>
    a.round c.workload r ((thread + r) % c.gates) ((thread + 3 * r + 1) % c.gates)) a

/-- What the threads leave. -/
def finish : Arena := (List.range c.threads).foldl c.runThread c.start

def tallyGate (f : Fabric) (g : GateId) : Option GateTally :=
  (f.gates.find? g).map fun gate =>
    { listeners := gate.registry.size
      running := gate.running
      counters := gate.counters
      deadPartners := (f.links.entries g).length - (f.links.partners g).length }

/-- Removes the links of each gate. -/
def unlinkEach (gs : List GateId) (f : Fabric) : Fabric :=
  gs.foldl (fun f g => (f.unlinkAll g).1) f

/-- The tally at the end. -/
def tally : Tally :=
  let a := c.finish
  let f := a.fabric
  let pairs := c.gateIds.flatMap fun x => c.gateIds.map fun y => (x, y)
  let oneSided := fun (x, y) => f.links.linked x y && !f.links.linked y x
  let bare := unlinkEach c.gateIds f
  { hits := a.hits
    asymmetric := (pairs.filter oneSided).map fun (x, y) => (f.name x, f.name y)
    gates := c.gateIds.filterMap (tallyGate f)
    left := c.gateIds.foldl (fun n g => n + (bare.links.entries g).length) 0 }

end Contention

end EventGates
