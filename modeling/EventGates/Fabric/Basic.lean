import EventGates.Diagnostics.Bus
import EventGates.Fabric.Links

/-!
# Fabrics

A fabric holds gates, their links and the buses on which their diagnostics are published, and
numbers events and records. Posting at a gate offers an event to each of its partners once;
partners do not pass it on.
-/

namespace EventGates

/-- What the record about an event that was not accepted is about. -/
def Admission.kind? : Admission → Option DiagnosticKind
  | accepted => none
  | overflow => some .queueOverflow
  | idle => some .gateIdle

/-- Gates, links and buses. -/
structure Fabric where
  gates : Table GateId Gate := {}
  links : Links := {}
  buses : Table BusId Bus := {}
  nextGate : GateId := 0
  nextBus : BusId := 0
  /-- How many events were made. -/
  events : Nat := 0
  /-- How many diagnostic records were made. -/
  records : Nat := 0

namespace Fabric

/-! ## Buses -/

def addBus (f : Fabric) (capacity : Nat) : Fabric × BusId :=
  ({ f with buses := f.buses.insert f.nextBus (.ofCapacity capacity), nextBus := f.nextBus + 1 },
    f.nextBus)

/-- Makes a record and publishes it on a bus, if there is one. -/
def publish (f : Fabric) (bus : Option BusId) (finding : Finding) : Fabric :=
  let d : Diagnostic := { finding with seq := f.records }
  { f with
    records := f.records + 1
    buses := match bus with
      | none => f.buses
      | some b => f.buses.modify b (·.publish d) }

/-- Makes a record about a gate and publishes it on the gate's bus. -/
def diagnose (f : Fabric) (g : GateId) (kind : DiagnosticKind) (eventType reason : Option String) :
    Fabric :=
  match f.gates.find? g with
  | none => f
  | some gate => f.publish gate.bus { kind, gate := some gate.name, eventType, reason }

/-! ## Events -/

/-- Numbers a new event. -/
def makeEvent (f : Fabric) (d : Draft) : Fabric × Event :=
  ({ f with events := f.events + 1 }, d.number f.events)

def makeEvents : List Draft → Fabric → Fabric × List Event
  | [], f => (f, [])
  | d :: ds, f =>
    let (f, e) := f.makeEvent d
    let (f, es) := makeEvents ds f
    (f, e :: es)

/-! ## Gates -/

def addGate (f : Fabric) (gate : Gate) : Fabric × GateId :=
  ({ f with
      gates := f.gates.insert f.nextGate gate
      links := f.links.addGate f.nextGate
      nextGate := f.nextGate + 1 }, f.nextGate)

/-- A gate goes away. -/
def removeGate (f : Fabric) (g : GateId) : Fabric :=
  { f with gates := f.gates.erase g, links := f.links.remove g }

def isLive (f : Fabric) (g : GateId) : Bool := f.gates.contains g

def updateGate (f : Fabric) (g : GateId) (change : Gate → Gate) : Fabric :=
  { f with gates := f.gates.modify g change }

def name (f : Fabric) (g : GateId) : String :=
  match f.gates.find? g with
  | some gate => gate.name
  | none => ""

/-! ## Links -/

def link (f : Fabric) (a b : GateId) : Except GateId (Fabric × Bool) :=
  if a = b then .error a
  else
    let (links, made) := f.links.link a b
    .ok ({ f with links }, made)

def unlink (f : Fabric) (a b : GateId) : Fabric × Bool :=
  if a = b then (f, false)
  else
    let (links, removed) := f.links.unlink a b
    ({ f with links }, removed)

def unlinkAll (f : Fabric) (g : GateId) : Fabric × Nat :=
  let (links, count) := f.links.unlinkAll g
  ({ f with links }, count)

/-! ## Posting -/

/-- Offers an event to a gate. -/
def offer (f : Fabric) (g : GateId) (e : Event) : Fabric :=
  match f.gates.find? g with
  | none => f
  | some gate =>
    let (gate, admission) := gate.offer e
    let f := { f with gates := f.gates.insert g gate }
    match admission.kind? with
    | none => f
    | some kind => f.diagnose g kind (some e.typeName) none

/-- Offers an event to each partner of a gate. -/
def post (f : Fabric) (g : GateId) (e : Event) : Fabric :=
  (f.links.partners g).foldl (fun f p => f.offer p e) f

/-- Offers several events to each partner of a gate, all of them to one partner before the next. -/
def postBatch (f : Fabric) (g : GateId) (es : List Event) : Fabric :=
  (f.links.partners g).foldl (fun f p => es.foldl (fun f e => f.offer p e) f) f

/-! ## Listeners -/

def changeRegistry (f : Fabric) (g : GateId)
    (change : Registry ListenerId → Registry ListenerId × Mutation) : Fabric × Mutation :=
  match f.gates.find? g with
  | none => (f, .unchanged)
  | some gate =>
    let (registry, mutation) := change gate.registry
    ({ f with gates := f.gates.insert g { gate with registry } }, mutation)

def addListener (f : Fabric) (g : GateId) (x : ListenerId) : Fabric × Mutation :=
  f.changeRegistry g (·.add x)

def removeListener (f : Fabric) (g : GateId) (x : ListenerId) : Fabric × Mutation :=
  f.changeRegistry g (·.remove x)

def clearListeners (f : Fabric) (g : GateId) : Fabric :=
  f.updateGate g fun gate => { gate with registry := gate.registry.clear }

/-! ## Dispatchers -/

/-- Hands out the queue of a gate; none if it is handed out already. -/
def handOut (f : Fabric) (g : GateId) : Option Fabric :=
  (f.gates.find? g).bind fun gate =>
    gate.handOut.map fun gate => { f with gates := f.gates.insert g gate }

/-- The reason in the record about the end of dispatch. -/
def discardedReason (count : Nat) : String := "discarded=" ++ toString count

/-- A dispatcher lets go of the queue of a gate. -/
def endDispatch (f : Fabric) (g : GateId) : Fabric :=
  match f.gates.find? g with
  | none => f
  | some gate =>
    let closed := gate.close
    let f := { f with gates := f.gates.insert g closed.drain.takeBack }
    f.diagnose g .dispatchStopped none (some (discardedReason closed.queue.length))

/-- Takes the oldest event out of the queue of a gate. -/
def pop (f : Fabric) (g : GateId) : Option (Event × Fabric) :=
  (f.gates.find? g).bind fun gate =>
    gate.pop.map fun (e, gate) => (e, { f with gates := f.gates.insert g gate })

end Fabric

end EventGates
