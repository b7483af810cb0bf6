import EventGates.Remote.Endpoints

/-!
# Systems

A system is a fabric together with the workers that dispatch the events of its gates, the tokens by
which workers are cancelled, and the endpoint tables of its nodes.

A worker owns the receiving end of its gate's queue. It takes one event at a time and calls every
listener that is registered when the delivery begins, in order. Between events, and whenever a
callback is suspended, it looks at its token; once that is cancelled it ends, without the rest of
the delivery. A worker that is dropped instead ends at its next step if it is waiting, and otherwise
as soon as it has to wait. What a callback has left to do is kept as a value of the type `κ`.

The operations here are the steps of a worker that happen at one instant.
-/

namespace EventGates

abbrev WorkerId := Nat

abbrev TokenId := Nat

abbrev TableId := Nat

/-- The delivery of one event. -/
structure Delivery (κ : Type) where
  event : Event
  /-- What the callback under way has left to do. -/
  callback : Option κ
  /-- Listeners that are still to be called. -/
  remaining : List ListenerId

/-- What a worker is at. -/
inductive Phase (κ : Type) where
  | unstarted
  /-- About to look for an event. -/
  | ready
  /-- Waiting for an event. -/
  | idle
  /-- An event is taken, its delivery has not begun. -/
  | holding (e : Event)
  | delivering (d : Delivery κ)

/-- A worker that dispatches the events of a gate. -/
structure Worker (κ : Type) where
  gate : GateId
  token : TokenId
  phase : Phase κ := .unstarted
  /-- To be dropped as soon as it is waiting. -/
  aborted : Bool := false

/-- A fabric at work. -/
structure System (κ : Type) where
  fabric : Fabric := {}
  workers : Table WorkerId (Worker κ) := {}
  nextWorker : WorkerId := 0
  cancelled : List TokenId := []
  nextToken : TokenId := 0
  tables : Table TableId Endpoints := {}
  nextTable : TableId := 0

namespace System

variable {κ : Type}

def onFabric (s : System κ) (change : Fabric → Fabric) : System κ :=
  { s with fabric := change s.fabric }

/-! ## Tokens -/

def addToken (s : System κ) : System κ × TokenId :=
  ({ s with nextToken := s.nextToken + 1 }, s.nextToken)

def cancel (s : System κ) (t : TokenId) : System κ := { s with cancelled := t :: s.cancelled }

def isCancelled (s : System κ) (t : TokenId) : Bool := s.cancelled.contains t

/-! ## Endpoint tables -/

def addTable (s : System κ) : System κ × TableId :=
  ({ s with tables := s.tables.insert s.nextTable {}, nextTable := s.nextTable + 1 }, s.nextTable)

def endpoints (s : System κ) (t : TableId) : Endpoints := (s.tables.find? t).getD {}

def register (s : System κ) (t : TableId) (path : String) (h : Handler) :
    Except PathTaken (System κ) :=
  (s.endpoints t |>.register path h).map fun table => { s with tables := s.tables.insert t table }

def unregister (s : System κ) (t : TableId) (path : String) : System κ × Bool :=
  let (table, removed) := (s.endpoints t).unregister path
  ({ s with tables := s.tables.insert t table }, removed)

/-- Answers a request at the node with the given table. -/
def route (s : System κ) (t : TableId) (r : Request) : System κ × Response :=
  let (fabric, response) := (s.endpoints t).route s.fabric r
  ({ s with fabric }, response)

/-! ## Workers -/

/-- A worker for a gate whose queue is handed out. -/
def addWorker (s : System κ) (g : GateId) (t : TokenId) : System κ × WorkerId :=
  ({ s with
      workers := s.workers.insert s.nextWorker { gate := g, token := t }
      nextWorker := s.nextWorker + 1 }, s.nextWorker)

/-- Hands out the queue of a gate to a new worker. -/
def spawn (s : System κ) (g : GateId) (t : TokenId) : Except GateError (System κ × WorkerId) :=
  match s.fabric.handOut g with
  | none => .error (.alreadyRunning (s.fabric.name g))
  | some fabric => .ok ({ s with fabric }.addWorker g t)

def setPhase (s : System κ) (w : WorkerId) (phase : Phase κ) : System κ :=
  { s with workers := s.workers.modify w fun worker => { worker with phase } }

/-- Marks a worker to be dropped as soon as it is waiting. -/
def abort (s : System κ) (w : WorkerId) : System κ :=
  { s with workers := s.workers.modify w fun worker => { worker with aborted := true } }

/-- A worker that is waiting is to end: its token is cancelled, or it is to be dropped. -/
def isStopping (s : System κ) (worker : Worker κ) : Bool :=
  worker.aborted || s.isCancelled worker.token

/-- The delivery is over: staged changes of the listeners are made. -/
def endDelivery (s : System κ) (worker : Worker κ) : System κ :=
  match worker.phase with
  | .delivering _ => s.onFabric (·.updateGate worker.gate Gate.endDelivery)
  | _ => s

/-- A worker ends, leaving the delivery it was at, and gives the queue back. -/
def finish (s : System κ) (w : WorkerId) (worker : Worker κ) : System κ :=
  let s := s.endDelivery worker
  { s with fabric := s.fabric.endDispatch worker.gate, workers := s.workers.erase w }

/-- A worker starts. -/
def begin (s : System κ) (w : WorkerId) (worker : Worker κ) : System κ :=
  (s.onFabric (·.diagnose worker.gate .dispatchStarted none none)).setPhase w .ready

/-- A worker takes the next event, if there is one. -/
def receive (s : System κ) (w : WorkerId) (worker : Worker κ) : Option (System κ) :=
  (s.fabric.pop worker.gate).map fun (e, fabric) =>
    { s with fabric }.setPhase w (.holding e)

/-- The live listeners of a gate. -/
def listeners (s : System κ) (g : GateId) : List ListenerId :=
  match s.fabric.gates.find? g with
  | some gate => gate.registry.live
  | none => []

/-- The delivery of an event to the live listeners begins. -/
def beginDelivery (s : System κ) (w : WorkerId) (worker : Worker κ) (e : Event) : System κ :=
  let remaining := s.listeners worker.gate
  (s.onFabric (·.updateGate worker.gate Gate.beginDelivery)).setPhase w
    (.delivering { event := e, callback := none, remaining })

/-- Every listener was called. -/
def completeDelivery (s : System κ) (w : WorkerId) (worker : Worker κ) : System κ :=
  (s.onFabric (·.updateGate worker.gate fun g => g.countDelivered.endDelivery)).setPhase w
    .ready

/-- A callback panicked; the delivery goes on with the next listener. -/
def panicked (s : System κ) (w : WorkerId) (worker : Worker κ) (d : Delivery κ) (message : String) :
    System κ :=
  (s.onFabric fun f =>
    (f.updateGate worker.gate Gate.countPanic).diagnose worker.gate .listenerPanicked
      (some d.event.typeName) (some message)).setPhase w (.delivering { d with callback := none })

end System

end EventGates
