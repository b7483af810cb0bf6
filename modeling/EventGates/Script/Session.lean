import EventGates.Script.Answer
import EventGates.Script.Command

/-!
# Sessions

A session is a fabric at work together with what a script has made of it: the objects by name, the
listeners with their programs, the signals on which callbacks wait, and a trace of every callback
and of what it did.

A callback is a stack of frames. The top frame goes on; the others wait for the listener that they
called. A callback may be suspended by a signal, or hold its thread until it is opened.

Workers take turns. One that can go on joins the end of a line; the first in line goes on until it
has to wait or has taken as many events as a turn allows.
-/

namespace EventGates.Script

/-- What is left of one call of a listener. -/
structure Frame where
  listener : ListenerId
  event : Event
  actions : List Action

/-- Why a callback does not go on. -/
inductive Pause where
  | none
  /-- It waits for a signal, which may have been given since. -/
  | waiting (signal : String) (given : Bool)
  /-- It holds its thread until it is opened. -/
  | blocked (key : String) (opened : Bool)

namespace Pause

/-- A pause that ends, for a worker that is to stop or not. -/
def isOver (stopping : Bool) : Pause → Bool
  | none => true
  | waiting _ given => given || stopping
  | blocked _ opened => opened

/-- A worker that waits for a signal may be interrupted. -/
def isInterruptible : Pause → Bool
  | waiting .. => true
  | _ => false

end Pause

/-- A callback under way. -/
structure Callback where
  frames : List Frame
  pause : Pause := .none

/-- A signal: a stored one lets the next callback pass, otherwise the longest waiting worker is the
next to go on. -/
structure Signal where
  stored : Bool := false
  waiting : List WorkerId := []

/-- A listener of a script. -/
structure Listening where
  key : String
  program : Program
  /-- How many more times it goes through its actions, if that is limited. -/
  runsLeft : Option Nat := none

/-- Where a subscriber is. -/
structure Subscription where
  bus : BusId
  /-- How many records it has read or lost. -/
  next : Nat

/-- What happened in a callback. -/
inductive Occurrence where
  | called (listener : ListenerId) (event : Event)
  | did (listener : ListenerId) (label : String) (answer : Answer)

/-- The objects of a script by name. -/
structure Names where
  buses : Table String BusId := {}
  subscriptions : Table String Subscription := {}
  gates : Table String GateId := {}
  /-- Gates that are not kept alive. -/
  watched : Table String (Option GateId) := {}
  listeners : Table String ListenerId := {}
  registries : Table String (Registry ListenerId) := {}
  /-- The last token of each gate. -/
  tokens : Table String TokenId := {}
  /-- Gates whose dispatchers are held. -/
  dispatchers : Table String GateId := {}
  tables : Table String TableId := {}
  remotes : Table String RemoteGate := {}
  hosts : Table String Host := {}

structure Session where
  system : System Callback := {}
  listeners : Table ListenerId Listening := {}
  nextListener : ListenerId := 0
  signals : Table String Signal := {}
  names : Names := {}
  /-- The workers that can go on, in the order of their turns. -/
  line : List WorkerId := []
  /-- How many events the first in line has taken in its turn. -/
  taken : Nat := 0
  /-- What happened in callbacks, the latest first. -/
  trace : List Occurrence := []

namespace Session

def onSystem (s : Session) (change : System Callback → System Callback) : Session :=
  { s with system := change s.system }

def onFabric (s : Session) (change : Fabric → Fabric) : Session :=
  s.onSystem (·.onFabric change)

def onNames (s : Session) (change : Names → Names) : Session :=
  { s with names := change s.names }

def note (s : Session) (o : Occurrence) : Session := { s with trace := o :: s.trace }

def makeEvent (s : Session) (d : Draft) : Session × Event :=
  let (fabric, e) := s.system.fabric.makeEvent d
  ({ s with system := { s.system with fabric } }, e)

def makeEvents (s : Session) (ds : List Draft) : Session × List Event :=
  let (fabric, es) := Fabric.makeEvents ds s.system.fabric
  ({ s with system := { s.system with fabric } }, es)

/-! ## What is held -/

/-- The endpoint tables that a name, a host or a remote gate keeps. -/
def heldTables (s : Session) : List TableId :=
  let hosts := s.names.hosts.values
  s.names.tables.values ++ s.names.remotes.values.map RemoteGate.table ++
    hosts.flatMap fun h => h.table :: h.remotes.map RemoteGate.table

/-- The gates that a name, a host, a worker, a held dispatcher or an endpoint keeps. -/
def heldGates (s : Session) : List GateId :=
  let hosts := s.names.hosts.values
  let handlers := s.heldTables.flatMap fun t => (s.system.endpoints t).handlers.values
  s.names.gates.values ++ s.names.remotes.values.map RemoteGate.gate ++
    s.names.dispatchers.values ++ s.system.workers.values.map Worker.gate ++
    (hosts.flatMap fun h => h.gates ++ h.remotes.map RemoteGate.gate) ++
    handlers.filterMap Handler.gate?

/-- Removes the gates that nothing holds. -/
def collect (s : Session) : Session :=
  let held := s.heldGates
  let gone := s.system.fabric.gates.keys.filter fun g => g ∉ held
  s.onFabric fun f => gone.foldl Fabric.removeGate f

/-- A bus on which nothing more can be published. -/
def isClosed (s : Session) (b : BusId) : Bool :=
  !(s.names.buses.values.contains b ||
    s.system.fabric.gates.values.any (·.bus == some b) ||
    s.names.hosts.values.any (·.bus == some b))

/-! ## Signals -/

/-- Changes the callback of a worker. -/
def onCallback (s : Session) (w : WorkerId) (change : Callback → Callback) : Session :=
  s.onSystem fun sys =>
    { sys with workers := sys.workers.modify w fun worker =>
        { worker with phase := match worker.phase with
            | .delivering d => .delivering { d with callback := d.callback.map change }
            | phase => phase } }

def signal (s : Session) (key : String) : Signal := (s.signals.find? key).getD {}

/-- Gives a signal to the longest waiting worker, or stores it. -/
def release (s : Session) (key : String) : Session :=
  match s.signal key with
  | ⟨_, []⟩ => { s with signals := s.signals.insert key { stored := true } }
  | ⟨stored, w :: ws⟩ =>
    ({ s with signals := s.signals.insert key ⟨stored, ws⟩ } : Session).onCallback w
      fun c => { c with pause := .waiting key true }

/-- Takes a stored signal, if there is one. -/
def takeStored (s : Session) (key : String) : Option Session :=
  if (s.signal key).stored then
    some { s with signals := s.signals.insert key { s.signal key with stored := false } }
  else none

/-- A worker joins those that wait for a signal. -/
def enqueue (s : Session) (key : String) (w : WorkerId) : Session :=
  let signal := s.signal key
  { s with signals := s.signals.insert key { signal with waiting := signal.waiting ++ [w] } }

/-- A worker gives up waiting; a signal that was given to it goes to the next one. -/
def giveUp (s : Session) (w : WorkerId) : Pause → Session
  | .waiting key true => s.release key
  | .waiting key false =>
    let signal := s.signal key
    { s with signals :=
        s.signals.insert key { signal with waiting := signal.waiting.filter (· ≠ w) } }
  | _ => s

/-- Opens the callbacks that hold their threads under a key. -/
def unblock (s : Session) (key : String) : Session :=
  s.system.workers.keys.foldl (fun s w => s.onCallback w fun c =>
    match c.pause with
    | .blocked k _ => if k = key then { c with pause := .blocked key true } else c
    | _ => c) s

/-! ## Turns -/

/-- A worker does not have to wait. -/
def canStep (s : Session) (worker : Worker Callback) : Bool :=
  let stopping := s.system.isStopping worker
  match worker.phase with
  | .unstarted | .ready => true
  | .idle => stopping || (s.system.fabric.gates.find? worker.gate).any fun g => !g.queue.isEmpty
  | .holding _ => true
  | .delivering d => d.callback.all (·.pause.isOver stopping)

/-- The workers of several gates. -/
def serving (s : Session) (gates : List GateId) : List WorkerId :=
  gates.flatMap fun g =>
    (s.system.workers.entries.filter fun (_, worker) => worker.gate = g).map Prod.fst

/-- Lets the workers that can go on join the line, the given ones first. -/
def awaken (s : Session) (first : List WorkerId) : Session :=
  let fresh := (s.system.workers.entries.filter fun (w, worker) =>
    s.canStep worker && !s.line.contains w).map Prod.fst
  { s with line :=
      s.line ++ (first.filter fun w => w ∈ fresh) ++ fresh.filter fun w => w ∉ first }

end Session

end EventGates.Script
