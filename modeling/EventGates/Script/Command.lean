import EventGates.Config
import EventGates.Diagnostics.Record
import EventGates.Event.Summary

/-!
# Scripts

A script drives a fabric step by step. Its objects have names, and its listeners are programs:
lists of actions that a callback goes through. Most steps are commands, which happen at once and
may also be actions; the others let the workers run.
-/

namespace EventGates.Script

open Text (Bytes)

/-! ## Settings of objects -/

structure GateSpec where
  /-- The name in diagnostics, if it is not that of the object. -/
  name : Option String := none
  capacity : Option Nat := none
  bus : Option String := none

structure RemoteSpec where
  gate : GateSpec := {}
  http : HttpConfig := {}
  facts : Facts := {}
  /-- The custom types that are read. -/
  custom : List String := []

structure HostSpec where
  config : HostConfig := {}
  /-- The endpoint table that the host publishes in, if it is not one of its own. -/
  endpoints : Option String := none

inductive RequestBody where
  | bytes (bs : Bytes)
  /-- The body that carries an event. -/
  | event (d : Draft)

structure RequestSpec where
  method : String := "POST"
  target : String
  headers : List (String × Bytes) := []
  /-- A type identity to announce behind the other headers. -/
  typeName : Option String := none
  body : RequestBody := .bytes []

/-! ## Commands -/

inductive BusCommand where
  | create (key : String) (capacity : Option Nat)
  | drop (key : String)
  | subscribe (key bus : String)
  | publish (bus : String) (finding : Finding)
  | drain (key : String)
  | drainByGate (key : String)

inductive GateCommand where
  | create (key : String) (spec : GateSpec)
  | drop (key : String)
  /-- Keeps a name for a gate, or for no gate, that does not keep the gate alive. -/
  | watch (key : String) (gate : Option String)
  | find (key : String)
  | link (a b : String)
  | unlink (a b : String)
  | unlinkAll (gate : String)
  | linked (a b : String)
  | same (a b : String)
  | partners (gate : String)
  | counters (gate : String)
  | state (gate : String)
  | states
  | describe (gate : String)
  | post (gate : String) (d : Draft)
  | postLocal (gate : String) (d : Draft)
  | postBatch (gate : String) (ds : List Draft)
  /-- Posts one event several times. -/
  | postRepeatedly (gate : String) (d : Draft) (times : Nat)

inductive ListenerCommand where
  | add (gate listener : String)
  | remove (gate listener : String)
  | clear (gate : String)
  | count (gate : String)
  | name (listener : String)
  /-- Makes a registry that belongs to no gate. -/
  | createRegistry (key : String)
  | enlist (registry listener : String)
  | delist (registry listener : String)
  | clearRegistry (registry : String)
  /-- Gives a signal. -/
  | release (signal : String)

inductive WorkerCommand where
  /-- Takes the dispatcher of a gate and holds it. -/
  | handOut (gate : String)
  | drop (gate : String)
  | run (gate : String) (cancelled : Bool)
  | start (gate : String) (cancelled : Bool)
  | cancel (gate : String)

inductive EndpointCommand where
  | register (table path text : String)
  | unregister (table path : String)
  | paths (table : String)
  | request (table : String) (spec : RequestSpec)

inductive RemoteCommand where
  | create (key table : String) (spec : RemoteSpec)
  | describe (key : String)
  | terminate (key : String)

inductive HostCommand where
  | create (key : String) (spec : HostSpec)
  | subscribe (key host : String)
  | createGate (host key name : String)
  | createRemote (host key name : String) (mode : AddressMode) (custom : List String)
  | gates (host : String)
  | remotes (host : String)
  | start (host : String)
  /-- Shuts a host down without waiting for its workers. -/
  | release (host : String)
  | drop (host : String)
  | register (host path : String)
  | unregister (host path : String)

mutual

/-- What happens at once. -/
inductive Command where
  | bus (c : BusCommand)
  | gate (c : GateCommand)
  /-- Makes a listener. -/
  | define (key : String) (p : Program)
  | listener (c : ListenerCommand)
  | worker (c : WorkerCommand)
  | endpoint (c : EndpointCommand)
  | remote (c : RemoteCommand)
  | host (c : HostCommand)

/-- What a callback does. -/
inductive Action where
  /-- Suspends until the signal is given. -/
  | wait (signal : String)
  /-- Holds the thread until it is opened. -/
  | block (key : String)
  /-- Ends the callback by a panic, whose message may not be known. -/
  | panic (message : Option String)
  /-- Calls another listener. -/
  | deliver (listener : String) (d : Draft)
  | perform (c : Command)

/-- What a listener does when it is called. -/
inductive Program where
  /-- Nothing. -/
  | silent
  /-- Keeps a line about each event. -/
  | logging
  /-- Reacts to some kinds of events, and goes through the actions as often as it is allowed to. -/
  | scripted (kinds : Option (List EventKind)) (full : Bool) (actions : List Action)
      (times : Option Nat)

end

instance : Inhabited Program := ⟨.silent⟩

/-! ## Names of commands -/

def BusCommand.label : BusCommand → String
  | create .. => "bus"
  | drop _ => "drop_bus"
  | subscribe .. => "subscribe"
  | publish .. => "publish"
  | drain _ => "drain"
  | drainByGate _ => "drain_by_gate"

def GateCommand.label : GateCommand → String
  | create .. => "gate"
  | drop _ => "drop_gate"
  | watch .. => "weak"
  | find _ => "upgrade"
  | link .. => "link"
  | unlink .. => "unlink"
  | unlinkAll _ => "unlink_all"
  | linked .. => "linked"
  | same .. => "eq"
  | partners _ => "partners"
  | counters _ => "stats"
  | state _ => "state"
  | states => "states"
  | describe _ => "debug"
  | post .. => "post"
  | postLocal .. => "post_local"
  | postBatch .. => "post_batch"
  | postRepeatedly .. => "post_arc"

def ListenerCommand.label : ListenerCommand → String
  | add .. => "add"
  | remove .. => "remove"
  | clear _ => "clear"
  | count _ => "count"
  | name _ => "name"
  | createRegistry _ => "registry"
  | enlist .. => "reg_add"
  | delist .. => "reg_remove"
  | clearRegistry _ => "reg_clear"
  | release _ => "release"

def WorkerCommand.label : WorkerCommand → String
  | handOut _ => "dispatcher"
  | drop _ => "drop_dispatcher"
  | run .. => "run"
  | start .. => "start"
  | cancel _ => "cancel"

def EndpointCommand.label : EndpointCommand → String
  | register .. => "ep_register"
  | unregister .. => "ep_unregister"
  | paths _ => "ep_paths"
  | request .. => "request"

def RemoteCommand.label : RemoteCommand → String
  | create .. => "remote"
  | describe _ => "remote_info"
  | terminate _ => "terminate"

def HostCommand.label : HostCommand → String
  | create .. => "host"
  | subscribe .. => "host_subscribe"
  | createGate .. => "host_gate"
  | createRemote .. => "host_remote"
  | gates _ => "host_gates"
  | remotes _ => "host_remotes"
  | start _ => "host_start"
  | release _ => "host_shutdown"
  | drop _ => "drop_host"
  | register .. => "host_ep_register"
  | unregister .. => "host_ep_unregister"

/-- The name under which reports tell of a command. -/
def Command.label : Command → String
  | bus c => c.label
  | gate c => c.label
  | define .. => "listener"
  | listener c => c.label
  | worker c => c.label
  | endpoint c => c.label
  | remote c => c.label
  | host c => c.label

/-! ## Steps -/

/-- What is at the other end of a delivery to another node. -/
inductive Target where
  /-- The node that serves the table of the given name. -/
  | node (table : String)
  | closed
  | silent

/-- A step of a script. -/
inductive Step where
  | perform (c : Command)
  /-- Calls a listener outside any delivery. -/
  | deliver (listener : String) (d : Draft)
  /-- Lets every worker run until it is idle, suspended or gone. -/
  | settle
  /-- Cancels the worker of a gate and settles. -/
  | stop (gate : String)
  /-- Posts an event to another node, settling before and after. -/
  | postPeer (remote : String) (target : Target) (path : String) (d : Draft)
  /-- Shuts a host down; unless its grace is zero the workers settle meanwhile. -/
  | shutdown (host : String)
  /-- Starts a host and shuts it down once it has settled. -/
  | runUntilSignal (host : String)
  /-- Waits until a callback holds its thread. -/
  | awaitReached (key : String)
  /-- Lets such a callback go on. -/
  | unblock (key : String)
  /-- Waits until the worker of a gate is gone. -/
  | awaitStopped (gate : String)

end EventGates.Script
