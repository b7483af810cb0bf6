import EventGates.Remote.Url
import EventGates.Script.Session

/-!
# Commands at work

Each command changes the session at once and gives an answer. A name that no object has gives the
answer `nothing` and changes nothing.
-/

namespace EventGates.Script

/-- The name that a listener gives itself; only logs have one. -/
def Program.name? : Program → Option String
  | logging => some "LogListener"
  | _ => none

namespace Session

/-! ## Objects by name -/

/-- Goes on with the gate of a name. -/
def withGate (s : Session) (key : String) (next : GateId → Session × Answer) : Session × Answer :=
  match s.names.gates.find? key with
  | none => (s, .nothing)
  | some g => next g

/-- Goes on with the gates of two names. -/
def withGates (s : Session) (a b : String) (next : GateId → GateId → Session × Answer) :
    Session × Answer :=
  s.withGate a fun a => s.withGate b fun b => next a b

/-- Goes on with the gate of a name and the listener of another. -/
def withListener (s : Session) (gate listener : String)
    (next : GateId → ListenerId → Session × Answer) : Session × Answer :=
  s.withGate gate fun g =>
    match s.names.listeners.find? listener with
    | none => (s, .nothing)
    | some x => next g x

/-- Goes on with the host of a name. -/
def withHost (s : Session) (key : String) (next : Host → Session × Answer) : Session × Answer :=
  match s.names.hosts.find? key with
  | none => (s, .nothing)
  | some h => next h

def setHost (s : Session) (key : String) (h : Host) : Session :=
  s.onNames fun n => { n with hosts := n.hosts.insert key h }

def setGate (s : Session) (key : String) (g : GateId) : Session :=
  s.onNames fun n => { n with gates := n.gates.insert key g }

/-- The endpoint table of a name, which is made when it is first used. -/
def table (s : Session) (key : String) : Session × TableId :=
  match s.names.tables.find? key with
  | some t => (s, t)
  | none =>
    let (system, t) := s.system.addTable
    ({ s with system, names := { s.names with tables := s.names.tables.insert key t } }, t)

/-- The bus of a name. -/
def bus? (s : Session) (key : Option String) : Option BusId := key.bind s.names.buses.find?

/-! ## Diagnostics -/

def subscribe (s : Session) (key : String) (b : BusId) : Session :=
  let next := match s.system.fabric.buses.find? b with
    | some bus => bus.sent
    | none => 0
  s.onNames fun n => { n with subscriptions := n.subscriptions.insert key ⟨b, next⟩ }

/-- Reads everything that a subscriber has not read, and goes on with it. -/
def drain (s : Session) (key : String) (answer : Bool → List Reading → Answer) : Session × Answer :=
  match s.names.subscriptions.find? key with
  | none => (s, .nothing)
  | some sub =>
    match s.system.fabric.buses.find? sub.bus with
    | none => (s, .nothing)
    | some bus =>
      let readings := bus.unread sub.next
      let s := s.onNames fun n =>
        { n with subscriptions := n.subscriptions.insert key { sub with next := bus.sent } }
      (s, answer (s.isClosed sub.bus) readings)

def performBus (s : Session) : BusCommand → Session × Answer
  | .create key capacity =>
    let (fabric, b) := s.system.fabric.addBus (capacity.getD Bus.defaultCapacity)
    let s := s.onFabric fun _ => fabric
    (s.onNames fun n => { n with buses := n.buses.insert key b }, .nothing)
  | .drop key => (s.onNames fun n => { n with buses := n.buses.erase key }, .nothing)
  | .subscribe key bus =>
    match s.names.buses.find? bus with
    | none => (s, .nothing)
    | some b => (s.subscribe key b, .nothing)
  | .publish bus finding => (s.onFabric (·.publish (s.names.buses.find? bus) finding), .nothing)
  | .drain key => s.drain key .readings
  | .drainByGate key => s.drain key fun closed rs =>
    .readingsByGate closed (recordsByGate rs) (losses rs)

/-! ## Gates -/

/-- A gate with the given settings. -/
def newGate (s : Session) (key : String) (spec : GateSpec) : Gate :=
  { name := spec.name.getD key
    capacity := max (spec.capacity.getD defaultQueueCapacity) 1
    bus := s.bus? spec.bus }

def partnerNames (s : Session) (g : GateId) : List String :=
  (s.system.fabric.links.partners g).map s.system.fabric.name

def gateState (s : Session) (g : GateId) : Option GateState :=
  (s.system.fabric.gates.find? g).map fun gate =>
    { name := gate.name
      capacity := gate.capacity
      running := gate.running
      partners := s.partnerNames g
      partnerCount := (s.system.fabric.links.entries g).length
      listeners := gate.registry.size
      counters := gate.counters }

/-- Goes on with what a gate holds. -/
def onGate (s : Session) (key : String) (answer : Gate → Answer) : Session × Answer :=
  s.withGate key fun g =>
    match s.system.fabric.gates.find? g with
    | none => (s, .nothing)
    | some gate => (s, answer gate)

def performGate (s : Session) : GateCommand → Session × Answer
  | .create key spec =>
    let gate := s.newGate key spec
    let (fabric, g) := s.system.fabric.addGate gate
    ((s.onFabric fun _ => fabric).setGate key g, .count gate.capacity)
  | .drop key =>
    (s.onNames fun n => { n with gates := n.gates.erase key, remotes := n.remotes.erase key },
      .flag (s.names.gates.contains key))
  | .watch key gate =>
    (s.onNames fun n =>
      { n with watched := n.watched.insert key (gate.bind s.names.gates.find?) }, .nothing)
  | .find key =>
    match (s.names.watched.find? key).join.bind s.system.fabric.gates.find? with
    | none => (s, .nothing)
    | some gate => (s, .text gate.name)
  | .link a b => s.withGates a b fun a b =>
    match s.system.fabric.link a b with
    | .error g => (s, .gateError (.selfLink (s.system.fabric.name g)))
    | .ok (fabric, made) => (s.onFabric fun _ => fabric, .flag made)
  | .unlink a b => s.withGates a b fun a b =>
    let (fabric, removed) := s.system.fabric.unlink a b
    (s.onFabric fun _ => fabric, .flag removed)
  | .unlinkAll key => s.withGate key fun g =>
    let (fabric, count) := s.system.fabric.unlinkAll g
    (s.onFabric fun _ => fabric, .count count)
  | .linked a b => s.withGates a b fun a b => (s, .flag (s.system.fabric.links.linked a b))
  | .same a b => s.withGates a b fun a b => (s, .flag (a = b))
  | .partners key => s.withGate key fun g => (s, .names (s.partnerNames g))
  | .counters key => s.onGate key fun gate => .counters gate.counters
  | .state key => s.withGate key fun g =>
    match s.gateState g with
    | none => (s, .nothing)
    | some state => (s, .gate state)
  | .states =>
    (s, .gates (s.names.gates.entries.filterMap fun (key, g) => (s.gateState g).map (key, ·)))
  | .describe key => s.onGate key fun gate => .text gate.description
  | .post key d =>
    let (s, e) := s.makeEvent d
    s.withGate key fun g => (s.onFabric (·.post g e), .nothing)
  | .postLocal key d =>
    let (s, e) := s.makeEvent d
    s.withGate key fun g => (s.onFabric (·.offer g e), .nothing)
  | .postBatch key ds =>
    let (s, es) := s.makeEvents ds
    s.withGate key fun g => (s.onFabric (·.postBatch g es), .nothing)
  | .postRepeatedly key d times =>
    let (s, e) := s.makeEvent d
    s.withGate key fun g => (s.onFabric fun f => times.repeat (·.post g e) f, .nothing)

/-! ## Listeners -/

/-- Makes a listener. -/
def define (s : Session) (key : String) (program : Program) : Session :=
  let runsLeft := match program with
    | .scripted _ _ _ times => times
    | _ => none
  { s with
    listeners := s.listeners.insert s.nextListener { key, program, runsLeft }
    nextListener := s.nextListener + 1
    names := { s.names with listeners := s.names.listeners.insert key s.nextListener } }

/-- Changes a registry that belongs to no gate. -/
def changeRegistry (s : Session) (key : String)
    (change : Registry ListenerId → Registry ListenerId × Option Mutation) : Session × Answer :=
  match s.names.registries.find? key with
  | none => (s, .nothing)
  | some registry =>
    let (registry, mutation) := change registry
    (s.onNames fun n => { n with registries := n.registries.insert key registry },
      .registry mutation registry.size)

/-- Changes a registry that belongs to no gate by a listener. -/
def changeRegistryBy (s : Session) (key listener : String)
    (change : Registry ListenerId → ListenerId → Registry ListenerId × Mutation) :
    Session × Answer :=
  match s.names.listeners.find? listener with
  | none => (s, .nothing)
  | some x => s.changeRegistry key fun registry => (change registry x).map id some

def performListener (s : Session) : ListenerCommand → Session × Answer
  | .add gate listener => s.withListener gate listener fun g x =>
    let (fabric, mutation) := s.system.fabric.addListener g x
    (s.onFabric fun _ => fabric, .mutation mutation)
  | .remove gate listener => s.withListener gate listener fun g x =>
    let (fabric, mutation) := s.system.fabric.removeListener g x
    (s.onFabric fun _ => fabric, .mutation mutation)
  | .clear gate => s.withGate gate fun g => (s.onFabric (·.clearListeners g), .nothing)
  | .count gate => s.onGate gate fun gate => .count gate.registry.size
  | .name listener =>
    match ((s.names.listeners.find? listener).bind s.listeners.find?).bind
        fun l => l.program.name? with
    | none => (s, .nothing)
    | some name => (s, .text name)
  | .createRegistry key =>
    (s.onNames fun n => { n with registries := n.registries.insert key {} }, .nothing)
  | .enlist key listener => s.changeRegistryBy key listener Registry.add
  | .delist key listener => s.changeRegistryBy key listener Registry.remove
  | .clearRegistry key => s.changeRegistry key fun registry => (registry.clear, none)
  | .release key => (s.release key, .nothing)

/-! ## Workers -/

/-- A held dispatcher lets go of its gate. -/
def dropDispatcher (s : Session) (key : String) : Session :=
  match s.names.dispatchers.find? key with
  | none => s
  | some g =>
    (s.onFabric (·.endDispatch g)).onNames fun n =>
      { n with dispatchers := n.dispatchers.erase key }

/-- A new token, which may be cancelled from the start. -/
def addToken (s : Session) (cancelled : Bool) : Session × TokenId :=
  let (system, t) := s.system.addToken
  ({ s with system := if cancelled then system.cancel t else system }, t)

def setToken (s : Session) (key : String) (t : TokenId) : Session :=
  s.onNames fun n => { n with tokens := n.tokens.insert key t }

/-- Cancels the last token of a gate. -/
def cancel (s : Session) (key : String) : Session :=
  match s.names.tokens.find? key with
  | none => s
  | some t => s.onSystem (·.cancel t)

def performWorker (s : Session) : WorkerCommand → Session × Answer
  | .handOut key => s.withGate key fun g =>
    let name := s.system.fabric.name g
    match s.system.fabric.handOut g with
    | none => (s, .gateError (.alreadyRunning name))
    | some fabric =>
      (((s.onFabric fun _ => fabric).dropDispatcher key).onNames fun n =>
        { n with dispatchers := n.dispatchers.insert key g }, .text name)
  | .drop key => (s.dropDispatcher key, .flag (s.names.dispatchers.contains key))
  | .run key cancelled =>
    match s.names.dispatchers.find? key with
    | none => (s, .nothing)
    | some g =>
      let (s, t) := s.addToken cancelled
      let s := s.onSystem fun sys => (sys.addWorker g t).1
      let s := s.onNames fun n => { n with dispatchers := n.dispatchers.erase key }
      (s.setToken key t, .nothing)
  | .start key cancelled => s.withGate key fun g =>
    let (s, t) := s.addToken cancelled
    match s.system.spawn g t with
    | .error e => (s, .gateError e)
    | .ok (system, _) => ((s.onSystem fun _ => system).setToken key t, .nothing)
  | .cancel key => (s.cancel key, .nothing)

/-! ## Endpoints and remote gates -/

/-- The request that a script states, and the event made for its body. -/
def request (s : Session) (spec : RequestSpec) : Session × Request :=
  let (s, body) := match spec.body with
    | .bytes bs => (s, bs)
    | .event d =>
      let (s, e) := s.makeEvent d
      (s, (Wire.encode e).bytes)
  let announced := spec.typeName.map fun t =>
    (Request.contentTypeHeader, Text.encodeString (Wire.contentType t))
  (s, { method := spec.method, path := Request.targetPath spec.target
        contentType := Request.contentTypeIn (spec.headers ++ announced.toList), body })

/-- Serves a path with a fixed text. -/
def register (s : Session) (t : TableId) (path text : String) : Session × Answer :=
  match s.system.register t path (.echo text) with
  | .error e => (s, .pathTaken e)
  | .ok system => (s.onSystem fun _ => system, .flag true)

def unregister (s : Session) (t : TableId) (path : String) : Session × Answer :=
  let (system, removed) := s.system.unregister t path
  (s.onSystem fun _ => system, .flag removed)

def performEndpoint (s : Session) : EndpointCommand → Session × Answer
  | .register key path text =>
    let (s, t) := s.table key
    s.register t path text
  | .unregister key path =>
    let (s, t) := s.table key
    s.unregister t path
  | .paths key =>
    let (s, t) := s.table key
    (s, .names (s.system.endpoints t).paths)
  | .request key spec =>
    let (s, t) := s.table key
    let (s, request) := s.request spec
    let (system, response) := s.system.route t request
    (s.onSystem fun _ => system, .response response)

def remoteInfo (s : Session) (r : RemoteGate) : Answer :=
  match s.system.fabric.gates.find? r.gate with
  | none => .nothing
  | some gate =>
    .remote
      { path := r.path, sender := r.sender, name := gate.name, description := r.description gate }

def performRemote (s : Session) : RemoteCommand → Session × Answer
  | .create key table spec =>
    let (s, t) := s.table table
    let gate := s.newGate key spec.gate
    match RemoteGate.build s.system gate spec.http spec.facts (.ofList spec.custom) t with
    | .error e => (s, .gateError e)
    | .ok (system, r) =>
      let s := (s.onSystem fun _ => system).onNames fun n =>
        { n with gates := n.gates.insert key r.gate, remotes := n.remotes.insert key r }
      (s, s.remoteInfo r)
  | .describe key =>
    match s.names.remotes.find? key with
    | none => (s, .nothing)
    | some r => (s, s.remoteInfo r)
  | .terminate key =>
    match s.names.remotes.find? key with
    | none => (s, .nothing)
    | some r =>
      let (system, removed) := r.terminate s.system
      (s.onSystem fun _ => system, .flag removed)

/-! ## Hosts -/

/-- The host of a name goes away. -/
def dropHost (s : Session) (key : String) : Session :=
  match s.names.hosts.find? key with
  | none => s
  | some h =>
    (s.onSystem h.dispose).onNames fun n => { n with hosts := n.hosts.erase key }

/-- The first half of a shutdown of a host: its workers are woken, the last one first. -/
def beginShutdown (s : Session) (key : String) (h : Host) : Session × List Tracked × List String :=
  let (system, h, workers, running) := h.beginShutdown s.system
  let s := (s.onSystem fun _ => system).setHost key h
  (s.awaken (workers.reverse.map Tracked.worker), workers, running)

def performHost (s : Session) : HostCommand → Session × Answer
  | .create key spec =>
    let (s, t) := match spec.endpoints with
      | none => (s, none)
      | some table => (s.table table).map id some
    let (system, h) := Host.build s.system spec.config t
    (((s.onSystem fun _ => system).dropHost key).setHost key h, .config spec.config)
  | .subscribe key host => s.withHost host fun h =>
    match h.bus with
    | none => (s, .flag false)
    | some b => (s.subscribe key b, .flag true)
  | .createGate host key name => s.withHost host fun h =>
    match h.createGate s.system name with
    | .error e => (s, .gateError e)
    | .ok (system, h, g) =>
      let s := ((s.onSystem fun _ => system).setHost host h).setGate key g
      match s.system.fabric.gates.find? g with
      | none => (s, .nothing)
      | some gate => (s, .made gate.capacity gate.running)
  | .createRemote host key name mode custom => s.withHost host fun h =>
    match h.createRemote s.system name mode {} (.ofList custom) with
    | .error e => (s, .gateError e)
    | .ok (system, h, r) =>
      let s := ((s.onSystem fun _ => system).setHost host h).onNames fun n =>
        { n with gates := n.gates.insert key r.gate, remotes := n.remotes.insert key r }
      (s, s.remoteInfo r)
  | .gates host => s.withHost host fun h => (s, .names (h.gates.map s.system.fabric.name))
  | .remotes host => s.withHost host fun h => (s, .names (h.remotes.map RemoteGate.path))
  | .start host => s.withHost host fun h =>
    let (system, h, outcome) := h.start s.system
    let s := (s.onSystem fun _ => system).setHost host h
    match outcome with
    | .error e => (s, .hostError e)
    | .ok () => (s, .flag true)
  | .release host => s.withHost host fun h => ((s.beginShutdown host h).1, .flag true)
  | .drop host => (s.dropHost host, .flag (s.names.hosts.contains host))
  | .register host path => s.withHost host fun h => s.register h.table path path
  | .unregister host path => s.withHost host fun h => s.unregister h.table path

/-! ## All commands -/

/-- Carries out a command, before what nothing holds any more is removed. -/
def performHeld (s : Session) : Command → Session × Answer
  | .bus c => s.performBus c
  | .gate c => s.performGate c
  | .define key program => (s.define key program, .nothing)
  | .listener c => s.performListener c
  | .worker c => s.performWorker c
  | .endpoint c => s.performEndpoint c
  | .remote c => s.performRemote c
  | .host c => s.performHost c

/-- The gates that a command offers events to, in this order. -/
def offered (s : Session) : Command → List GateId
  | .gate (.post key _) | .gate (.postBatch key _) | .gate (.postRepeatedly key _ _) =>
    match s.names.gates.find? key with
    | none => []
    | some g => s.system.fabric.links.partners g
  | _ => []

/-- Carries out a command. -/
def perform (s : Session) (c : Command) : Session × Answer :=
  let gates := s.offered c
  let (s, answer) := s.performHeld c
  (s.collect.awaken (s.serving gates), answer)

end Session

end EventGates.Script
