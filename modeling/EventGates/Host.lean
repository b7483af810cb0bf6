import EventGates.Remote.Gate

/-!
# Hosts

A host makes gates with common settings, starts a worker for each of them, and shuts them down
together: links and endpoints are withdrawn, the workers are cancelled, and those that have not
ended when the grace is over are reported by the names of their gates.

Hosts and gates are made in one step here, as if every capacity could be had (`build`, `createGate`) and
every client be set up (`createRemote`). Beside them stand the same operations with the places where they
can fail: `tryBuild` and `tryCreateGate` reserve the places that they need, and `createRemoteInSteps`
takes back what it has done.
-/

namespace EventGates

/-- A worker that a host started. -/
structure Tracked where
  worker : WorkerId
  /-- The name of its gate. -/
  name : String
deriving DecidableEq, Repr

/-- What a host keeps. -/
structure Host where
  config : HostConfig
  bus : Option BusId
  table : TableId
  gates : List GateId := []
  remotes : List RemoteGate := []
  /-- Workers started since the last shutdown. -/
  workers : List Tracked := []
  /-- The names of their gates. -/
  running : List String := []
  token : TokenId
  started : Bool := false

namespace Host

variable {κ : Type}

/-- Builds a host that serves its endpoints from the given table, or from a table of its own. -/
def build (s : System κ) (config : HostConfig) (table : Option TableId) : System κ × Host :=
  let (fabric, bus) : Fabric × Option BusId := match config.diagnosticsCapacity with
    | none => (s.fabric, none)
    | some capacity => (s.fabric.addBus capacity).map id some
  let s := { s with fabric }
  let (s, table) := match table with
    | some t => (s, t)
    | none => s.addTable
  let (s, token) := s.addToken
  (s, { config, bus, table, token })

/-- A gate with the settings of the host. -/
def newGate (h : Host) (name : String) : Gate :=
  { name, capacity := h.config.queueSlots, bus := h.bus }

/-- Starts a worker for a gate and keeps track of it. -/
def spawn (h : Host) (s : System κ) (g : GateId) : Except GateError (System κ × Host) := do
  let name := s.fabric.name g
  let (s, worker) ← s.spawn g h.token
  .ok (s, { h with
    workers := h.workers ++ [{ worker, name }]
    running := h.running ++ [name] })

/-- Makes a gate; its worker starts at once if the host is started. -/
def createGate (h : Host) (s : System κ) (name : String) :
    Except GateError (System κ × Host × GateId) := do
  let (fabric, g) := s.fabric.addGate (h.newGate name)
  let s := { s with fabric }
  let (s, h) ← if h.started then h.spawn s g else .ok (s, h)
  .ok (s, { h with gates := h.gates ++ [g] }, g)

/-- Makes a remote gate with the given addressing mode; a failure leaves everything as it was. -/
def createRemote (h : Host) (s : System κ) (name : String) (mode : AddressMode) (facts : Facts)
    (catalogue : Wire.Catalogue) : Except GateError (System κ × Host × RemoteGate) := do
  let http := { h.config.http with mode }
  let (s, remote) ← RemoteGate.build s (h.newGate name) http facts catalogue h.table
  let (s, h) ← if h.started then h.spawn s remote.gate else .ok (s, h)
  .ok (s, { h with gates := h.gates ++ [remote.gate], remotes := h.remotes ++ [remote] }, remote)

/-- Starts a worker for each gate that is not running, up to the first failure. -/
def spawnEach : List GateId → Host → System κ → System κ × Host × Option GateError
  | [], h, s => (s, h, none)
  | g :: gs, h, s =>
    if (s.fabric.gates.find? g).any (·.running) then spawnEach gs h s
    else
      match h.spawn s g with
      | .error e => (s, h, some e)
      | .ok (s, h) => spawnEach gs h s

/-- Starts the host; a started one is left alone. -/
def start (h : Host) (s : System κ) : System κ × Host × Except HostError Unit :=
  if h.started then (s, h, .ok ())
  else
    match spawnEach h.gates h s with
    | (s, h, some e) => (s, h, .error (.gate e))
    | (s, h, none) => (s, { h with started := true }, .ok ())

/-! ## Capacities that are refused -/

/-- Builds a host, whose bus may be refused. -/
def tryBuild (s : System κ) (config : HostConfig) (table : Option TableId) :
    Except Nat (System κ × Host) := do
  let (fabric, bus) ← match config.diagnosticsCapacity with
    | none => .ok (s.fabric, none)
    | some n =>
      (Capacity.reserve maxBusCapacity (max n 1)).map fun capacity =>
        (s.fabric.addBus capacity).map id some
  let s := { s with fabric }
  let (s, table) := match table with
    | some t => (s, t)
    | none => s.addTable
  let (s, token) := s.addToken
  .ok (s, { config, bus, table, token })

/-- Makes a gate, whose queue may be refused. -/
def tryCreateGate (h : Host) (s : System κ) (name : String) :
    Except Nat (Except GateError (System κ × Host × GateId)) := do
  let capacity ← Capacity.reserve maxQueueSlots (max h.config.queueSlots 1)
  .ok do
    let (fabric, g) := s.fabric.addGate { name, capacity, bus := h.bus }
    let s := { s with fabric }
    let (s, h) ← if h.started then h.spawn s g else .ok (s, h)
    .ok (s, { h with gates := h.gates ++ [g] }, g)

/-! ## Remote gates step by step -/

/-- A remote gate that is built joins a host, and is given a worker if the host is started. If it is
refused one its endpoint is withdrawn. -/
def takeOn (h : Host) (s : System κ) (r : RemoteGate) :
    System κ × Host × Except GateError RemoteGate :=
  match if h.started then h.spawn s r.gate else .ok (s, h) with
  | .error e => ((r.terminate s).1, h, .error e)
  | .ok (s, h) => (s, { h with gates := h.gates ++ [r.gate], remotes := h.remotes ++ [r] }, .ok r)

/-- Makes a remote gate in steps, with the outcome of setting up a client for it. A gate that is not
built goes away. -/
def createRemoteInSteps (h : Host) (s : System κ) (name : String) (mode : AddressMode)
    (facts : Facts) (catalogue : Wire.Catalogue) (client : Except String Unit) :
    System κ × Host × Except GateError RemoteGate :=
  let http := { h.config.http with mode }
  let (fabric, g) := s.fabric.addGate (h.newGate name)
  let s := { s with fabric }
  let leave (e : GateError) : System κ × Host × Except GateError RemoteGate :=
    (s.onFabric (·.removeGate g), h, .error e)
  match facts.host http.mode http.advertisedHost with
  | .error e => leave e
  | .ok host =>
    match client with
    | .error cause => leave (.httpClient cause)
    | .ok () =>
      let path := http.endpointPath name
      let handler := Handler.inbound { gate := g, catalogue, maxBodyBytes := http.maxBodyBytes }
      match s.register h.table path handler with
      | .error e => leave (.endpoint e)
      | .ok s =>
        h.takeOn s { gate := g, path, sender := senderAddress host http.port, table := h.table }

/-! ## Shutting down -/

/-- Removes the links of every gate. -/
def unlinkGates (gs : List GateId) (s : System κ) : System κ :=
  gs.foldl (fun s g => s.onFabric fun f => (f.unlinkAll g).1) s

/-- Withdraws the endpoint of every remote gate. -/
def withdraw (rs : List RemoteGate) (s : System κ) : System κ :=
  rs.foldl (fun s r => (r.terminate s).1) s

/-- The first half of a shutdown; gives the workers to wait for and the names of their gates. -/
def beginShutdown (h : Host) (s : System κ) : System κ × Host × List Tracked × List String :=
  let s := withdraw h.remotes (unlinkGates h.gates s)
  let (s, token) := (s.cancel h.token).addToken
  (s, { h with workers := [], running := [], token, started := false }, h.workers, h.running)

/-- Takes the first occurrence of a name out of a list; the last name fills the gap. -/
def swapRemove (names : List String) (name : String) : List String :=
  match names.idxOf? name, names.getLast? with
  | some i, some last => (names.set i last).dropLast
  | _, _ => names

/-- The names left when the given workers have ended, in the order in which they did. -/
def stuck (running ended : List String) : List String := ended.foldl swapRemove running

/-- The second half of a shutdown, when the grace is over: workers that have not ended are dropped
at their next step. -/
def finishShutdown (config : HostConfig) (workers : List Tracked) (running : List String)
    (s : System κ) : System κ × Except HostError Unit :=
  let (left, ended) := workers.partition fun t => s.workers.contains t.worker
  let s := left.foldl (fun s t => s.abort t.worker) s
  if left.isEmpty then (s, .ok ())
  else (s, .error (.graceExceeded config.grace (stuck running (ended.map Tracked.name))))

/-- The host goes away; its workers are dropped at their next step. -/
def dispose (h : Host) (s : System κ) : System κ :=
  h.workers.foldl (fun s t => s.abort t.worker) s

end Host

end EventGates
