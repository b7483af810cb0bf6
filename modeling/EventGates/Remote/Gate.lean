import EventGates.Config
import EventGates.Dispatch.System
import EventGates.Remote.Url

/-!
# Remote gates

A remote gate is a gate with an endpoint at its own node and an address. Events that it posts to
another node carry that address as their sender; the caller's event is left as it is. Whatever the
other node answers is returned, and any answer but success is also reported as a diagnostic.
-/

namespace EventGates

/-- A gate with an endpoint and an address. -/
structure RemoteGate where
  gate : GateId
  path : String
  sender : String
  /-- The table that the endpoint is in. -/
  table : TableId

/-- What answers, or fails to answer, at the other end of a request. -/
inductive Peer where
  | node (table : TableId)
  /-- Nothing listens. -/
  | closed
  /-- Connections are accepted, and no answer ever comes. -/
  | silent

namespace Gate

/-- The text of a gate; its number is not shown. -/
def description (g : Gate) : String :=
  "EventGate \x7b id: #, name: " ++ Text.quote g.name ++ ", running: " ++
    (if g.running then "true" else "false") ++ " \x7d"

end Gate

namespace RemoteGate

variable {κ : Type}

/-- Builds a remote gate: its address is found, the gate is made, and its endpoint is registered. -/
def build (s : System κ) (gate : Gate) (http : HttpConfig) (facts : Facts)
    (catalogue : Wire.Catalogue) (table : TableId) :
    Except GateError (System κ × RemoteGate) := do
  let host ← facts.host http.mode http.advertisedHost
  let (fabric, g) := s.fabric.addGate gate
  let path := http.endpointPath gate.name
  let handler := Handler.inbound { gate := g, catalogue, maxBodyBytes := http.maxBodyBytes }
  match { s with fabric }.register table path handler with
  | .error e => .error (.endpoint e)
  | .ok s => .ok (s, { gate := g, path, sender := senderAddress host http.port, table })

/-- Withdraws the endpoint; false if nothing was served at its path. -/
def terminate (r : RemoteGate) (s : System κ) : System κ × Bool := s.unregister r.table r.path

/-- The text of a remote gate. -/
def description (r : RemoteGate) (gate : Gate) : String :=
  "RemoteGate \x7b gate: " ++ gate.description ++ ", path: " ++ Text.quote r.path ++ ", sender: " ++
    Text.quote r.sender ++ " \x7d"

/-- A header value may hold any byte but controls other than the tab. -/
def isHeaderByte (b : UInt8) : Bool := (0x20 ≤ b && b != 0x7F) || b == 0x09

/-- How other nodes are named in records. -/
def peerAuthority : String := "peer"

/-- The request that carries an event to a target. -/
def request (r : RemoteGate) (target : Url) (e : Event) : Request :=
  { path := target.path
    contentType := some (Text.encodeString (Wire.contentType e.typeName))
    body := (Wire.encode { e with sender := some r.sender }).bytes }

/-- The reason in the record about an answer other than success. -/
def rejection (status : Nat) (target : Url) : String :=
  toString status ++ " from " ++ target.text peerAuthority

/-- Why an event is not sent at all. -/
def refusal? (e : Event) : Option TransportError :=
  if e.payload.isCustom && isReserved e.typeName then some (.reservedType e.typeName)
  else if (Text.encodeString (Wire.contentType e.typeName)).all isHeaderByte then none
  else some (.request .other)

/-- Posts an event to a target at another node and gives the status of the answer. -/
def post (r : RemoteGate) (s : System κ) (peer : Peer) (target : Url) (e : Event) :
    System κ × Except TransportError Nat :=
  match refusal? e with
  | some cause => (s, .error cause)
  | none =>
    match peer with
    | .closed => (s, .error (.request .connect))
    | .silent => (s, .error (.request .timeout))
    | .node table =>
      let (s, response) := s.route table (r.request target e)
      let s :=
        if response.status = 200 then s
        else
          s.onFabric fun f =>
            f.diagnose r.gate .remoteRejected (some e.typeName)
              (some (rejection response.status target))
      (s, .ok response.status)

end RemoteGate

end EventGates
