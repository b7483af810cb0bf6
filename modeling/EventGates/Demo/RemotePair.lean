import EventGates.Demo.Outcome
import EventGates.Dispatch.Reaction

/-!
# A remote pair

Two nodes of one process, each with a host and a remote gate. One posts an event to the other over
the loopback address; the receiving node prints the event, the sending one the status of the
answer.
-/

namespace EventGates.Demo.RemotePair

/-- The address of both nodes. -/
def loopback : String := "127.0.0.1"

/-- The settings of a node that listens at a port. -/
def settings (config : HostConfig) (port : Nat) : HostConfig :=
  { config with http := { config.http with port, advertisedHost := some loopback } }

/-- What is sent. -/
def announcement : Draft :=
  ⟨.newItem
    { sourceItemUid := "0x12ab"
      pemUid := "zigbee"
      itemType := .sensor
      capabilities := ["temperature"] }, none⟩

/-- The listener that prints. -/
def printer : ListenerId := 0

/-- The line about a new item. -/
def itemLine (p : NewItem) (sender : Option String) : String :=
  "[b-hub] new item " ++ p.sourceItemUid ++ " (" ++ p.itemType.label ++ ") from " ++
    sender.getD "?"

/-- What the listener prints. -/
def react : Reaction (List String) := fun _ e (lines, f) =>
  match e.payload with
  | .newItem p => (lines ++ [itemLine p e.sender], f)
  | _ => (lines, f)

/-- The phrase that goes with a status. -/
def reason : Nat → String
  | 200 => "OK"
  | 400 => "Bad Request"
  | 404 => "Not Found"
  | 405 => "Method Not Allowed"
  | 500 => "Internal Server Error"
  | _ => "<unknown status code>"

def statusLine (status : Nat) : String :=
  "[a-hub] delivered with status " ++ toString status ++ " " ++ reason status

/-- Why nothing is printed. -/
inductive Failure where
  | gate (e : GateError)
  | host (e : HostError)
  | transport (e : TransportError)
  /-- The path of the receiving gate does not follow an authority. -/
  | target (path : String)

/-- A host that serves a table of its own, with a remote gate. -/
def node (s : System Empty) (config : HostConfig) (port : Nat) (name : String) :
    Except Failure (System Empty × Host × RemoteGate) := do
  let (s, h) := Host.build s (settings config port) none
  (h.createRemote s name .dns {} {}).mapError .gate

/-- Posts the announcement from one node to the other. -/
def play (config : HostConfig) (portA portB : Nat) : Except Failure (List String) := do
  let (s, hostA, hubA) ← node {} config portA "a-hub"
  let (s, hostB, hubB) ← node s config portB "b-hub"
  let s := s.onFabric fun f => (f.addListener hubB.gate printer).1
  let (s, _, startedA) := hostA.start s
  startedA.mapError .host
  let (s, _, startedB) := hostB.start s
  startedB.mapError .host
  if Url.endsAuthority hubB.path then
    let (fabric, e) := s.fabric.makeEvent announcement
    let (s, outcome) := hubA.post { s with fabric } (.node hubB.table) (Url.parse hubB.path) e
    let status ← outcome.mapError .transport
    let (printed, _) := System.reactWithin react patience ([], s)
    .ok (statusLine status :: printed)
  else .error (.target hubB.path)

/-- Runs the pair with the given settings and ports. -/
def run (config : HostConfig) (portA portB : Nat) : Outcome :=
  .of config (play config portA portB)

end EventGates.Demo.RemotePair
