import EventGates.Demo.Outcome
import EventGates.Dispatch.Reaction

/-!
# A relay

Three gates in a line. Requests to add items are posted at the first; a listener at the middle one
answers each with a confirmation, posted to both neighbours. At the end the counters of the gates
are printed, and after the shutdown the diagnostics, up to the first loss.
-/

namespace EventGates.Demo.Relay

/-- How many requests are posted. -/
def requests : Nat := 5

/-- The listener that answers requests. -/
def bridge : ListenerId := 0

/-- The listener that only looks on. -/
def onlooker : ListenerId := 1

/-- A request to add an item. -/
def request (i : Nat) : Draft :=
  ⟨.addItem
    { sourceItemUid := "lamp-" ++ toString i
      userProperties := Properties.empty.insert "room" (.ofString "hall") }, none⟩

/-- The confirmation that answers a request. -/
def confirmation (p : AddItem) : Draft :=
  ⟨.itemAdded
    { sourceItemUid := p.sourceItemUid
      pemUid := "demo-pem"
      itemType := .actuator
      userProperties := p.userProperties
      capabilities := p.capabilities.getD [] }, none⟩

/-- What the listeners do; the bridge is at the given gate. -/
def react (model : GateId) : Reaction Unit := fun x e ((), f) =>
  match e.payload with
  | .addItem p =>
    if x = bridge then
      let (f, answer) := f.makeEvent (confirmation p)
      ((), f.post model answer)
    else ((), f)
  | _ => ((), f)

/-- Posts the requests at a gate. -/
def postRequests (app : GateId) (f : Fabric) : Fabric :=
  (List.range requests).foldl (fun f i =>
    let (f, e) := f.makeEvent (request i)
    f.post app e) f

/-- A text that fills at least `width` columns. -/
def padded (width : Nat) (s : String) : String :=
  s ++ String.ofList (List.replicate (width - s.length) ' ')

def statsLine (gate : Gate) : String :=
  "[stats] " ++ padded 6 gate.name ++ " accepted=" ++ toString gate.counters.accepted ++
    " delivered=" ++ toString gate.counters.delivered ++ " dropped=" ++
    toString gate.counters.dropped

def diagnosticLine (d : Diagnostic) : String :=
  "[diag] " ++ padded 18 d.kind.label ++ " gate=" ++ d.gate.getD "-"

/-- The lines about what a subscriber reads, up to the first loss. -/
def diagnosticLines : List Reading → List String
  | .record d :: rs => diagnosticLine d :: diagnosticLines rs
  | _ => []

/-- Runs the relay on a host; the gates are linked in a line, with the bridge in the middle. -/
def play (config : HostConfig) : Except HostError (List String) := do
  let (s, h) := Host.build ({} : System Empty) config none
  let (s, h, app) ← (h.createGate s "app").mapError .gate
  let (s, h, model) ← (h.createGate s "model").mapError .gate
  let (s, h, ui) ← (h.createGate s "ui").mapError .gate
  let selfLink := fun g => HostError.gate (.selfLink (s.fabric.name g))
  let (f, _) ← (s.fabric.link app model).mapError selfLink
  let (f, _) ← (f.link model ui).mapError selfLink
  let f := (f.addListener model bridge).1
  let f := (f.addListener app onlooker).1
  let f := (f.addListener ui onlooker).1
  let (s, h, started) := h.start { s with fabric := f }
  started
  let (_, s) := System.reactWithin (react model) patience ((), s.onFabric (postRequests app))
  let stats := (h.gates.filterMap s.fabric.gates.find?).map statsLine
  let (s, h, workers, running) := h.beginShutdown s
  let (_, s) := System.reactWithin (react model) patience ((), s)
  let (s, outcome) := Host.finishShutdown h.config workers running s
  let diagnostics := match h.bus.bind s.fabric.buses.find? with
    | none => []
    | some bus => diagnosticLines (bus.unread 0)
  match outcome with
  | .error e => .error e
  | .ok () => .ok (stats ++ diagnostics)

/-- Runs the relay with the given settings. -/
def run (config : HostConfig) : Outcome := .of config (play config)

end EventGates.Demo.Relay
