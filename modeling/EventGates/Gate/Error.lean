import EventGates.Remote.Address
import EventGates.Text.Span

/-!
# Errors of gates, endpoints, deliveries and hosts

Each error names its cause. Its message is for people, its label is a short stable name for records.
-/

namespace EventGates

/-- A path that is served already, in its plain form. -/
structure PathTaken where
  path : String
deriving DecidableEq, Repr

def PathTaken.message (e : PathTaken) : String :=
  "endpoint " ++ Text.quote e.path ++ " is already registered"

/-- Errors in building, linking and starting gates. -/
inductive GateError where
  | selfLink (gate : String)
  | alreadyRunning (gate : String)
  | noAddress (mode : AddressMode)
  | httpClient (cause : String)
  | endpoint (cause : PathTaken)
deriving DecidableEq, Repr

namespace GateError

def message : GateError → String
  | selfLink gate => "gate " ++ Text.quote gate ++ " cannot be linked to itself"
  | alreadyRunning gate => "gate " ++ Text.quote gate ++ " already has a running dispatch worker"
  | noAddress mode => "no local address available for addressing mode " ++ mode.name
  | httpClient cause => "http client setup failed: " ++ cause
  | endpoint cause => cause.message

def label : GateError → String
  | selfLink _ => "gate_self_link"
  | alreadyRunning _ => "gate_already_running"
  | noAddress _ => "gate_no_address"
  | httpClient _ => "gate_http_client"
  | endpoint _ => "gate_endpoint"

end GateError

/-- How a request failed before an answer came. -/
inductive RequestFailure where
  | timeout
  | connect
  | other
deriving DecidableEq, Repr

/-- Errors in delivering an event to another node. An answer of any status is no error. -/
inductive TransportError where
  | encode (typeName cause : String)
  | reservedType (typeName : String)
  | request (failure : RequestFailure)
deriving DecidableEq, Repr

namespace TransportError

/-- The message; that of a failed request is the network's own. -/
def message? : TransportError → Option String
  | encode typeName cause =>
    some ("cannot encode event " ++ Text.quote typeName ++ ": " ++ cause)
  | reservedType typeName =>
    some ("custom event uses reserved type identity " ++ Text.quote typeName)
  | request _ => none

def label : TransportError → String
  | encode .. => "transport_encode"
  | reservedType _ => "transport_reserved_type"
  | request .timeout => "transport_timeout"
  | request .connect => "transport_connect"
  | request .other => "transport_request"

/-- Whether the same delivery may succeed later. -/
def retryable : TransportError → Bool
  | request _ => true
  | _ => false

end TransportError

/-- Errors of hosts. -/
inductive HostError where
  /-- The grace in milliseconds passed, and the workers of these gates had not stopped. -/
  | graceExceeded (grace : Nat) (stuck : List String)
  | gate (cause : GateError)
  | signal (cause : String)
deriving DecidableEq, Repr

namespace HostError

def message : HostError → String
  | graceExceeded grace stuck =>
    "shutdown timeout " ++ Text.span grace ++ " exceeded; stuck: " ++ Text.quoteList stuck
  | gate cause => cause.message
  | signal cause => "signal handler registration failed: " ++ cause

def label : HostError → String
  | graceExceeded .. => "host_grace_exceeded"
  | gate _ => "host_gate"
  | signal _ => "host_signal"

end HostError

/-- The host part of the address of a node: an advertised one, or one found from its facts. -/
def Facts.host (facts : Facts) (mode : AddressMode) (advertised : Option String) :
    Except GateError String :=
  match advertised.or (facts.host? mode) with
  | some host => .ok host
  | none => .error (.noAddress mode)

end EventGates
