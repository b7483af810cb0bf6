/-!
# Diagnostic records

Whatever a producer is not told about is published as a record: drops, panics of listeners, the
start and the end of dispatch, and trouble with other nodes.
-/

namespace EventGates

/-- What a record is about. -/
inductive DiagnosticKind where
  /-- An event was dropped because the queue was full. -/
  | queueOverflow
  /-- An event was dropped because no dispatcher served the queue. -/
  | gateIdle
  | listenerPanicked
  | dispatchStarted
  | dispatchStopped
  /-- Another node answered a delivery with a status other than success. -/
  | remoteRejected
  /-- A body of an unknown type came in. -/
  | unknownEventType
deriving DecidableEq, Repr

namespace DiagnosticKind

def label : DiagnosticKind → String
  | queueOverflow => "queue_overflow"
  | gateIdle => "gate_idle"
  | listenerPanicked => "listener_panicked"
  | dispatchStarted => "dispatch_started"
  | dispatchStopped => "dispatch_stopped"
  | remoteRejected => "remote_rejected"
  | unknownEventType => "unknown_event_type"

def all : List DiagnosticKind :=
  [queueOverflow, gateIdle, listenerPanicked, dispatchStarted, dispatchStopped, remoteRejected,
    unknownEventType]

/-- The kind with the given label. -/
def ofLabel? (s : String) : Option DiagnosticKind := all.find? fun k => k.label == s

end DiagnosticKind

/-- A record, apart from its number. -/
structure Finding where
  kind : DiagnosticKind
  gate : Option String := none
  eventType : Option String := none
  reason : Option String := none
deriving DecidableEq, Repr

/-- A numbered record. -/
structure Diagnostic extends Finding where
  /-- Number of records made before it. -/
  seq : Nat
deriving DecidableEq, Repr

end EventGates
