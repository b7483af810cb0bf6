import EventGates.Host

/-!
# Answers of a script

A step answers with what its operation returns, or with what it shows of an object.
-/

namespace EventGates.Script

/-- What a gate shows of itself. -/
structure GateState where
  name : String
  capacity : Nat
  running : Bool
  partners : List String
  partnerCount : Nat
  listeners : Nat
  counters : Counters

/-- What a remote gate shows of itself. -/
structure RemoteInfo where
  path : String
  sender : String
  name : String
  description : String

inductive Answer where
  | nothing
  | flag (b : Bool)
  | count (n : Nat)
  | text (s : String)
  | names (ss : List String)
  | mutation (m : Mutation)
  /-- What a change did to a registry that belongs to no gate, and its size. -/
  | registry (m : Option Mutation) (size : Nat)
  | counters (c : Counters)
  | gate (g : GateState)
  | gates (gs : List (String × GateState))
  /-- A gate that a host made. -/
  | made (capacity : Nat) (running : Bool)
  | readings (closed : Bool) (rs : List Reading)
  /-- The records by the name of their gate, and how many were lost, time after time. -/
  | readingsByGate (closed : Bool) (records : List (String × List Diagnostic)) (lost : List Nat)
  | response (r : Response)
  | remote (r : RemoteInfo)
  /-- The status of a delivery, and the sender of the event afterwards. -/
  | delivered (status : Nat) (sender : Option String)
  | config (c : HostConfig)
  | gateError (e : GateError)
  | pathTaken (e : PathTaken)
  | transportError (e : TransportError)
  | hostError (e : HostError)

/-! ## Readings by gate -/

/-- The records of a gate, with those of the gates before it. -/
def addByGate (d : Diagnostic) : List (String × List Diagnostic) → List (String × List Diagnostic)
  | [] => [(d.gate.getD "", [d])]
  | (name, ds) :: rest =>
    if d.gate.getD "" = name then (name, ds ++ [d]) :: rest else (name, ds) :: addByGate d rest

/-- The records among several readings, by gate. -/
def recordsByGate (rs : List Reading) : List (String × List Diagnostic) :=
  rs.foldl (fun groups r => match r with
    | .record d => addByGate d groups
    | .lagged _ => groups) []

/-- The losses among several readings. -/
def losses (rs : List Reading) : List Nat :=
  rs.filterMap fun
    | .lagged n => some n
    | .record _ => none

end EventGates.Script
