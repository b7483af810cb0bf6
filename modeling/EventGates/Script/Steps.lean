import EventGates.Script.Run

/-!
# Steps and reports

A script is carried out step by step. After each step it is reported what the step answered and
what the listeners have seen and done since the last report: scripted listeners one entry for each
callback and for each action, logging listeners a line for each event.
-/

namespace EventGates.Script

/-- What a report tells of a scripted listener. -/
inductive Entry where
  /-- It was called; its details are given if the listener reports them. -/
  | called (kind : EventKind) (seq : Nat) (key : String)
      (details : Option (Option String × Payload))
  | did (label : String) (answer : Answer)

/-- What happened since the last report. -/
structure Report where
  entries : List (String × Entry) := []
  log : List Summary := []

/-- What is told of a call. -/
def Listening.told? (l : Listening) (e : Event) : Option Entry :=
  match l.program with
  | .scripted _ full _ _ =>
    if l.program.reactsTo e.kind then
      some (.called e.kind e.seq e.payload.key (if full then some (e.sender, e.payload) else none))
    else none
  | _ => none

/-- When reports are made. -/
inductive Reporting where
  | always
  /-- Only when a callback was waited for. -/
  | whenReached
deriving DecidableEq, Repr

/-- A report is due after a step. -/
def Reporting.isDue : Reporting → Step → Bool
  | always, _ => true
  | whenReached, .awaitReached _ => true
  | whenReached, _ => false

namespace Session

/-! ## Reports -/

/-- The entries about an occurrence. -/
def entries (s : Session) (o : Occurrence) : List (String × Entry) :=
  let of := fun (x : ListenerId) (told? : Listening → Option Entry) =>
    match s.listeners.find? x with
    | none => []
    | some l => ((told? l).map fun entry => (l.key, entry)).toList
  match o with
  | .called x e => of x fun l => l.told? e
  | .did x label answer => of x fun _ => some (.did label answer)

/-- The line about an occurrence. -/
def line? (s : Session) : Occurrence → Option Summary
  | .called x e =>
    match s.listeners.find? x with
    | some { program := .logging, .. } => some e.summary
    | _ => none
  | .did .. => none

/-- The report on some occurrences, the earliest first. -/
def report (s : Session) (os : List Occurrence) : Report :=
  { entries := os.flatMap s.entries, log := os.filterMap s.line? }

/-! ## Deliveries to other nodes -/

/-- The peer that a target names. -/
def peer (s : Session) : Target → Session × Peer
  | .closed => (s, .closed)
  | .silent => (s, .silent)
  | .node key =>
    let (s, t) := s.table key
    (s, .node t)

/-- Posts an event to another node. -/
def postPeer (s : Session) (key : String) (target : Target) (path : String) (d : Draft) :
    Session × Answer :=
  let (s, e) := s.makeEvent d
  match s.names.remotes.find? key with
  | none => (s, .nothing)
  | some r =>
    let (s, peer) := s.peer (if Url.endsAuthority path then target else .closed)
    let (system, outcome) := r.post s.system peer (Url.parse path) e
    (s.onSystem fun _ => system, match outcome with
      | .error cause => .transportError cause
      | .ok status => .delivered status e.sender)

/-! ## Shutting a host down -/

/-- Shuts a host down; unless its grace is zero the workers settle meanwhile. -/
def shutdown (s : Session) (key : String) : Session × Answer :=
  s.withHost key fun h =>
    if h.config.grace = 0 then s.perform (.host (.release key))
    else
      let (s, workers, running) := s.beginShutdown key h
      let s := s.settle
      let (system, outcome) := Host.finishShutdown h.config workers running s.system
      let s := (s.onSystem fun _ => system).settle
      match outcome with
      | .error e => (s, .hostError e)
      | .ok () => (s, .flag true)

/-! ## Steps -/

/-- Calls a listener outside any delivery. -/
def deliver (s : Session) (listener : String) (d : Draft) : Session :=
  let (s, e) := s.makeEvent d
  match s.names.listeners.find? listener with
  | none => s
  | some x =>
    let (s, f) := s.call x e
    runCallback patience { frames := [f] } s

/-- Carries out a step. -/
def carryOut (s : Session) : Step → Session × Answer
  | .perform c => s.perform c
  | .deliver listener d => (s.deliver listener d, .nothing)
  | .settle => (s.settle, .nothing)
  | .stop gate => ((s.cancel gate).settle, .nothing)
  | .postPeer remote target path d =>
    let (s, answer) := s.settle.postPeer remote target path d
    (s.settle, answer)
  | .shutdown host => s.shutdown host
  | .runUntilSignal host =>
    match s.performHost (.start host) with
    | (s, .flag true) =>
      let (s, answer) := s.settle.shutdown host
      (s.settle, answer)
    | (s, answer) => (s, answer)
  | .awaitReached _ => (s.settle, .nothing)
  | .unblock key => (s.unblock key, .nothing)
  | .awaitStopped _ => (s.settle, .nothing)

/-- Carries out steps; `told` occurrences were reported before. -/
def runFrom (reporting : Reporting) : List Step → Nat → Session → List (Answer × Report)
  | [], _, _ => []
  | step :: steps, told, s =>
    let (s, answer) := s.carryOut step
    if reporting.isDue step then
      let fresh := (s.trace.take (s.trace.length - told)).reverse
      (answer, s.report fresh) :: runFrom reporting steps s.trace.length s
    else (answer, {}) :: runFrom reporting steps told s

/-- Carries out a script from the beginning. -/
def run (reporting : Reporting) (steps : List Step) : List (Answer × Report) :=
  runFrom reporting steps 0 {}

end Session

end EventGates.Script
