import EventGates.Script.Perform

/-!
# Callbacks and workers at work

A callback goes through its actions one at a time. A worker goes on until its callback is
suspended, and ends when it finds its token cancelled: before it takes an event, before it
delivers one, or while its callback waits for a signal. A callback that holds its thread is not
interrupted.
-/

namespace EventGates.Script

/-- The message of a panic whose own is not known. -/
def unknownPanic : String := "unknown panic"

/-- What becomes of a callback in one of its steps. -/
inductive Progress where
  | underWay (c : Callback)
  | returned
  | panicked (message : String)

/-- A program reacts to a kind of events. -/
def Program.reactsTo : Program → EventKind → Bool
  | .scripted (some kinds) _ _ _, kind => kinds.contains kind
  | .scripted none _ _ _, _ => true
  | _, _ => false

/-- The actions that a listener goes through for an event, and the listener afterwards. -/
def Listening.respond (l : Listening) (e : Event) : Listening × List Action :=
  match l.program with
  | .scripted _ _ actions _ =>
    if !l.program.reactsTo e.kind then (l, [])
    else
      match l.runsLeft with
      | none => (l, actions)
      | some 0 => (l, [])
      | some (n + 1) => ({ l with runsLeft := some n }, actions)
  | _ => (l, [])

/-- The callback of a worker is suspended, and the worker is not dropped for that. -/
def isSuspended (worker : Worker Callback) : Bool :=
  match worker.phase with
  | .delivering { callback := some c, .. } => !c.pause.isOver worker.aborted
  | _ => false

namespace Session

/-! ## Callbacks -/

/-- Calls a listener. -/
def call (s : Session) (x : ListenerId) (e : Event) : Session × Frame :=
  let s := s.note (.called x e)
  match s.listeners.find? x with
  | none => (s, { listener := x, event := e, actions := [] })
  | some l =>
    let (l, actions) := l.respond e
    ({ s with listeners := s.listeners.insert x l }, { listener := x, event := e, actions })

/-- The next action of a callback whose top frame and other frames are given. The callback is that
of a worker, or of none. -/
def act (s : Session) (w : Option WorkerId) (f : Frame) (fs : List Frame) :
    Action → Session × Progress
  | .panic message => (s, .panicked (message.getD unknownPanic))
  | .wait key =>
    match s.takeStored key with
    | some s => (s.note (.did f.listener "wait" (.text key)), .underWay ⟨f :: fs, .none⟩)
    | none =>
      let s := match w with
        | none => s
        | some w => s.enqueue key w
      (s, .underWay ⟨f :: fs, .waiting key false⟩)
  | .block key => (s, .underWay ⟨f :: fs, .blocked key false⟩)
  | .deliver listener d =>
    let (s, e) := s.makeEvent d
    match s.names.listeners.find? listener with
    | none => (s.note (.did f.listener "deliver" .nothing), .underWay ⟨f :: fs, .none⟩)
    | some x =>
      let (s, inner) := s.call x e
      (s, .underWay ⟨inner :: f :: fs, .none⟩)
  | .perform c =>
    let (s, answer) := s.perform c
    (s.note (.did f.listener c.label answer), .underWay ⟨f :: fs, .none⟩)

/-- One step of a callback that is not suspended. -/
def stepFrames (s : Session) (w : Option WorkerId) : List Frame → Session × Progress
  | [] => (s, .returned)
  | f :: fs =>
    match f.actions with
    | a :: rest => s.act w { f with actions := rest } fs a
    | [] =>
      match fs with
      | [] => (s, .returned)
      | outer :: _ => (s.note (.did outer.listener "deliver" .nothing), .underWay ⟨fs, .none⟩)

/-- A callback goes on after a pause. -/
def resume (s : Session) (label key : String) (frames : List Frame) : Session × Progress :=
  let s := match frames with
    | [] => s
    | f :: _ => s.note (.did f.listener label (.text key))
  (s, .underWay ⟨frames, .none⟩)

/-- One step of a callback, none while it is suspended. -/
def stepCallback (s : Session) (w : Option WorkerId) (c : Callback) : Option (Session × Progress) :=
  match c.pause with
  | .none => some (s.stepFrames w c.frames)
  | .waiting key true => some (s.resume "wait" key c.frames)
  | .blocked key true => some (s.resume "block" key c.frames)
  | _ => none

/-- Runs a callback outside any delivery, in at most so many steps, until it returns or panics or is
suspended. -/
def runCallback : Nat → Callback → Session → Session
  | 0, _, s => s
  | steps + 1, c, s =>
    match s.stepCallback none c with
    | some (s, .underWay c) => runCallback steps c s
    | some (s, _) => s
    | none => s

/-! ## Workers -/

/-- A worker ends. -/
def finish (s : Session) (w : WorkerId) (worker : Worker Callback) : Session :=
  let s := match worker.phase with
    | .delivering { callback := some c, .. } => s.giveUp w c.pause
    | _ => s
  s.onSystem (·.finish w worker)

/-- One step of a delivery, none while its callback is suspended. -/
def stepDelivery (s : Session) (w : WorkerId) (worker : Worker Callback) (d : Delivery Callback) :
    Option Session :=
  match d.callback, d.remaining with
  | none, [] => some (s.onSystem (·.completeDelivery w worker))
  | none, x :: xs =>
    let (s, f) := s.call x d.event
    some (s.onSystem (·.setPhase w
      (.delivering { d with callback := some { frames := [f] }, remaining := xs })))
  | some c, _ =>
    if c.pause.isInterruptible && s.system.isStopping worker then some (s.finish w worker)
    else
      (s.stepCallback (some w) c).map fun (s, progress) => s.onSystem fun sys =>
        match progress with
        | .underWay c => sys.setPhase w (.delivering { d with callback := some c })
        | .returned => sys.setPhase w (.delivering { d with callback := none })
        | .panicked message => sys.panicked w worker d message

/-- The most events that a worker takes in one turn. -/
def eventsPerTurn : Nat := 128

/-- A worker takes the next event, if there is one. -/
def receive (s : Session) (w : WorkerId) (worker : Worker Callback) : Option Session :=
  (s.system.receive w worker).map fun system => { s with system, taken := s.taken + 1 }

/-- One step of a worker, none if it has to wait or its turn is over. A worker that waits for its
turn or has come to the end of it counts as waiting when it is to be dropped. -/
def stepWorker (s : Session) (w : WorkerId) (worker : Worker Callback) : Option Session :=
  match worker.phase with
  | .unstarted =>
    some (if worker.aborted then s.finish w worker else s.onSystem (·.begin w worker))
  | .ready =>
    some (if s.system.isCancelled worker.token then s.finish w worker
      else (s.receive w worker).getD (s.onSystem (·.setPhase w .idle)))
  | .idle =>
    if s.system.isStopping worker then some (s.finish w worker) else s.receive w worker
  | .holding e =>
    if worker.aborted && (s.taken == 0 || s.taken == eventsPerTurn) then some (s.finish w worker)
    else if s.taken = eventsPerTurn then none
    else
      some (if s.system.isCancelled worker.token then s.finish w worker
        else s.onSystem (·.beginDelivery w worker e))
  | .delivering d => s.stepDelivery w worker d

/-- The first in line leaves the line. -/
def endTurn (s : Session) : Session := { s with line := s.line.drop 1, taken := 0 }

/-- One step of the first worker in line; its turn may end with that. None if the line is empty. -/
def step (s : Session) : Option Session :=
  match s.line with
  | [] => none
  | w :: _ =>
    let s := match (s.system.workers.find? w).bind (s.stepWorker w) with
      | none => s.endTurn
      | some s => if (s.system.workers.find? w).any isSuspended then s.endTurn else s
    some (s.collect.awaken [])

/-- Lets the workers make so many steps at most. -/
def settleWithin : Nat → Session → Session
  | 0, s => s
  | steps + 1, s =>
    match s.step with
    | none => s
    | some s => settleWithin steps s

/-- More steps than a script that comes to rest needs. -/
def patience : Nat := 10000000

/-- Lets every worker run until it is idle, suspended or gone. -/
def settle (s : Session) : Session := (s.awaken []).settleWithin patience

end Session

end EventGates.Script
