import EventGates.Gate.Error
import EventGates.Proofs.Gate.Queue
import EventGates.Table

/-!
# Who may take the events of a gate

A producer looks whether the gate is running and tries to put its event into the queue at an instant
of its own. Whoever asks for the dispatcher is given it, with the queue emptied and the gate running,
at one instant, or is refused. A dispatcher that is dropped lets go of the gate in three steps: it
closes the gate, discards what is left in the queue, and gives the receiving end back. Between any two
of these instants everybody else may do the same to the same gate.

`Handshake` is a gate with all that is under way, `Handshake.step` what can happen next, by the cases
of `Handshake.Turn`, and `Handshake.run` any order of it. The main theorem `run_single` says that there
is one dispatcher at most, whatever the order, and that none delivers an event of the time before it;
`run_post` and `run_letGo` say that a producer and a dispatcher that are alone do by these steps what
they do at one instant elsewhere.
-/

namespace EventGates

abbrev ProducerId := Nat

abbrev DispatcherId := Nat

/-- How far a dispatcher is in letting go of its gate. -/
inductive Grip where
  | serving
  /-- It has closed the gate. -/
  | closed
  /-- It has discarded what was left in the queue, and still has the receiving end. -/
  | drained
deriving DecidableEq, Repr

/-- An event that a dispatcher took. -/
structure Taking where
  dispatcher : DispatcherId
  /-- How many events had left the queue before. -/
  entry : Nat
  event : Event

/-- A gate and whatever is under way at its queue. -/
structure Handshake where
  gate : Gate
  /-- The events of producers that found the gate running and have not come to the queue yet. -/
  late : Table ProducerId Event := {}
  /-- The dispatchers that exist. -/
  dispatchers : Table DispatcherId Grip := {}
  nextDispatcher : DispatcherId := 0
  /-- The events that were let into the queue, in order. -/
  accepted : List Event := []
  /-- How many of them have left it. -/
  gone : Nat := 0
  takings : List Taking := []

/-- What happens to a gate at one instant. -/
inductive HandshakeStep where
  /-- A producer looks whether the gate is running. -/
  | look (p : ProducerId) (e : Event)
  /-- It tries to put its event into the queue. -/
  | send (p : ProducerId)
  /-- Somebody asks for the dispatcher. -/
  | ask
  /-- A dispatcher takes the next event to deliver it. -/
  | take (d : DispatcherId)
  | close (d : DispatcherId)
  | drain (d : DispatcherId)
  | giveBack (d : DispatcherId)

/-- The step is part of the dropping of a dispatcher. -/
def HandshakeStep.isDrop : HandshakeStep → Bool
  | close _ => true
  | drain _ => true
  | giveBack _ => true
  | _ => false

def HandshakeStep.isAsk : HandshakeStep → Bool
  | ask => true
  | _ => false

namespace Handshake

/-- Somebody asks for the dispatcher, and is given one or refused. -/
def ask (n : Handshake) : Handshake × Except GateError DispatcherId :=
  match n.gate.handOut with
  | none => (n, .error (.alreadyRunning n.gate.name))
  | some gate =>
    ({ n with
        gate
        dispatchers := n.dispatchers.insert n.nextDispatcher .serving
        nextDispatcher := n.nextDispatcher + 1
        gone := n.gone + n.gate.queue.length }, .ok n.nextDispatcher)

/-- What a step leads to; none if it cannot be taken. -/
def step (n : Handshake) : HandshakeStep → Option Handshake
  | .look p e =>
    if n.late.contains p then none
    else if n.gate.running then some { n with late := n.late.insert p e }
    else some { n with gate := n.gate.dropIdle }
  | .send p => (n.late.find? p).map fun e =>
    match n.gate.push e with
    | (gate, .accepted) =>
      { n with gate, late := n.late.erase p, accepted := n.accepted ++ [e] }
    | (gate, _) => { n with gate, late := n.late.erase p }
  | .ask => some n.ask.1
  | .take d =>
    if n.dispatchers.find? d = some .serving then
      n.gate.pop.map fun (e, gate) =>
        { n with gate, gone := n.gone + 1, takings := n.takings ++ [⟨d, n.gone, e⟩] }
    else none
  | .close d =>
    if n.dispatchers.find? d = some .serving then
      some { n with gate := n.gate.close, dispatchers := n.dispatchers.insert d .closed }
    else none
  | .drain d =>
    if n.dispatchers.find? d = some .closed then
      some { n with
        gate := n.gate.drain
        dispatchers := n.dispatchers.insert d .drained
        gone := n.gone + n.gate.queue.length }
    else none
  | .giveBack d =>
    if n.dispatchers.find? d = some .drained then
      some { n with gate := n.gate.takeBack, dispatchers := n.dispatchers.erase d }
    else none

/-- Takes a step, if it can be taken. -/
def next (n : Handshake) (e : HandshakeStep) : Handshake := (n.step e).getD n

/-- Takes steps from where they can be taken. -/
def runFrom (n : Handshake) (es : List HandshakeStep) : Handshake := es.foldl next n

/-- Takes steps at a new gate. -/
def run (name : String) (capacity : Nat) (bus : Option BusId) (es : List HandshakeStep) :
    Handshake := runFrom { gate := { name, capacity, bus } } es

/-- What is answered in a step. -/
def answer? (n : Handshake) : HandshakeStep → Option (Except GateError DispatcherId)
  | .ask => some n.ask.2
  | _ => none

/-- What those are answered who ask for the dispatcher, in order. -/
def answersFrom : Handshake → List HandshakeStep → List (Except GateError DispatcherId)
  | _, [] => []
  | n, e :: es => (n.answer? e).toList ++ answersFrom (n.next e) es

/-! ## What a step can be -/

/-- A step that can be taken, with what makes it possible. -/
inductive Turn (n : Handshake) : HandshakeStep → Handshake → Prop where
  | letIn {p : ProducerId} (e : Event) (running : n.gate.running = true) :
    Turn n (.look p e) { n with late := n.late.insert p e }
  | turnAway {p : ProducerId} (e : Event) (idle : n.gate.running = false) :
    Turn n (.look p e) { n with gate := n.gate.dropIdle }
  | accept {p : ProducerId} (e : Event) (room : n.gate.queue.length < n.gate.capacity) :
    Turn n (.send p)
      { n with
        gate := (n.gate.push e).1, late := n.late.erase p, accepted := n.accepted ++ [e] }
  | overflow {p : ProducerId} (e : Event) (full : n.gate.capacity ≤ n.gate.queue.length) :
    Turn n (.send p) { n with gate := (n.gate.push e).1, late := n.late.erase p }
  | handOut (free : n.gate.handedOut = false) :
    Turn n .ask
      { n with
        gate := { n.gate with queue := [], running := true, handedOut := true }
        dispatchers := n.dispatchers.insert n.nextDispatcher .serving
        nextDispatcher := n.nextDispatcher + 1
        gone := n.gone + n.gate.queue.length }
  | refuse (out : n.gate.handedOut = true) : Turn n .ask n
  | take {d : DispatcherId} {e : Event} {es : List Event}
    (serving : n.dispatchers.find? d = some .serving) (first : n.gate.queue = e :: es) :
    Turn n (.take d)
      { n with
        gate := { n.gate with queue := es }
        gone := n.gone + 1
        takings := n.takings ++ [⟨d, n.gone, e⟩] }
  | close {d : DispatcherId} (serving : n.dispatchers.find? d = some .serving) :
    Turn n (.close d)
      { n with gate := n.gate.close, dispatchers := n.dispatchers.insert d .closed }
  | drain {d : DispatcherId} (closed : n.dispatchers.find? d = some .closed) :
    Turn n (.drain d)
      { n with
        gate := n.gate.drain
        dispatchers := n.dispatchers.insert d .drained
        gone := n.gone + n.gate.queue.length }
  | giveBack {d : DispatcherId} (drained : n.dispatchers.find? d = some .drained) :
    Turn n (.giveBack d)
      { n with gate := n.gate.takeBack, dispatchers := n.dispatchers.erase d }

lemma ask_of_free {n : Handshake} (free : n.gate.handedOut = false) :
    n.ask =
      ({ n with
          gate := { n.gate with queue := [], running := true, handedOut := true }
          dispatchers := n.dispatchers.insert n.nextDispatcher .serving
          nextDispatcher := n.nextDispatcher + 1
          gone := n.gone + n.gate.queue.length }, .ok n.nextDispatcher) := by
  simp [ask, Gate.handOut, free]

lemma ask_of_out {n : Handshake} (out : n.gate.handedOut = true) :
    n.ask = (n, .error (.alreadyRunning n.gate.name)) := by
  simp [ask, Gate.handOut, out]

/-- Every step that can be taken is one of these. -/
lemma turn_of_step {n n' : Handshake} {e : HandshakeStep} (made : n.step e = some n') :
    n.Turn e n' := by
  cases e with
  | look p e =>
    simp only [step] at made
    split at made
    · cases made
    · split at made
      · next running =>
        cases made
        exact .letIn e running
      · next idle =>
        cases made
        exact .turnAway e (Bool.not_eq_true _ ▸ idle)
  | send p =>
    simp only [step, Option.map_eq_some_iff] at made
    obtain ⟨e, -, rfl⟩ := made
    obtain ⟨room, push⟩ | ⟨full, push⟩ := n.gate.push_cases e
    · rw [push]
      have turn := Turn.accept (n := n) (p := p) e room
      rwa [push] at turn
    · rw [push]
      have turn := Turn.overflow (n := n) (p := p) e full
      rwa [push] at turn
  | ask =>
    simp only [step, Option.some.injEq] at made
    subst made
    cases out : n.gate.handedOut with
    | true =>
      rw [ask_of_out out]
      exact .refuse out
    | false =>
      rw [ask_of_free out]
      exact .handOut out
  | take d =>
    simp only [step] at made
    split at made
    · next serving =>
      simp only [Option.map_eq_some_iff, Prod.exists] at made
      obtain ⟨e, gate, taken, rfl⟩ := made
      obtain ⟨es, first, rfl⟩ := Gate.pop_eq_some taken
      exact .take serving first
    · cases made
  | close d =>
    simp only [step] at made
    split at made
    · next serving =>
      cases made
      exact .close serving
    · cases made
  | drain d =>
    simp only [step] at made
    split at made
    · next closed =>
      cases made
      exact .drain closed
    · cases made
  | giveBack d =>
    simp only [step] at made
    split at made
    · next drained =>
      cases made
      exact .giveBack drained
    · cases made

/-- What every step that can be taken preserves is preserved by runs. -/
lemma runFrom_induction {P : Handshake → Prop}
    (keep : ∀ n n' e, P n → Turn n e n' → P n') (es : List HandshakeStep) {n : Handshake}
    (h : P n) : P (n.runFrom es) := by
  induction es generalizing n with
  | nil => exact h
  | cons e es ih =>
    apply ih
    simp only [next]
    cases made : n.step e with
    | none => exact h
    | some n' => exact keep n n' e h (turn_of_step made)

/-! ## One dispatcher at most -/

/-- The latest dispatcher alone can exist, and the marks of the gate tell how far it is; what it
delivers are accepted events, in order. -/
structure Sound (n : Handshake) : Prop where
  sole : ∀ d grip, n.dispatchers.find? d = some grip →
    d + 1 = n.nextDispatcher ∧ n.gate.handedOut = true ∧ (n.gate.running = true ↔ grip = .serving)
  free : (∀ d, n.dispatchers.find? d = none) →
    n.gate.handedOut = false ∧ n.gate.running = false
  queue : ∃ past, n.accepted = past ++ n.gate.queue ∧ past.length = n.gone
  takings : ∀ t ∈ n.takings,
    t.dispatcher < n.nextDispatcher ∧ t.entry < n.gone ∧ n.accepted[t.entry]? = some t.event

lemma sound_start (name : String) (capacity : Nat) (bus : Option BusId) :
    Sound { gate := { name, capacity, bus } } where
  sole _ _ found := by cases found
  free _ := ⟨rfl, rfl⟩
  queue := ⟨[], rfl, rfl⟩
  takings _ ht := by cases ht

namespace Sound

variable {n n' : Handshake}

/-- Nothing changes about dispatchers when the gate keeps its marks. -/
lemma keep {gate : Gate} {late : Table ProducerId Event} (h : n.Sound)
    (handedOut : gate.handedOut = n.gate.handedOut) (running : gate.running = n.gate.running)
    (queue : gate.queue = n.gate.queue) : Sound { n with gate, late } where
  sole d grip found := by
    rw [handedOut, running]
    exact h.sole d grip found
  free none := by
    rw [handedOut, running]
    exact h.free none
  queue := by
    rw [queue]
    exact h.queue
  takings := h.takings

lemma accept {p : ProducerId} {e : Event} (h : n.Sound)
    (room : n.gate.queue.length < n.gate.capacity) :
    Sound { n with
      gate := (n.gate.push e).1, late := n.late.erase p, accepted := n.accepted ++ [e] } := by
  obtain ⟨past, accepted, length⟩ := h.queue
  have pushed : (n.gate.push e).1.queue = n.gate.queue ++ [e] := by
    rw [Gate.push, if_pos room]
  refine ⟨?_, ?_, ⟨past, ?_, length⟩, ?_⟩
  · intro d grip found
    rw [Gate.handedOut_push, Gate.running_push]
    exact h.sole d grip found
  · intro none
    rw [Gate.handedOut_push, Gate.running_push]
    exact h.free none
  · show n.accepted ++ [e] = _
    rw [pushed, accepted, List.append_assoc]
  · intro t ht
    obtain ⟨old, left, event⟩ := h.takings t ht
    refine ⟨old, left, ?_⟩
    rw [List.getElem?_append_left (List.getElem?_eq_some_iff.mp event).1]
    exact event

lemma handOut (h : n.Sound) (out : n.gate.handedOut = false) :
    Sound { n with
      gate := { n.gate with queue := [], running := true, handedOut := true }
      dispatchers := n.dispatchers.insert n.nextDispatcher .serving
      nextDispatcher := n.nextDispatcher + 1
      gone := n.gone + n.gate.queue.length } := by
  obtain ⟨past, accepted, length⟩ := h.queue
  refine ⟨?_, ?_, ⟨n.accepted, (List.append_nil _).symm, ?_⟩, ?_⟩
  · intro d grip found
    rw [Table.find?_insert] at found
    split at found
    · next latest =>
      cases found
      exact ⟨congrArg (· + 1) latest, rfl, iff_of_true rfl rfl⟩
    · -- whoever is there has the receiving end
      rw [(h.sole d grip found).2.1] at out
      cases out
  · intro none
    have latest := none n.nextDispatcher
    rw [Table.find?_insert, if_pos rfl] at latest
    cases latest
  · show n.accepted.length = n.gone + n.gate.queue.length
    rw [accepted, List.length_append, length]
  · intro t ht
    obtain ⟨old, left, event⟩ := h.takings t ht
    exact ⟨Nat.lt_succ_of_lt old, Nat.lt_of_lt_of_le left (Nat.le_add_right _ _), event⟩

lemma take {d : DispatcherId} {e : Event} {es : List Event} (h : n.Sound)
    (serving : n.dispatchers.find? d = some .serving) (first : n.gate.queue = e :: es) :
    Sound { n with
      gate := { n.gate with queue := es }
      gone := n.gone + 1
      takings := n.takings ++ [⟨d, n.gone, e⟩] } := by
  obtain ⟨past, accepted, length⟩ := h.queue
  rw [first] at accepted
  refine ⟨h.sole, h.free, ⟨past ++ [e], ?_, ?_⟩, ?_⟩
  · rw [List.append_assoc]
    exact accepted
  · rw [List.length_append, length]
    rfl
  · intro t ht
    obtain ht | ht := List.mem_append.mp ht
    · obtain ⟨old, left, event⟩ := h.takings t ht
      exact ⟨old, Nat.lt_succ_of_lt left, event⟩
    · cases List.mem_singleton.mp ht
      refine ⟨Nat.lt_of_lt_of_eq (Nat.lt_succ_self d) (h.sole d _ serving).1, Nat.lt_succ_self _, ?_⟩
      show n.accepted[n.gone]? = some e
      rw [accepted, ← length, List.getElem?_append_right (Nat.le_refl _), Nat.sub_self]
      rfl

/-- The dispatcher that lets go of the gate is the only one. -/
lemma loosen {gate : Gate} {d : DispatcherId} {grip grip' : Grip} {gone : Nat} (h : n.Sound)
    (found : n.dispatchers.find? d = some grip) (out : gate.handedOut = n.gate.handedOut)
    (running : gate.running = true ↔ grip' = .serving)
    (queue : ∃ past, n.accepted = past ++ gate.queue ∧ past.length = gone)
    (le : n.gone ≤ gone) :
    Sound { n with gate, dispatchers := n.dispatchers.insert d grip', gone } := by
  obtain ⟨latest, handedOut, -⟩ := h.sole d grip found
  refine ⟨?_, ?_, queue, ?_⟩
  · intro x grip'' there
    rw [Table.find?_insert] at there
    split at there
    · next same =>
      cases there
      exact ⟨same ▸ latest, out.trans handedOut, running⟩
    · next other =>
      exact absurd (Nat.succ.inj ((h.sole x _ there).1.trans latest.symm)) other
  · intro none
    have there := none d
    rw [Table.find?_insert, if_pos rfl] at there
    cases there
  · intro t ht
    obtain ⟨old, left, event⟩ := h.takings t ht
    exact ⟨old, Nat.lt_of_lt_of_le left le, event⟩

lemma giveBack {d : DispatcherId} (h : n.Sound) (drained : n.dispatchers.find? d = some .drained) :
    Sound { n with gate := n.gate.takeBack, dispatchers := n.dispatchers.erase d } := by
  obtain ⟨latest, -, marks⟩ := h.sole d _ drained
  refine ⟨?_, ?_, h.queue, h.takings⟩
  · intro x grip there
    rw [Table.find?_erase] at there
    split at there
    · cases there
    · next other =>
      exact absurd (Nat.succ.inj ((h.sole x _ there).1.trans latest.symm)) other
  · intro _
    refine ⟨rfl, ?_⟩
    cases running : n.gate.running with
    | true => cases marks.mp running
    | false => exact running

/-- Every step leaves one dispatcher at most. -/
lemma turn {e : HandshakeStep} (h : n.Sound) (turn : n.Turn e n') : n'.Sound := by
  cases turn with
  | letIn e running => exact h.keep rfl rfl rfl
  | turnAway e idle => exact h.keep rfl rfl rfl
  | accept e room => exact h.accept room
  | overflow e full =>
    have same : (n.gate.push e).1.queue = n.gate.queue := by
      rw [Gate.push, if_neg (Nat.not_lt_of_le full)]
    exact h.keep (n.gate.handedOut_push e) (n.gate.running_push e) same
  | handOut free => exact h.handOut free
  | refuse out => exact h
  | take serving first => exact h.take serving first
  | close serving => exact h.loosen serving rfl (iff_of_false nofun nofun) h.queue (Nat.le_refl _)
  | drain closed =>
    have idle : ¬n.gate.running = true := fun running => nomatch (h.sole _ _ closed).2.2.mp running
    obtain ⟨past, accepted, length⟩ := h.queue
    refine h.loosen closed rfl (iff_of_false idle nofun) ⟨n.accepted, (List.append_nil _).symm, ?_⟩
      (Nat.le_add_right _ _)
    rw [accepted, List.length_append, length]
  | giveBack drained => exact h.giveBack drained

end Sound

lemma run_sound (name : String) (capacity : Nat) (bus : Option BusId) (es : List HandshakeStep) :
    (run name capacity bus es).Sound :=
  runFrom_induction (fun _ _ _ h turn => h.turn turn) es (sound_start name capacity bus)

/-! ## Callers that race -/

/-- Where no dispatcher is being dropped, one that is handed out stays so. -/
lemma next_of_out {n : Handshake} {e : HandshakeStep} (out : n.gate.handedOut = true)
    (calm : e.isDrop = false) :
    (n.next e).gate.handedOut = true ∧ (n.next e).gate.name = n.gate.name := by
  simp only [next]
  cases made : n.step e with
  | none => exact ⟨out, rfl⟩
  | some n' =>
    cases turn_of_step made with
    | accept e room =>
      refine ⟨(n.gate.handedOut_push e).trans out, ?_⟩
      show (n.gate.push e).1.name = n.gate.name
      rw [Gate.push, if_pos room]
    | overflow e full =>
      refine ⟨(n.gate.handedOut_push e).trans out, ?_⟩
      show (n.gate.push e).1.name = n.gate.name
      rw [Gate.push, if_neg (Nat.not_lt_of_le full)]
    | handOut free =>
      rw [out] at free
      cases free
    | close => cases calm
    | drain => cases calm
    | giveBack => cases calm
    | _ => exact ⟨out, rfl⟩

/-- Where nobody asks and no dispatcher is being dropped, the receiving end stays at hand. -/
lemma next_of_free {n : Handshake} (h : n.Sound) {e : HandshakeStep}
    (free : n.gate.handedOut = false) (other : e.isAsk = false) :
    (n.next e).gate.handedOut = false ∧ (n.next e).gate.name = n.gate.name ∧
      (n.next e).nextDispatcher = n.nextDispatcher := by
  -- there is no dispatcher to do anything
  have none : ∀ {d grip}, n.dispatchers.find? d ≠ some grip := by
    intro d grip found
    rw [(h.sole d grip found).2.1] at free
    cases free
  simp only [next]
  cases made : n.step e with
  | none => exact ⟨free, rfl, rfl⟩
  | some n' =>
    cases turn_of_step made with
    | accept e room =>
      refine ⟨(n.gate.handedOut_push e).trans free, ?_, rfl⟩
      show (n.gate.push e).1.name = n.gate.name
      rw [Gate.push, if_pos room]
    | overflow e full =>
      refine ⟨(n.gate.handedOut_push e).trans free, ?_, rfl⟩
      show (n.gate.push e).1.name = n.gate.name
      rw [Gate.push, if_neg (Nat.not_lt_of_le full)]
    | handOut => cases other
    | refuse => cases other
    | take serving => exact absurd serving none
    | close serving => exact absurd serving none
    | drain closed => exact absurd closed none
    | giveBack drained => exact absurd drained none
    | _ => exact ⟨free, rfl, rfl⟩

lemma answer?_of_isAsk {n : Handshake} {e : HandshakeStep} (h : e.isAsk = true) :
    n.answer? e = some n.ask.2 := by
  cases e with
  | ask => rfl
  | _ => cases h

lemma answer?_of_not_isAsk {n : Handshake} {e : HandshakeStep} (h : e.isAsk = false) :
    n.answer? e = none := by
  cases e with
  | ask => cases h
  | _ => rfl

/-- While a dispatcher is handed out, everybody who asks is refused. -/
lemma answersFrom_of_out {n : Handshake} (out : n.gate.handedOut = true)
    {es : List HandshakeStep} (calm : ∀ e ∈ es, e.isDrop = false) :
    n.answersFrom es =
      List.replicate (es.countP (·.isAsk)) (.error (.alreadyRunning n.gate.name)) := by
  induction es generalizing n with
  | nil => rfl
  | cons e es ih =>
    obtain ⟨out', name⟩ := next_of_out out (calm e List.mem_cons_self)
    rw [answersFrom, ih out' fun e he => calm e (List.mem_cons_of_mem _ he), name]
    cases asks : e.isAsk with
    | true =>
      rw [answer?_of_isAsk asks, ask_of_out out, List.countP_cons_of_pos asks, List.replicate_succ]
      rfl
    | false =>
      rw [answer?_of_not_isAsk asks, List.countP_cons_of_neg (by simp [asks])]
      rfl

/-- Of those who ask while the receiving end is at hand, the first is given the dispatcher. -/
lemma answersFrom_of_free {n : Handshake} (h : n.Sound) (free : n.gate.handedOut = false)
    {es : List HandshakeStep} (calm : ∀ e ∈ es, e.isDrop = false) {others : Nat}
    (asked : es.countP (·.isAsk) = others + 1) :
    n.answersFrom es =
      .ok n.nextDispatcher ::
        List.replicate others (.error (.alreadyRunning n.gate.name)) := by
  induction es generalizing n with
  | nil => cases asked
  | cons e es ih =>
    have calm' : ∀ e ∈ es, e.isDrop = false := fun e he => calm e (List.mem_cons_of_mem _ he)
    cases asks : e.isAsk with
    | true =>
      rw [List.countP_cons_of_pos asks, Nat.add_right_cancel_iff] at asked
      have given : n.next e = n.ask.1 := by
        cases e with
        | ask => rfl
        | _ => cases asks
      rw [answersFrom, answer?_of_isAsk asks, given, ask_of_free free,
        answersFrom_of_out rfl calm', asked]
      rfl
    | false =>
      rw [List.countP_cons_of_neg (by simp [asks])] at asked
      obtain ⟨free', name, latest⟩ := next_of_free h free asks
      have sound : (n.next e).Sound := runFrom_induction (fun _ _ _ h turn => h.turn turn) [e] h
      rw [answersFrom, answer?_of_not_isAsk asks, ih sound free' calm' asked, name, latest]
      rfl

/-! ## Events of the time before -/

/-- Dispatchers from the `d`-th on take no entry below a bound, and none is left below it. -/
structure Bounds (d : DispatcherId) (bound : Nat) (n : Handshake) : Prop where
  gone : bound ≤ n.gone
  takings : ∀ t ∈ n.takings, d ≤ t.dispatcher → bound ≤ t.entry

lemma Bounds.turn {d : DispatcherId} {bound : Nat} {n n' : Handshake} {e : HandshakeStep}
    (h : Bounds d bound n) (turn : n.Turn e n') : Bounds d bound n' := by
  cases turn with
  | handOut => exact ⟨Nat.le_add_right_of_le h.gone, h.takings⟩
  | drain => exact ⟨Nat.le_add_right_of_le h.gone, h.takings⟩
  | take serving first =>
    refine ⟨Nat.le_succ_of_le h.gone, ?_⟩
    intro t ht later
    obtain ht | ht := List.mem_append.mp ht
    · exact h.takings t ht later
    · cases List.mem_singleton.mp ht
      exact h.gone
  | _ => exact ⟨h.gone, h.takings⟩

/-- A dispatcher that is handed out begins after every accepted event. -/
lemma Sound.bounds {n : Handshake} (h : n.Sound) {d : DispatcherId} (given : n.ask.2 = .ok d) :
    Bounds d n.accepted.length n.ask.1 := by
  cases out : n.gate.handedOut with
  | true =>
    rw [ask_of_out out] at given
    cases given
  | false =>
    rw [ask_of_free out] at given ⊢
    cases given
    obtain ⟨past, accepted, length⟩ := h.queue
    refine ⟨?_, ?_⟩
    · have all : n.accepted.length = n.gone + n.gate.queue.length := by
        rw [accepted, List.length_append, length]
      exact Nat.le_of_eq all
    · intro t ht later
      exact absurd (h.takings t ht).1 (Nat.not_lt_of_le later)

/-- In every order of what producers, callers and dispatchers do, one dispatcher exists at most; a
gate that is running has its receiving end handed out, and stays running until the dispatcher that has
it is dropped, since a dispatcher that closes the gate is the latest. Of callers that race for a
receiving end that is at hand the first is given a dispatcher; the others are refused, and change
nothing. A dispatcher takes accepted events, and none that was accepted before it was handed out. -/
theorem run_single (name : String) (capacity : Nat) (bus : Option BusId)
    (es : List HandshakeStep) :
    let n := run name capacity bus es
    -- dispatchers that exist
    (∀ d d' grip grip', n.dispatchers.find? d = some grip → n.dispatchers.find? d' = some grip' →
      d = d') ∧
    (n.gate.running = true → n.gate.handedOut = true) ∧
    (∀ d, n.dispatchers.find? d = some .serving → n.gate.running = true) ∧
    (∀ d n', n.step (.close d) = some n' → n.nextDispatcher = d + 1) ∧
    -- callers that race
    (n.gate.handedOut = false → ∀ more : List HandshakeStep, (∀ e ∈ more, e.isDrop = false) →
      ∀ others, more.countP (·.isAsk) = others + 1 →
        n.answersFrom more =
          .ok n.nextDispatcher ::
            List.replicate others (.error (.alreadyRunning n.gate.name))) ∧
    (∀ cause, n.ask.2 = .error cause → n.next .ask = n) ∧
    -- events of the time before a hand-out
    (∀ t ∈ n.takings, n.accepted[t.entry]? = some t.event) ∧
    (∀ d, n.ask.2 = .ok d → ∀ more, ∀ t ∈ ((n.next .ask).runFrom more).takings,
      d ≤ t.dispatcher → n.accepted.length ≤ t.entry) := by
  intro n
  have h : n.Sound := run_sound name capacity bus es
  refine ⟨?_, ?_, ?_, ?_, fun free more calm others => answersFrom_of_free h free calm, ?_,
    fun t ht => (h.takings t ht).2.2, ?_⟩
  · intro d d' grip grip' found found'
    exact Nat.succ.inj ((h.sole d grip found).1.trans (h.sole d' grip' found').1.symm)
  · intro running
    by_contra out
    have none : ∀ d, n.dispatchers.find? d = none := by
      intro d
      cases found : n.dispatchers.find? d with
      | none => rfl
      | some grip => exact absurd (h.sole d grip found).2.1 out
    rw [(h.free none).2] at running
    cases running
  · intro d serving
    exact (h.sole d _ serving).2.2.mpr rfl
  · intro d n' made
    cases turn_of_step made with
    | close serving => exact (h.sole d _ serving).1.symm
  · intro cause refused
    cases out : n.gate.handedOut with
    | true =>
      show n.ask.1 = n
      rw [ask_of_out out]
    | false =>
      rw [ask_of_free out] at refused
      cases refused
  · intro d given more
    have bounds : Bounds d n.accepted.length ((n.next .ask).runFrom more) :=
      runFrom_induction (fun _ _ _ h turn => h.turn turn) more (h.bounds given)
    exact bounds.takings

/-- Event `b` comes to the queue of a gate that was closed since its producer looked. Of three who ask
then one is given the second dispatcher, which delivers event `c` and not `b`. -/
theorem run_single_late_event :
    let e (n : Nat) : Event := { seq := n, payload := .addItem { sourceItemUid := "lamp" } }
    let es : List HandshakeStep :=
      [.ask, .look 1 (e 0), .look 2 (e 1), .send 1, .close 0, .drain 0, .send 2, .giveBack 0]
    let more : List HandshakeStep := [.look 3 (e 2), .ask, .send 3, .take 1, .ask]
    let n := run "desk" 4 none es
    n.gate.handedOut = false ∧ n.accepted.length = 2 ∧ n.gate.queue.length = 1 ∧
      n.answersFrom (.ask :: more) =
        [.ok 1, .error (.alreadyRunning "desk"), .error (.alreadyRunning "desk")] ∧
      (((n.next .ask).runFrom more).takings.map fun t => (t.dispatcher, t.entry, t.event.seq)) =
        [(1, 2, 2)] ∧
      ∀ t ∈ ((n.next .ask).runFrom more).takings, 1 ≤ t.dispatcher → 2 ≤ t.entry := by
  intro e es more n
  obtain ⟨-, -, -, -, race, -, -, before⟩ := run_single "desk" 4 none es
  have free : n.gate.handedOut = false := by decide +kernel
  have accepted : n.accepted.length = 2 := by decide +kernel
  have latest : n.nextDispatcher = 1 := by decide +kernel
  have name : n.gate.name = "desk" := by decide +kernel
  have answers := race free (.ask :: more) (by decide) 2 (by decide)
  rw [latest, name] at answers
  have given : n.ask.2 = .ok 1 := by rw [ask_of_free free, latest]
  have bound := before 1 given more
  rw [accepted] at bound
  exact ⟨free, accepted, by decide +kernel, answers, by decide +kernel, bound⟩

/-! ## Nobody else about -/

/-- A producer that is alone offers its event as if at one instant. -/
theorem run_post {n : Handshake} {p : ProducerId} (new : n.late.find? p = none) (e : Event) :
    (n.runFrom [.look p e, .send p]).gate = (n.gate.offer e).1 := by
  obtain ⟨running, offer⟩ | ⟨idle, offer⟩ := n.gate.offer_cases e
  · rw [offer]
    simp only [runFrom, List.foldl_cons, List.foldl_nil, next, step, Table.contains, new, running]
    obtain ⟨_, push⟩ | ⟨_, push⟩ := n.gate.push_cases e
    · simp [push]
    · simp [push]
  · rw [offer]
    simp [runFrom, next, step, Table.contains, new, idle]

/-- A dispatcher that is alone lets go of the gate as if at one instant. -/
theorem run_letGo {n : Handshake} {d : DispatcherId}
    (serving : n.dispatchers.find? d = some .serving) :
    (n.runFrom [.close d, .drain d, .giveBack d]).gate = n.gate.close.drain.takeBack := by
  simp [runFrom, next, step, serving]

end Handshake

end EventGates
