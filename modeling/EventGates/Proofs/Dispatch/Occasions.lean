import EventGates.Proofs.Dispatch.Station
import EventGates.Proofs.Fabric.Records

/-!
# What is reported about a gate

Drops, panics, and the beginning and end of dispatch are reported. Each is an `Occasion` at the
station of a gate, and at most one comes of an input (`Station.occasion?`). What was reported so far
agrees with what the gate has counted and with what its worker is at (`Station.Tallies`): each input
keeps it so (`Tallies.step`), and so do any number of them (`Tallies.run`).
-/

namespace EventGates

/-- Something that is reported about a gate. -/
inductive Occasion where
  /-- An event found the queue full. -/
  | overflow (e : Event)
  /-- An event found the gate not running. -/
  | idle (e : Event)
  | panicked (e : Event) (message : String)
  | started
  /-- A dispatcher let go of the queue, with so many events in it. -/
  | stopped (left : Nat)

namespace Occasion

def kind : Occasion → DiagnosticKind
  | overflow _ => .queueOverflow
  | idle _ => .gateIdle
  | panicked _ _ => .listenerPanicked
  | started => .dispatchStarted
  | stopped _ => .dispatchStopped

/-- What is reported about a gate with the given name. -/
def finding (name : String) (o : Occasion) : Finding where
  kind := o.kind
  gate := some name
  eventType := match o with
    | overflow e => some e.typeName
    | idle e => some e.typeName
    | panicked e _ => some e.typeName
    | _ => none
  reason := match o with
    | panicked _ message => some message
    | stopped left => some (Fabric.discardedReason left)
    | _ => none

/-- The notice about a gate. -/
def notice (gate : Gate) (o : Occasion) : Notice := ⟨gate.bus, o.finding gate.name⟩

end Occasion

/-- What is reported about an event that was offered. -/
def Admission.occasion? (e : Event) : Admission → Option Occasion
  | accepted => none
  | overflow => some (.overflow e)
  | idle => some (.idle e)

lemma Admission.notice?_eq (a : Admission) (gate : Gate) (e : Event) :
    a.notice? gate e = (a.occasion? e).map (·.notice gate) := by
  cases a <;> rfl

variable {κ : Type}

/-- What is reported about what a worker does. -/
def Shift.occasion? (gate : Gate) (a : Shift κ) : WorkerMove κ → Option Occasion
  | .begin =>
    match a.phase with
    | .unstarted => if a.aborted then none else some .started
    | _ => none
  | .panicked message =>
    match a.phase with
    | .delivering ⟨e, some _, _⟩ => some (.panicked e message)
    | _ => none
  | .stop => if a.mayStop then some (.stopped gate.queue.length) else none
  | _ => none

namespace Station

/-- What is reported about an input. -/
def occasion? (st : Station κ) (i : Input κ) : Option Occasion :=
  match st.gate with
  | none => none
  | some gate =>
    match i, st.worker with
    | .offer e, _ => (gate.offer e).2.occasion? e
    | .enter e, _ => (gate.push e).2.occasion? e
    | .release, none => if gate.handedOut then some (.stopped gate.queue.length) else none
    | .work m, some a => a.occasion? gate m
    | _, _ => none

lemma occasion?_remove (st : Station κ) : st.occasion? .remove = none := by
  obtain ⟨gate, worker⟩ := st
  cases gate <;> rfl

lemma occasion?_cancel (st : Station κ) : st.occasion? .cancel = none := by
  obtain ⟨gate, worker⟩ := st
  cases gate <;> rfl

/-- What is reported about inputs, in order. -/
def occasions (st : Station κ) : List (Input κ) → List Occasion
  | [] => []
  | i :: is => (st.occasion? i).toList ++ (st.step i).occasions is

end Station

/-! ## What an input leaves as it is -/

/-- A gate keeps its name, its bus and the slots of its queue. -/
structure Gate.Keeps (gate gate' : Gate) : Prop where
  name : gate'.name = gate.name
  bus : gate'.bus = gate.bus
  capacity : gate'.capacity = gate.capacity

namespace Gate.Keeps

variable {gate gate' gate'' : Gate}

lemma refl (gate : Gate) : gate.Keeps gate := ⟨rfl, rfl, rfl⟩

lemma trans (h : gate.Keeps gate') (h' : gate'.Keeps gate'') : gate.Keeps gate'' :=
  ⟨h'.name.trans h.name, h'.bus.trans h.bus, h'.capacity.trans h.capacity⟩

end Gate.Keeps

/-- Drops and panics are as they were. -/
structure Counters.Quiet (c c' : Counters) : Prop where
  full : c'.droppedFull = c.droppedFull
  idle : c'.droppedIdle = c.droppedIdle
  panics : c'.listenerPanics = c.listenerPanics

lemma Counters.Quiet.refl (c : Counters) : c.Quiet c := ⟨rfl, rfl, rfl⟩

/-- The worker has started. -/
def Shift.isAtWork (a : Shift κ) : Bool :=
  match a.phase with
  | .unstarted => false
  | _ => true

/-- What a worker does, by what is reported about it. -/
inductive Shift.Reports (gate : Gate) (a : Shift κ) :
    Gate → Option (Shift κ) → Option Occasion → Prop where
  | quiet {gate' : Gate} {b : Shift κ} :
    gate.counters.Quiet gate'.counters → b.isAtWork = a.isAtWork →
    Reports gate a gate' (some b) none
  | start {b : Shift κ} :
    a.isAtWork = false → b.isAtWork = true → Reports gate a gate (some b) (some .started)
  | panic {b : Shift κ} {e : Event} {message : String} :
    a.isAtWork = true → b.isAtWork = true →
    Reports gate a gate.countPanic (some b) (some (.panicked e message))
  | stop {gate' : Gate} :
    gate.counters.Quiet gate'.counters →
    Reports gate a gate' none (some (.stopped gate.queue.length))

/-- A worker that takes an event goes on with its work. -/
lemma Shift.take_eq_some {gate gate' : Gate} {a : Shift κ} {after : Option (Shift κ)}
    (taken : a.take gate = some (gate', after)) :
    gate.Keeps gate' ∧ gate'.counters = gate.counters ∧ ∃ b, after = some b ∧ b.isAtWork = true := by
  simp only [take, Option.map_eq_some_iff, Prod.exists, Prod.mk.injEq] at taken
  obtain ⟨e, _, popped, rfl, rfl⟩ := taken
  obtain ⟨es, -, rfl⟩ := Gate.pop_eq_some popped
  exact ⟨⟨rfl, rfl, rfl⟩, rfl, _, rfl, rfl⟩

/-- A worker that leaves a gate leaves its counters as they are. -/
lemma Phase.keeps_leave (phase : Phase κ) (gate : Gate) :
    gate.Keeps (phase.leave gate) ∧ gate.counters.Quiet (phase.leave gate).counters := by
  cases phase <;> exact ⟨⟨rfl, rfl, rfl⟩, rfl, rfl, rfl⟩

/-- Whatever a worker does is reported accordingly. -/
lemma Shift.work_reports {gate gate' : Gate} {a : Shift κ} {m : WorkerMove κ}
    {after : Option (Shift κ)} (worked : a.work gate a.phase m = some (gate', after)) :
    gate.Keeps gate' ∧ a.Reports gate gate' after (a.occasion? gate m) := by
  obtain ⟨phase, cancelled, aborted⟩ := a
  simp only [work] at worked
  -- one case for each line of `work`, in its order
  split at worked
  case h_1 =>
    split at worked
    · cases worked
    · next stays =>
      cases worked
      rw [occasion?, if_neg stays]
      exact ⟨.refl gate, .start rfl rfl⟩
  case h_2 | h_4 =>
    split at worked
    · cases worked
    · obtain ⟨keeps, counters, b, rfl, work⟩ := take_eq_some worked
      exact ⟨keeps, .quiet (counters ▸ .refl _) work⟩
  case h_3 =>
    split at worked
    · cases worked
    · cases worked
      exact ⟨⟨rfl, rfl, rfl⟩, .quiet ⟨rfl, rfl, rfl⟩ rfl⟩
  case h_5 =>
    split at worked
    · cases worked
    · cases worked
      exact ⟨⟨rfl, rfl, rfl⟩, .quiet ⟨rfl, rfl, rfl⟩ rfl⟩
  case h_9 =>
    cases worked
    exact ⟨⟨rfl, rfl, rfl⟩, .panic rfl rfl⟩
  case h_11 phase _ =>
    split at worked
    · next may =>
      cases worked
      obtain ⟨keeps, quiet⟩ := Phase.keeps_leave _ gate
      rw [occasion?, if_pos may]
      exact ⟨⟨keeps.name, keeps.bus, keeps.capacity⟩, .stop ⟨quiet.full, quiet.idle, quiet.panics⟩⟩
    · cases worked
  case h_13 => cases worked
  all_goals
    cases worked
    exact ⟨⟨rfl, rfl, rfl⟩, .quiet ⟨rfl, rfl, rfl⟩ rfl⟩

/-- A worker that may stop leaves its gate closed and drained. -/
lemma Shift.work_stop (gate : Gate) (a : Shift κ) :
    a.work gate a.phase .stop =
      if a.mayStop then some ((a.phase.leave gate).close.drain.takeBack, none) else none := by
  obtain ⟨phase, cancelled, aborted⟩ := a
  cases phase with
  | delivering d =>
    obtain ⟨e, callback, xs⟩ := d
    cases callback with
    | some k => rfl
    | none => cases xs <;> rfl
  | _ => rfl

/-- What a worker cannot do is not reported. -/
lemma Shift.occasion?_of_refused {gate : Gate} {a : Shift κ} {m : WorkerMove κ}
    (refused : a.work gate a.phase m = none) : a.occasion? gate m = none := by
  obtain ⟨phase, cancelled, aborted⟩ := a
  cases m with
  | begin =>
    cases phase with
    | unstarted =>
      cases aborted with
      | true => rfl
      | false => cases refused
    | _ => rfl
  | panicked message =>
    cases phase with
    | delivering d =>
      obtain ⟨e, callback, xs⟩ := d
      cases callback with
      | none => rfl
      | some k => cases refused
    | _ => rfl
  | stop =>
    simp only [occasion?]
    split
    · next may =>
      rw [work_stop, if_pos may] at refused
      cases refused
    · rfl
  | _ => rfl

/-- What is done at a station leaves the gate its name, its bus and its slots. -/
lemma Station.step_keeps {gate gate' : Gate} {worker : Option (Shift κ)} {i : Input κ}
    (there : (Station.step ⟨some gate, worker⟩ i).gate = some gate') : gate.Keeps gate' := by
  cases i with
  | offer e =>
    cases there
    obtain ⟨bus, name, capacity⟩ := gate.offer_keeps e
    exact ⟨name, bus, capacity⟩
  | enter e =>
    cases there
    obtain ⟨bus, name, capacity⟩ := gate.push_keeps e
    exact ⟨name, bus, capacity⟩
  | change c =>
    cases there
    exact ⟨rfl, rfl, rfl⟩
  | remove =>
    simp only [step] at there
    split at there
    · cases there
      exact .refl gate
    · cases there
  | handOut =>
    simp only [step, Option.some.injEq] at there
    cases out : gate.handOut with
    | none =>
      rw [out] at there
      cases there
      exact .refl gate
    | some gate'' =>
      obtain ⟨-, rfl⟩ := Gate.handOut_eq_some out
      rw [out] at there
      cases there
      exact ⟨rfl, rfl, rfl⟩
  | release =>
    cases worker with
    | some a =>
      cases there
      exact .refl gate
    | none =>
      simp only [step] at there
      split at there <;>
      · cases there
        exact ⟨rfl, rfl, rfl⟩
  | engage cancelled =>
    cases worker with
    | some a =>
      cases there
      exact .refl gate
    | none =>
      simp only [step] at there
      split at there <;>
      · cases there
        exact .refl gate
  | cancel =>
    cases worker <;>
    · cases there
      exact .refl gate
  | work m =>
    cases worker with
    | none =>
      cases there
      exact .refl gate
    | some a =>
      simp only [step] at there
      cases worked : a.work gate a.phase m with
      | none =>
        rw [worked] at there
        cases there
        exact .refl gate
      | some result =>
        rw [worked] at there
        cases there
        exact (Shift.work_reports worked).1

/-! ## What was reported, and the state of the gate -/

/-- A kind of record about the life of a dispatcher. -/
def DiagnosticKind.isLifecycle : DiagnosticKind → Bool
  | dispatchStarted => true
  | dispatchStopped => true
  | _ => false

/-- Dispatchers one after the other, each of which ended; one may end that never started. -/
inductive Episodes : List DiagnosticKind → Prop where
  | nil : Episodes []
  | unstarted {word : List DiagnosticKind} :
    Episodes word → Episodes (word ++ [.dispatchStopped])
  | started {word : List DiagnosticKind} :
    Episodes word → Episodes (word ++ [.dispatchStarted, .dispatchStopped])

/-- What was reported agrees with what was counted. -/
structure Counters.Agree (c : Counters) (kinds : List DiagnosticKind) : Prop where
  full : kinds.count .queueOverflow = c.droppedFull
  idle : kinds.count .gateIdle = c.droppedIdle
  panics : kinds.count .listenerPanicked = c.listenerPanics

namespace Station

/-- A worker has started. -/
def isAtWork (st : Station κ) : Bool := st.worker.any (·.isAtWork)

/-- What was reported agrees with the gate and its worker. -/
structure Tallies (st : Station κ) (kinds : List DiagnosticKind) : Prop where
  counters : ∀ gate, st.gate = some gate → gate.counters.Agree kinds
  ended : st.isAtWork = false → Episodes (kinds.filter (·.isLifecycle))
  begun : st.isAtWork = true →
    ∃ word, Episodes word ∧ kinds.filter (·.isLifecycle) = word ++ [.dispatchStarted]

namespace Tallies

variable {gate gate' : Gate} {worker worker' : Option (Shift κ)} {kinds : List DiagnosticKind}

/-- Drops and panics are reported where dispatch goes on as before. -/
lemma count (h : Tallies ⟨some gate, worker⟩ kinds) {kind : DiagnosticKind}
    (drops : kind.isLifecycle = false) (agree : gate'.counters.Agree (kinds ++ [kind]))
    (work : isAtWork ⟨some gate', worker'⟩ = isAtWork ⟨some gate, worker⟩) :
    Tallies ⟨some gate', worker'⟩ (kinds ++ [kind]) := by
  have same : (kinds ++ [kind]).filter (·.isLifecycle) = kinds.filter (·.isLifecycle) := by
    rw [List.filter_append, List.filter_cons_of_neg (by simp [drops]), List.filter_nil,
      List.append_nil]
  refine ⟨?_, ?_, ?_⟩
  · rintro _ ⟨⟩
    exact agree
  · rw [work, same]
    exact h.ended
  · rw [work, same]
    exact h.begun

/-- Nothing is counted, and dispatch goes on as before. -/
lemma keep (h : Tallies ⟨some gate, worker⟩ kinds) (quiet : gate.counters.Quiet gate'.counters)
    (work : isAtWork ⟨some gate', worker'⟩ = isAtWork ⟨some gate, worker⟩) :
    Tallies ⟨some gate', worker'⟩ kinds := by
  obtain ⟨full, idle, panics⟩ := h.counters gate rfl
  refine ⟨?_, ?_, ?_⟩
  · rintro _ ⟨⟩
    exact ⟨full.trans quiet.full.symm, idle.trans quiet.idle.symm, panics.trans quiet.panics.symm⟩
  · rw [work]
    exact h.ended
  · rw [work]
    exact h.begun

/-- The beginning and the end of dispatch are not counted. -/
lemma agree_lifecycle (h : Tallies ⟨some gate, worker⟩ kinds)
    (quiet : gate.counters.Quiet gate'.counters) {kind : DiagnosticKind}
    (life : kind.isLifecycle = true) : gate'.counters.Agree (kinds ++ [kind]) := by
  obtain ⟨full, idle, panics⟩ := h.counters gate rfl
  have uncounted : ∀ other, other.isLifecycle = false →
      (kinds ++ [kind]).count other = kinds.count other := by
    intro other drops
    have ne : kind ≠ other := by
      rintro rfl
      exact absurd life (by simp [drops])
    simp [List.count_append, ne]
  refine ⟨?_, ?_, ?_⟩
  · rw [uncounted _ rfl, full, quiet.full]
  · rw [uncounted _ rfl, idle, quiet.idle]
  · rw [uncounted _ rfl, panics, quiet.panics]

/-- A dispatcher ends, whether or not it had started. -/
lemma stop (h : Tallies ⟨some gate, worker⟩ kinds) (quiet : gate.counters.Quiet gate'.counters) :
    Tallies (κ := κ) ⟨some gate', none⟩ (kinds ++ [.dispatchStopped]) := by
  refine ⟨?_, ?_, nofun⟩
  · rintro _ ⟨⟩
    exact h.agree_lifecycle quiet rfl
  · intro _
    rw [List.filter_append]
    cases work : isAtWork ⟨some gate, worker⟩ with
    | false => exact .unstarted (h.ended work)
    | true =>
      obtain ⟨word, episodes, same⟩ := h.begun work
      rw [same, List.append_assoc]
      exact .started episodes

/-- A dispatcher starts. -/
lemma start (h : Tallies ⟨some gate, worker⟩ kinds)
    (before : isAtWork ⟨some gate, worker⟩ = false) (after : isAtWork ⟨some gate, worker'⟩ = true) :
    Tallies ⟨some gate, worker'⟩ (kinds ++ [.dispatchStarted]) := by
  refine ⟨?_, ?_, ?_⟩
  · rintro _ ⟨⟩
    exact h.agree_lifecycle (.refl _) rfl
  · rw [after]
    nofun
  · intro _
    exact ⟨_, h.ended before, List.filter_append _ _⟩

/-- An event that is put into the queue is counted and reported alike. -/
lemma push (h : Tallies ⟨some gate, worker⟩ kinds) (e : Event) :
    Tallies ⟨some (gate.push e).1, worker⟩
      (kinds ++ (((gate.push e).2.occasion? e).map (·.kind)).toList) := by
  obtain ⟨full, idle, panics⟩ := h.counters gate rfl
  obtain ⟨_, push⟩ | ⟨_, push⟩ := gate.push_cases e
  · rw [push]
    exact (List.append_nil kinds).symm ▸ h.keep ⟨rfl, rfl, rfl⟩ rfl
  · rw [push]
    have agree : (Counters.Agree { gate.counters with droppedFull := gate.counters.droppedFull + 1 }
        (kinds ++ [.queueOverflow])) := by
      refine ⟨?_, ?_, ?_⟩
      · simp [List.count_append, full]
      · simp [List.count_append, idle]
      · simp [List.count_append, panics]
    exact h.count rfl agree rfl

/-- An event that is offered is counted and reported alike. -/
lemma offer (h : Tallies ⟨some gate, worker⟩ kinds) (e : Event) :
    Tallies ⟨some (gate.offer e).1, worker⟩
      (kinds ++ (((gate.offer e).2.occasion? e).map (·.kind)).toList) := by
  obtain ⟨full, idle, panics⟩ := h.counters gate rfl
  obtain ⟨_, offer⟩ | ⟨_, offer⟩ := gate.offer_cases e
  · rw [offer]
    exact h.push e
  · rw [offer]
    have agree : gate.dropIdle.counters.Agree (kinds ++ [.gateIdle]) := by
      refine ⟨?_, ?_, ?_⟩
      · simp [List.count_append, full, Gate.dropIdle]
      · simp [List.count_append, idle, Gate.dropIdle]
      · simp [List.count_append, panics, Gate.dropIdle]
    exact h.count rfl agree rfl

/-- What a worker does is counted and reported alike. -/
lemma work {a : Shift κ} (h : Tallies ⟨some gate, some a⟩ kinds) {after : Option (Shift κ)}
    {reported : Option Occasion} (does : a.Reports gate gate' after reported) :
    Tallies ⟨some gate', after⟩ (kinds ++ (reported.map (·.kind)).toList) := by
  cases does with
  | quiet quiet work => exact (List.append_nil kinds).symm ▸ h.keep quiet work
  | start before after => exact h.start before after
  | stop quiet => exact h.stop quiet
  | panic before after =>
    obtain ⟨full, idle, panics⟩ := h.counters gate rfl
    have agree : gate.countPanic.counters.Agree (kinds ++ [.listenerPanicked]) := by
      refine ⟨?_, ?_, ?_⟩
      · simp [List.count_append, full, Gate.countPanic]
      · simp [List.count_append, idle, Gate.countPanic]
      · simp [List.count_append, panics, Gate.countPanic]
    exact h.count rfl agree (after.trans before.symm)

end Tallies

variable {st : Station κ} {kinds : List DiagnosticKind}

/-- Whatever is done at a station is counted and reported alike. -/
lemma Tallies.step (h : st.Tallies kinds) (i : Input κ) :
    (st.step i).Tallies (kinds ++ ((st.occasion? i).map (·.kind)).toList) := by
  have stay : ∀ {st' : Station κ}, st'.Tallies kinds → st'.Tallies (kinds ++ []) := by
    intro st' h'
    rwa [List.append_nil]
  obtain ⟨gate, worker⟩ := st
  cases gate with
  | none => exact stay h
  | some gate =>
    cases i with
    | offer e => exact h.offer e
    | enter e => exact h.push e
    | change c => exact stay (h.keep ⟨rfl, rfl, rfl⟩ rfl)
    | remove =>
      simp only [Station.step]
      split
      · exact stay h
      · exact stay ⟨by rintro _ ⟨⟩, h.ended, h.begun⟩
    | handOut =>
      refine stay (h.keep ?_ rfl)
      cases out : gate.handOut with
      | none => exact .refl _
      | some gate' =>
        obtain ⟨-, rfl⟩ := Gate.handOut_eq_some out
        exact ⟨rfl, rfl, rfl⟩
    | release =>
      cases worker with
      | some a => exact stay h
      | none =>
        simp only [Station.step, Station.occasion?]
        split
        · exact h.stop ⟨rfl, rfl, rfl⟩
        · exact stay h
    | engage cancelled =>
      cases worker with
      | some a => exact stay h
      | none =>
        simp only [Station.step]
        split
        · exact stay (h.keep (.refl _) rfl)
        · exact stay h
    | cancel =>
      cases worker with
      | none => exact stay h
      | some a => exact stay (h.keep (.refl _) rfl)
    | work m =>
      cases worker with
      | none => exact stay h
      | some a =>
        simp only [Station.step, Station.occasion?]
        cases worked : a.work gate a.phase m with
        | none =>
          rw [Shift.occasion?_of_refused worked]
          exact stay h
        | some result => exact h.work (Shift.work_reports worked).2

/-- A gate that was just made has counted nothing, and nothing was reported. -/
lemma tallies_blank (name : String) (capacity : Nat) (bus : Option BusId) :
    Tallies (κ := κ) ⟨some { name, capacity, bus }, none⟩ [] := by
  refine ⟨?_, fun _ => .nil, nofun⟩
  rintro _ ⟨⟩
  exact ⟨rfl, rfl, rfl⟩

/-- Any number of inputs are counted and reported alike. -/
lemma Tallies.run (h : st.Tallies kinds) (is : List (Input κ)) :
    (st.run is).Tallies (kinds ++ (st.occasions is).map (·.kind)) := by
  induction is generalizing st kinds with
  | nil => exact (List.append_nil kinds).symm ▸ h
  | cons i is ih =>
    have kept := ih (h.step i)
    rw [List.append_assoc] at kept
    rw [occasions, List.map_append, ← Option.toList_map]
    exact kept

/-- Nothing happens at a gate that is gone. -/
lemma run_of_gone (gone : st.gate = none) (is : List (Input κ)) : st.run is = st := by
  induction is with
  | nil => rfl
  | cons i is ih =>
    have same : st.step i = st := by rw [step, gone]
    show (st.step i).run is = st
    rw [same, ih]

/-- Any number of inputs leave a gate its name, its bus and its slots. -/
lemma run_keeps {gate gate' : Gate} {is : List (Input κ)} (before : st.gate = some gate)
    (there : (st.run is).gate = some gate') : gate.Keeps gate' := by
  induction is generalizing st gate with
  | nil =>
    cases before.symm.trans there
    exact .refl _
  | cons i is ih =>
    obtain ⟨_, worker⟩ := st
    cases before
    change ((Station.step ⟨some gate, worker⟩ i).run is).gate = some gate' at there
    cases next : (Station.step ⟨some gate, worker⟩ i).gate with
    | none =>
      rw [run_of_gone next, next] at there
      cases there
    | some middle => exact (step_keeps next).trans (ih next there)

end Station

end EventGates
