import EventGates.Proofs.Dispatch.Desk
import EventGates.Proofs.Table.Keys
import Mathlib.Data.List.Induction

/-!
# Moves at a desk

Each move of the system is a step at one desk and leaves the others as they are (`passes_next`). So
a property of desks that blank desks have and steps preserve holds of every desk, whatever moves are
made; this is `run_desk`, by which the properties of runs are proved.
-/

namespace EventGates

namespace System

variable {κ : Type} {s s' : System κ} {w : WorkerId} {a : Worker κ} {gate : Gate}

/-- A worker goes on to another phase, and its gate changes. -/
lemma turns_setPhase {f : Fabric} {gate' : Gate} (found : s.workers.find? w = some a)
    (gates : ∀ x, f.gates.find? x = if x = a.gate then some gate' else s.fabric.gates.find? x)
    (nextGate : f.nextGate = s.fabric.nextGate) (phase : Phase κ) :
    WorkerTurns s ({ s with fabric := f }.setPhase w phase) a.gate gate' w (some { a with phase }) where
  gates := gates
  workers x := by
    by_cases hx : x = w
    · simp [setPhase, hx, found]
    · simp [setPhase, hx]
  own b hb := by
    cases hb
    rfl
  nextGate := nextGate
  nextWorker := Nat.le_refl _

/-- An update of a gate that is there changes it. -/
lemma find?_updateGate_of_some {f : Fabric} {g : GateId} (there : f.gates.find? g = some gate)
    (change : Gate → Gate) (x : GateId) :
    (f.updateGate g change).gates.find? x =
      if x = g then some (change gate) else f.gates.find? x := by
  rw [Fabric.find?_updateGate, there]
  rfl

/-- Every gate is as it is. -/
lemma find?_self {f : Fabric} {g : GateId} (there : f.gates.find? g = some gate) (x : GateId) :
    f.gates.find? x = if x = g then some gate else f.gates.find? x := by
  split
  · next hx => rw [hx, there]
  · rfl

/-- A worker goes on to another phase. -/
lemma turns_phase (found : s.workers.find? w = some a)
    (there : s.fabric.gates.find? a.gate = some gate) (phase : Phase κ) :
    WorkerTurns s (s.setPhase w phase) a.gate gate w (some { a with phase }) :=
  turns_setPhase found (find?_self there) rfl phase

/-- A worker that takes an event goes on with it. -/
lemma receive_eq_some (found : s.workers.find? w = some a)
    (there : s.fabric.gates.find? a.gate = some gate) (h : s.receive w a = some s') :
    ∃ e gate', gate.pop = some (e, gate') ∧
      WorkerTurns s s' a.gate gate' w (some { a with phase := .holding e }) := by
  simp only [receive, Option.map_eq_some_iff, Prod.exists] at h
  obtain ⟨e, f, taken, rfl⟩ := h
  obtain ⟨_, gate', there', popped, rfl⟩ := Fabric.pop_eq_some taken
  rw [there] at there'
  cases there'
  refine ⟨e, gate', popped, ?_⟩
  refine turns_setPhase found ?_ ?_ _
  · intro x
    exact Table.find?_insert ..
  · rfl

/-- A worker that ends leaves the delivery, closes and drains the queue and gives it back. -/
lemma turns_finish (w : WorkerId) (there : s.fabric.gates.find? a.gate = some gate) :
    WorkerTurns s (s.finish w a) a.gate (a.phase.leave gate).close.drain.takeBack w none := by
  have left : ∀ x, (s.endDelivery a).fabric.gates.find? x =
      if x = a.gate then some (a.phase.leave gate) else s.fabric.gates.find? x := by
    intro x
    simp only [endDelivery]
    split
    · next phase =>
      rw [phase]
      exact find?_updateGate_of_some there _ x
    · next phase =>
      have same : a.phase.leave gate = gate := by
        cases hp : a.phase with
        | delivering d => exact absurd hp (phase d)
        | _ => rfl
      rw [same]
      exact find?_self there x
  have workers : (s.endDelivery a).workers = s.workers := by
    simp only [endDelivery]
    split <;> rfl
  refine ⟨?_, ?_, ?_, ?_, ?_⟩
  · intro x
    show ((s.endDelivery a).fabric.endDispatch a.gate).gates.find? x = _
    rw [Fabric.find?_endDispatch, left, left, if_pos rfl]
    split <;> rfl
  · intro x
    show ((s.endDelivery a).workers.erase w).find? x = _
    rw [workers, Table.find?_erase]
  · intro b hb
    cases hb
  · show ((s.endDelivery a).fabric.endDispatch a.gate).nextGate = _
    rw [Fabric.nextGate_endDispatch]
    simp only [endDelivery]
    split <;> rfl
  · show _ ≤ (s.endDelivery a).nextWorker
    simp only [endDelivery]
    split <;> exact Nat.le_refl _

/-- A worker that is dropped while it is running goes on as before. -/
lemma turns_abort (found : s.workers.find? w = some a)
    (there : s.fabric.gates.find? a.gate = some gate) :
    WorkerTurns s (s.abort w) a.gate gate w (some { a with aborted := true }) := by
  refine ⟨find?_self there, ?_, ?_, rfl, Nat.le_refl _⟩
  · intro x
    by_cases hx : x = w
    · simp [abort, hx, found]
    · simp [abort, hx]
  · intro b hb
    cases hb
    rfl

/-- A free worker that takes an event takes a step at the desk. -/
lemma receive_step (found : s.workers.find? w = some a)
    (there : s.fabric.gates.find? a.gate = some gate) (l : Ledger) (free : a.phase.isFree = true)
    (h : s.receive w a = some s') :
    ∃ gate' after, WorkerTurns s s' a.gate gate' w after ∧
      Desk.Step ⟨some gate, some (w, a.phase), l⟩
        ⟨some gate', after.map fun b => (w, b.phase), WorkerMove.take.note gate l a.phase⟩ := by
  obtain ⟨e, gate', popped, turns⟩ := receive_eq_some found there h
  obtain ⟨es, queue, _⟩ := Gate.pop_eq_some popped
  have noted : WorkerMove.take.note gate l a.phase = l.taken e := by
    simp only [WorkerMove.note, queue]
  rw [noted]
  exact ⟨gate', _, turns, .take free popped⟩

/-- A worker that may stop is waiting. -/
lemma isWaiting_of_mayStop (h : s.mayStop a = true) : a.phase.isWaiting = true := by
  simp only [mayStop] at h
  split at h
  · next phase => rw [phase]; rfl
  · simp only [Bool.and_eq_true] at h
    exact h.1

/-- A move of a worker is a step at the desk of its gate. -/
lemma moveWorker_step {m : WorkerMove κ} (found : s.workers.find? w = some a)
    (there : s.fabric.gates.find? a.gate = some gate) (l : Ledger)
    (h : s.moveWorker w a a.phase m = some s') :
    ∃ gate' after, WorkerTurns s s' a.gate gate' w after ∧
      Desk.Step ⟨some gate, some (w, a.phase), l⟩
        ⟨some gate', after.map fun b => (w, b.phase), m.note gate l a.phase⟩ := by
  have update := find?_updateGate_of_some there
  -- one case for each line of `moveWorker`, in its order
  simp only [moveWorker] at h
  split at h
  case h_1 phase =>
    split at h
    · cases h
    · cases h
      rw [phase]
      refine ⟨gate, _, turns_setPhase found ?_ (Fabric.nextGate_diagnose ..) .ready, .begin⟩
      rw [Fabric.gates_diagnose]
      exact find?_self there
  case h_2 phase =>
    -- a worker that takes an event is free, whether it has waited for it or not
    split at h
    · cases h
    · exact receive_step found there l (by rw [phase]; rfl) h
  case h_3 phase =>
    split at h
    · cases h
    · cases h
      rw [phase]
      exact ⟨gate, _, turns_phase found there .idle, .rest⟩
  case h_4 phase =>
    split at h
    · cases h
    · exact receive_step found there l (by rw [phase]; rfl) h
  case h_5 e phase =>
    split at h
    · cases h
    · cases h
      rw [phase]
      have live : s.listeners a.gate = gate.registry.live := by simp only [listeners, there]
      refine ⟨gate.beginDelivery, _, turns_setPhase found (update _) rfl _, ?_⟩
      rw [live]
      exact .deliver
  case h_6 e x xs k phase =>
    cases h
    rw [phase]
    exact ⟨gate, _, turns_phase found there _, .call k⟩
  case h_7 e k xs k' phase =>
    cases h
    rw [phase]
    exact ⟨gate, _, turns_phase found there _, .proceed (some k')⟩
  case h_8 e k xs phase =>
    cases h
    rw [phase]
    exact ⟨gate, _, turns_phase found there _, .proceed none⟩
  case h_9 e k xs message phase =>
    cases h
    rw [phase]
    refine ⟨gate.countPanic, _, turns_setPhase found ?_ ?_ _, .panicked⟩
    · rw [Fabric.gates_diagnose]
      exact update _
    · rw [Fabric.nextGate_diagnose]
      rfl
  case h_10 e phase =>
    cases h
    rw [phase]
    exact ⟨_, _, turns_setPhase found (update _) rfl _, .complete⟩
  case h_11 =>
    split at h
    · next may =>
      cases h
      exact ⟨_, none, turns_finish w there, .stop (isWaiting_of_mayStop may)⟩
    · cases h
  case h_12 =>
    -- being dropped shows only later, when the worker stops
    cases h
    exact ⟨gate, _, turns_abort found there, .stay⟩
  case h_13 => cases h

/-- A dispatcher that is held is of a gate that is there and that no worker serves. -/
lemma isHeld_elim {g : GateId} (h : s.isHeld g = true) :
    (∃ gate, s.fabric.gates.find? g = some gate ∧ gate.handedOut = true) ∧
      ∀ w a, s.workers.find? w = some a → a.gate ≠ g := by
  simp only [isHeld, Bool.and_eq_true, Option.any_eq_true, Bool.not_eq_true'] at h
  refine ⟨h.1, ?_⟩
  intro w a found own
  have unserved := h.2
  simp only [isServed, List.any_eq_false] at unserved
  apply unserved w (Table.mem_keys_of_find? found)
  simp [found, own]

/-- What is done to nothing but links, buses, tables and numbers changes no gate and no worker. -/
lemma alike_moveSide (s : System κ) (m : SideMove) : Alike s (s.moveSide m) := by
  cases m with
  | link a b =>
    simp only [moveSide]
    cases hl : s.fabric.link a b with
    | error _ => exact ⟨fun x => by simp [onFabric, hl], rfl, by simp [onFabric, hl], rfl⟩
    | ok result =>
      obtain ⟨f, made⟩ := result
      obtain ⟨links, rfl⟩ := Fabric.link_eq_ok hl
      exact ⟨fun x => by simp [onFabric, hl], rfl, by simp [onFabric, hl], rfl⟩
  | unlink a b =>
    exact ⟨fun x => by simp [moveSide, onFabric], rfl, by simp [moveSide, onFabric], rfl⟩
  | register t path h =>
    simp only [moveSide, register]
    cases (s.endpoints t).register path h with
    | error _ => exact ⟨fun _ => rfl, rfl, rfl, rfl⟩
    | ok table => exact ⟨fun _ => rfl, rfl, rfl, rfl⟩
  | _ => exact ⟨fun _ => rfl, rfl, rfl, rfl⟩

end System

namespace Chronicle

variable {κ : Type}

/-- The entry about a gate that is there. -/
lemma entry_of_some {c : Chronicle κ} {g : GateId} {gate : Gate}
    (there : c.system.fabric.gates.find? g = some gate) (note : Gate → Ledger → Ledger) :
    c.entry g note = Function.update c.ledgers g (note gate (c.ledgers g)) := by
  simp only [entry, there]

/-- There is no entry about a gate that is not there. -/
lemma entry_of_none {c : Chronicle κ} {g : GateId}
    (gone : c.system.fabric.gates.find? g = none) (note : Gate → Ledger → Ledger) :
    c.entry g note = c.ledgers := by
  simp only [entry, gone]

namespace Sound

variable {c : Chronicle κ}

/-- An operation on a gate is a step at its desk if it is one where the gate is there. -/
lemma passes_of_change (h : Sound c) {g : GateId} {f : Fabric} (change : Gate → Gate)
    (note : Gate → Ledger → Ledger)
    (gates : ∀ x, f.gates.find? x =
      if x = g then (c.system.fabric.gates.find? g).map change
      else c.system.fabric.gates.find? x)
    (nextGate : f.nextGate = c.system.fabric.nextGate)
    (step : ∀ gate worker l, c.Shows g ⟨some gate, worker, l⟩ →
      Desk.Step ⟨some gate, worker, l⟩ ⟨some (change gate), worker, note gate l⟩) :
    c.Passes { system := { c.system with fabric := f }, ledgers := c.entry g note } := by
  obtain ⟨⟨gate, worker, l⟩, shows, _⟩ := h.desk g
  cases gate with
  | none =>
    apply h.passes_of_alike
    · refine ⟨?_, rfl, nextGate, rfl⟩
      intro x
      rw [gates, shows.gate]
      split
      · next hx =>
        rw [hx]
        exact shows.gate.symm
      · rfl
    · exact entry_of_none shows.gate note
  | some gate =>
    refine h.passes_of_gateTurns shows (step gate worker l shows) ?_ ?_ rfl ?_
    · refine ⟨?_, rfl, Nat.le_of_eq nextGate.symm, rfl⟩
      intro x
      rw [gates, shows.gate]
      rfl
    · rw [entry_of_some shows.gate, shows.ledger]
    · exact Nat.lt_of_lt_of_eq (h.gate_lt shows.gate) nextGate.symm

/-- Nobody serves a gate whose dispatcher is held. -/
lemma worker_of_isHeld {g : GateId} {d : Desk κ} (shows : c.Shows g d)
    (held : c.system.isHeld g = true) : d.worker = none := by
  cases worker : d.worker with
  | none => rfl
  | some entry =>
    obtain ⟨w, phase⟩ := entry
    obtain ⟨a, found, own, _⟩ := (shows.worker w phase).mp worker
    exact absurd own ((System.isHeld_elim held).2 w a found)

/-- A held dispatcher is of a gate whose queue is handed out. -/
lemma handedOut_of_isHeld {g : GateId} {gate : Gate}
    (there : c.system.fabric.gates.find? g = some gate) (held : c.system.isHeld g = true) :
    gate.handedOut = true := by
  obtain ⟨gate', there', out⟩ := (System.isHeld_elim held).1
  rw [there] at there'
  cases there'
  exact out

/-- What is done to a gate is a step at its desk. -/
lemma passes_gate (h : Sound c) {g : GateId} {m : GateMove} {s : System κ}
    (made : c.system.moveGate g m = some s) :
    c.Passes { system := s, ledgers := c.entry g fun gate l => m.note gate l } := by
  cases m with
  | offer e =>
    cases made
    exact h.passes_of_change _ _ (fun x => Fabric.find?_offer ..) (Fabric.nextGate_offer ..)
      fun gate worker l _ => .offer e
  | enter e =>
    cases made
    exact h.passes_of_change _ _ (fun x => Fabric.find?_enter ..) (Fabric.nextGate_enter ..)
      fun gate worker l _ => .enter e
  | change d =>
    cases made
    exact h.passes_of_change _ _ (fun x => Fabric.find?_changeListeners ..)
      (Fabric.nextGate_changeListeners ..) fun gate worker l _ => .change d
  | handOut =>
    simp only [System.moveGate, Option.map_eq_some_iff] at made
    obtain ⟨f, out, rfl⟩ := made
    obtain ⟨gate, gate', there, moved, rfl⟩ := Fabric.handOut_eq_some out
    refine h.passes_of_change (fun _ => gate') _ ?_ rfl ?_
    · intro x
      rw [Table.find?_insert, there]
      rfl
    · intro gate₂ worker l shows
      have there' := shows.gate
      rw [there] at there'
      cases there'
      exact .handOut moved
  | release =>
    simp only [System.moveGate] at made
    split at made
    · next held =>
      cases made
      refine h.passes_of_change _ _ (fun x => Fabric.find?_endDispatch ..)
        (Fabric.nextGate_endDispatch ..) ?_
      intro gate worker l shows
      cases worker_of_isHeld shows held
      exact .release (handedOut_of_isHeld shows.gate held)
    · cases made
  | engage t =>
    simp only [System.moveGate] at made
    split at made
    · next held =>
      cases made
      obtain ⟨⟨gate, worker, l⟩, shows, _⟩ := h.desk g
      cases worker_of_isHeld shows held
      obtain ⟨gate', there, out⟩ := (System.isHeld_elim held).1
      cases shows.gate.symm.trans there
      have step : Desk.Step ⟨some gate', none, l⟩
          ⟨some gate', some (c.system.nextWorker, Phase.unstarted (κ := κ)), l⟩ :=
        .engage _ out
      have turns : c.system.WorkerTurns (c.system.addWorker g t).1 g gate' c.system.nextWorker
          (some { gate := g, token := t }) := by
        refine ⟨System.find?_self there, ?_, ?_, rfl, Nat.le_succ _⟩
        · intro x
          exact Table.find?_insert ..
        · intro b hb
          cases hb
          rfl
      refine h.passes_of_workerTurns shows step turns rfl ?_ (h.newWorker _ (Nat.le_refl _))
        (by rintro _ ⟨⟩) rfl rfl (h.gate_lt there) (Nat.lt_succ_self _)
      rw [entry_of_some there, shows.ledger]
      rfl
    · cases made

/-- What a worker does is a step at the desk of its gate. -/
lemma passes_worker (h : Sound c) {w : WorkerId} {a : Worker κ}
    (found : c.system.workers.find? w = some a) {m : WorkerMove κ} {s : System κ}
    (made : c.system.moveWorker w a a.phase m = some s) :
    c.Passes { system := s, ledgers := c.entry a.gate fun gate l => m.note gate l a.phase } := by
  obtain ⟨⟨gate?, worker, l⟩, shows, served⟩ := h.desk a.gate
  -- the desk of its gate shows the worker, and a gate that is served is there
  cases (shows.worker w a.phase).mpr ⟨a, found, rfl, rfl⟩
  obtain ⟨gate, ⟨⟩, out⟩ := served rfl
  obtain ⟨gate', after, turns, step⟩ := System.moveWorker_step found shows.gate l made
  refine h.passes_of_workerTurns shows step turns rfl ?_ found ?_ rfl rfl (h.gate_lt shows.gate) ?_
  · rw [entry_of_some shows.gate, shows.ledger]
  · intro b hb
    cases hb
    rfl
  · exact Nat.lt_of_lt_of_le (h.worker_lt found) turns.nextWorker

/-- A new gate has a blank desk. -/
lemma passes_create (h : Sound c) (name : String) (capacity : Nat) (bus : Option BusId) :
    c.Passes
      { system := c.system.onFabric fun f => (f.addGate { name, capacity, bus }).1
        ledgers := Function.update c.ledgers c.system.fabric.nextGate {} } := by
  obtain ⟨⟨gate, worker, l⟩, shows, served⟩ := h.desk c.system.fabric.nextGate
  cases shows.gate.symm.trans (h.newGate _ (Nat.le_refl _))
  cases worker with
  | some entry =>
    -- nobody serves a gate that is not there
    obtain ⟨_, ⟨⟩, _⟩ := served rfl
  | none =>
    refine h.passes_of_gateTurns shows (.create name capacity bus) ?_ rfl rfl (Nat.lt_succ_self _)
    refine ⟨?_, rfl, Nat.le_succ _, rfl⟩
    intro x
    exact Table.find?_insert ..

/-- A gate that goes away leaves its desk without a gate. -/
lemma passes_remove (h : Sound c) {g : GateId}
    (free : (c.system.fabric.gates.find? g).any (·.handedOut) = false) :
    c.Passes { c with system := c.system.onFabric (·.removeGate g) } := by
  obtain ⟨⟨gate?, worker, l⟩, shows, _⟩ := h.desk g
  have gates : ∀ x, (c.system.fabric.removeGate g).gates.find? x =
      if x = g then none else c.system.fabric.gates.find? x := by
    intro x
    exact Table.find?_erase ..
  cases gate? with
  | none =>
    refine h.passes_of_alike ⟨?_, rfl, rfl, rfl⟩ rfl
    intro x
    refine (gates x).trans ?_
    split
    · next hx => rw [hx, shows.gate]
    · rfl
  | some gate =>
    rw [shows.gate] at free
    refine h.passes_of_gateTurns shows (.remove free) ?_ ?_ rfl (h.gate_lt shows.gate)
    · exact ⟨gates, rfl, Nat.le_refl _, rfl⟩
    · rw [← shows.ledger, Function.update_eq_self]

/-- A move is a step at each desk. -/
theorem passes_next (h : Sound c) (m : Move κ) : c.Passes (c.next m) := by
  simp only [Chronicle.next]
  split
  · exact h.passes_of_alike ⟨fun _ => rfl, rfl, rfl, rfl⟩ rfl
  · next s made =>
    cases m with
    | create name capacity bus =>
      cases made
      exact h.passes_create name capacity bus
    | remove g =>
      simp only [System.move] at made
      split at made
      · cases made
      · next free =>
        cases made
        exact h.passes_remove (by simpa using free)
    | gate g m => exact h.passes_gate made
    | worker w m =>
      simp only [System.move, Option.bind_eq_some_iff] at made
      obtain ⟨a, found, made⟩ := made
      simp only [noted, found]
      exact h.passes_worker found made
    | cancel t =>
      cases made
      exact h.passes_of_alike ⟨fun _ => rfl, rfl, rfl, rfl⟩ rfl
    | side m =>
      cases made
      exact h.passes_of_alike (c.system.alike_moveSide m) rfl

end Sound

/-- After every run there is a desk for each gate. -/
theorem run_sound (ms : List (Move κ)) : (run ms).Sound := by
  induction ms using List.reverseRecOn with
  | nil => exact sound_start
  | append_singleton ms m ih =>
    rw [run_concat]
    exact (ih.passes_next m).sound

/-- What holds of blank desks and is kept by every step holds of every desk after every run. -/
theorem run_desk {P : Desk κ → Prop} (blank : P {})
    (keep : ∀ d d', d.Served → P d → d.Step d' → P d') (ms : List (Move κ)) {g : GateId}
    {d : Desk κ} (shows : (run ms).Shows g d) : P d := by
  induction ms using List.reverseRecOn generalizing d with
  | nil =>
    rw [shows.unique (shows_start g)]
    exact blank
  | append_singleton ms m ih =>
    rw [run_concat] at shows
    obtain ⟨before, shows', served⟩ := (run_sound ms).desk g
    obtain ⟨after, shows'', step⟩ := ((run_sound ms).passes_next m).step g before shows'
    rw [shows.unique shows'']
    exact keep before after served (ih shows') step

end Chronicle

end EventGates
