import EventGates.Proofs.Dispatch.Chronicle
import EventGates.Proofs.Gate.Queue
import EventGates.Proofs.Table.Keys
import Mathlib.Data.List.Induction

/-!
# What panics leave behind

A callback that panics might as well have returned, but for the count of panics, the record about it
and the numbers of later records. To say so of whole runs, everything that panics leave behind is
wiped out of a system by `System.calm`, and `Move.calm` lets every callback return. A move commutes
with this wiping, whatever the system is (`System.calm_move`); hence a run is, wiped, the run in which
no callback panics (`Chronicle.run_calm`), and two runs that differ in panics alone are alike.

The proof goes from gates and buses to fabrics, systems and chronicles, with a lemma for each
operation of each of them.
-/

namespace EventGates

/-! ## Gates -/

namespace Gate

/-- The gate without its count of panics. -/
def calm (g : Gate) : Gate := { g with counters := { g.counters with listenerPanics := 0 } }

lemma calm_push (g : Gate) (e : Event) :
    g.calm.push e = ((g.push e).1.calm, (g.push e).2) := by
  obtain ⟨free, push⟩ | ⟨full, push⟩ := g.push_cases e
  · rw [push]
    exact if_pos free
  · rw [push]
    exact if_neg (Nat.not_lt_of_le full)

lemma calm_offer (g : Gate) (e : Event) :
    g.calm.offer e = ((g.offer e).1.calm, (g.offer e).2) := by
  obtain ⟨running, offer⟩ | ⟨running, offer⟩ := g.offer_cases e
  · rw [offer, ← g.calm_push]
    exact if_pos running
  · rw [offer]
    exact if_neg (by simp [calm, running])

lemma calm_handOut (g : Gate) : g.calm.handOut = g.handOut.map calm := by
  simp only [handOut]
  rw [show g.calm.handedOut = g.handedOut from rfl]
  split <;> rfl

lemma calm_pop (g : Gate) : g.calm.pop = g.pop.map fun (e, gate) => (e, gate.calm) := by
  simp only [pop]
  rw [show g.calm.queue = g.queue from rfl]
  split <;> rfl

end Gate

/-! ## Buses -/

namespace Bus

/-- The bus without the records about panics, and without numbers in the others. -/
def calm (b : Bus) : Bus :=
  { b with
    history := (b.history.filter (·.kind ≠ .listenerPanicked)).map fun d => { d with seq := 0 } }

lemma calm_calm (b : Bus) : b.calm.calm = b.calm := by
  simp only [calm, List.filter_map, List.map_map, mk.injEq, true_and]
  rw [List.filter_congr (q := fun _ => true)]
  · simp [Function.comp_def]
  · intro d hd
    exact (List.mem_filter.mp hd).2

/-- A record about a panic is not seen. -/
lemma calm_publish_of_panicked (b : Bus) {d : Diagnostic} (panicked : d.kind = .listenerPanicked) :
    (b.publish d).calm = b.calm := by
  simp [publish, calm, panicked]

/-- Another record is seen without its number. -/
lemma calm_publish_of_ne (b : Bus) {d : Diagnostic} (other : d.kind ≠ .listenerPanicked) :
    (b.publish d).calm = b.calm.publish { d with seq := 0 } := by
  simp [publish, calm, other]

lemma calm_publish (b : Bus) (d : Diagnostic) (n : Nat) :
    (b.publish d).calm = (b.calm.publish { d with seq := n }).calm := by
  by_cases panicked : d.kind = .listenerPanicked
  · have left := b.calm_publish_of_panicked panicked
    have right := b.calm.calm_publish_of_panicked (d := { d with seq := n }) panicked
    rw [left, right, b.calm_calm]
  · have left := b.calm_publish_of_ne panicked
    have right := b.calm.calm_publish_of_ne (d := { d with seq := n }) panicked
    rw [left, right, b.calm_calm]

end Bus

/-! ## Fabrics -/

namespace Fabric

/-- The fabric without what panics leave behind. -/
def calm (f : Fabric) : Fabric :=
  { f with gates := f.gates.map Gate.calm, buses := f.buses.map Bus.calm, records := 0 }

@[simp] lemma find?_calm (f : Fabric) (g : GateId) :
    f.calm.gates.find? g = (f.gates.find? g).map Gate.calm := f.gates.find?_map _ g

lemma calm_calm (f : Fabric) : f.calm.calm = f.calm := by
  simp only [calm, Table.map_map, Bus.calm_calm]
  rfl

/-- Wiping commutes with putting a gate in. -/
lemma calm_insert (f : Fabric) (g : GateId) (gate : Gate) :
    calm { f with gates := f.gates.insert g gate } =
      { f.calm with gates := f.calm.gates.insert g gate.calm } := by
  simp only [calm, Table.map_insert]

/-- Wiping commutes with a change to a gate. -/
lemma calm_updateGate (f : Fabric) (g : GateId) {change : Gate → Gate}
    (same : ∀ gate : Gate, (change gate).calm = change gate.calm) :
    (f.updateGate g change).calm = f.calm.updateGate g change := by
  simp only [calm, updateGate, Table.map_modify _ same]

/-- A panic that is counted is not seen. -/
lemma calm_countPanic (f : Fabric) (g : GateId) : (f.updateGate g Gate.countPanic).calm = f.calm := by
  have same : ∀ gate : Gate, gate.countPanic.calm = id gate.calm := fun _ => rfl
  simp only [calm, updateGate, Table.map_modify _ same, Table.modify_id]

lemma calm_publish (f : Fabric) (bus : Option BusId) (finding : Finding) :
    (f.publish bus finding).calm = (f.calm.publish bus finding).calm := by
  cases bus with
  | none => exact (calm_calm { f with records := 0 }).symm
  | some b =>
    have gates : f.calm.gates.map Gate.calm = f.gates.map Gate.calm := Table.map_map ..
    have buses :
        (f.buses.modify b (·.publish { finding with seq := f.records })).map Bus.calm =
          ((f.buses.map Bus.calm).modify b (·.publish { finding with seq := 0 })).map Bus.calm :=
      Table.map_modify_map f.buses Bus.calm_calm (fun bus => bus.calm_publish _ 0) b
    simp only [publish, calm] at gates buses ⊢
    rw [gates, buses]

/-- A record about a panic is not seen. -/
lemma calm_publish_of_panicked (f : Fabric) (bus : Option BusId) {finding : Finding}
    (panicked : finding.kind = .listenerPanicked) : (f.publish bus finding).calm = f.calm := by
  cases bus with
  | none => rfl
  | some b =>
    have same : ∀ bus : Bus, (bus.publish { finding with seq := f.records }).calm = id bus.calm :=
      fun bus => bus.calm_publish_of_panicked panicked
    simp only [publish, calm, Table.map_modify _ same, Table.modify_id]

lemma calm_diagnose (f : Fabric) (g : GateId) (kind : DiagnosticKind)
    (eventType reason : Option String) :
    (f.diagnose g kind eventType reason).calm =
      (f.calm.diagnose g kind eventType reason).calm := by
  cases there : f.gates.find? g with
  | none => simp only [diagnose, find?_calm, there, Option.map_none, calm_calm]
  | some gate =>
    simp only [diagnose, find?_calm, there, Option.map_some]
    exact f.calm_publish gate.bus _

lemma calm_diagnose_panicked (f : Fabric) (g : GateId) (eventType reason : Option String) :
    (f.diagnose g .listenerPanicked eventType reason).calm = f.calm := by
  simp only [diagnose]
  split
  · rfl
  · exact f.calm_publish_of_panicked _ rfl

/-- What an offer made of a gate is put in, and the event that was not accepted is reported. -/
lemma calm_settle (f : Fabric) (g : GateId) (e : Event) (gate : Gate) (admission : Admission) :
    calm
        (match admission.kind? with
        | none => { f with gates := f.gates.insert g gate }
        | some kind =>
          diagnose { f with gates := f.gates.insert g gate } g kind (some e.typeName) none) =
      calm
        (match admission.kind? with
        | none => { f.calm with gates := f.calm.gates.insert g gate.calm }
        | some kind =>
          diagnose { f.calm with gates := f.calm.gates.insert g gate.calm } g kind
            (some e.typeName) none) := by
  rw [← calm_insert]
  cases admission with
  | accepted => exact (calm_calm _).symm
  | overflow => exact calm_diagnose ..
  | idle => exact calm_diagnose ..

lemma calm_offer (f : Fabric) (g : GateId) (e : Event) :
    (f.offer g e).calm = (f.calm.offer g e).calm := by
  cases there : f.gates.find? g with
  | none => simp only [offer, find?_calm, there, Option.map_none, calm_calm]
  | some gate =>
    simp only [offer, find?_calm, there, Option.map_some, gate.calm_offer]
    exact f.calm_settle g e ..

lemma calm_enter (f : Fabric) (g : GateId) (e : Event) :
    (f.enter g e).calm = (f.calm.enter g e).calm := by
  cases there : f.gates.find? g with
  | none => simp only [enter, find?_calm, there, Option.map_none, calm_calm]
  | some gate =>
    simp only [enter, find?_calm, there, Option.map_some, gate.calm_push]
    exact f.calm_settle g e ..

lemma calm_changeListeners (f : Fabric) (g : GateId) (c : Registry.Change ListenerId) :
    (f.changeListeners g c).calm = f.calm.changeListeners g c := by
  have registry : ∀ change, (f.changeRegistry g change).1.calm = (f.calm.changeRegistry g change).1 := by
    intro change
    cases there : f.gates.find? g with
    | none => simp only [changeRegistry, find?_calm, there, Option.map_none]
    | some gate =>
      simp only [changeRegistry, find?_calm, there, Option.map_some, calm_insert]
      rfl
  cases c with
  | add x => exact registry _
  | remove x => exact registry _
  | clear => exact f.calm_updateGate g fun _ => rfl

lemma calm_handOut (f : Fabric) (g : GateId) : f.calm.handOut g = (f.handOut g).map calm := by
  cases there : f.gates.find? g with
  | none => simp only [handOut, find?_calm, there, Option.map_none, Option.bind_none]
  | some gate =>
    simp only [handOut, find?_calm, there, Option.map_some, Option.bind_some, gate.calm_handOut,
      Option.map_map, Function.comp_def, calm_insert]

lemma calm_pop (f : Fabric) (g : GateId) :
    f.calm.pop g = (f.pop g).map fun (e, f) => (e, f.calm) := by
  cases there : f.gates.find? g with
  | none => simp only [pop, find?_calm, there, Option.map_none, Option.bind_none]
  | some gate =>
    simp only [pop, find?_calm, there, Option.map_some, Option.bind_some, gate.calm_pop,
      Option.map_map, Function.comp_def, calm_insert]

lemma calm_endDispatch (f : Fabric) (g : GateId) :
    (f.endDispatch g).calm = (f.calm.endDispatch g).calm := by
  cases there : f.gates.find? g with
  | none => simp only [endDispatch, find?_calm, there, Option.map_none, calm_calm]
  | some gate =>
    simp only [endDispatch, find?_calm, there, Option.map_some]
    rw [calm_diagnose, calm_insert]
    rfl

lemma calm_removeGate (f : Fabric) (g : GateId) : (f.removeGate g).calm = f.calm.removeGate g := by
  simp only [removeGate, calm, Table.map_erase]

lemma calm_addGate (f : Fabric) (name : String) (capacity : Nat) (bus : Option BusId) :
    (f.addGate { name, capacity, bus }).1.calm = (f.calm.addGate { name, capacity, bus }).1 := by
  simp only [addGate, calm, Table.map_insert]
  rfl

lemma calm_addBus (f : Fabric) (capacity : Nat) :
    (f.addBus capacity).1.calm = (f.calm.addBus capacity).1 := by
  simp only [addBus, calm, Table.map_insert]
  rfl

end Fabric

/-! ## Systems -/

namespace System

variable {κ : Type}

/-- The system without what panics leave behind. -/
def calm (s : System κ) : System κ := { s with fabric := s.fabric.calm }

lemma calm_calm (s : System κ) : s.calm.calm = s.calm := by
  simp only [calm, Fabric.calm_calm]

lemma isOut_calm (s : System κ) (g : GateId) :
    (s.calm.fabric.gates.find? g).any (·.handedOut) =
      (s.fabric.gates.find? g).any (·.handedOut) := by
  rw [show s.calm.fabric = s.fabric.calm from rfl, Fabric.find?_calm, Option.any_map]
  rfl

lemma isHeld_calm (s : System κ) (g : GateId) : s.calm.isHeld g = s.isHeld g := by
  simp only [isHeld, isOut_calm]
  rfl

lemma listeners_calm (s : System κ) (g : GateId) : s.calm.listeners g = s.listeners g := by
  simp only [listeners]
  rw [show s.calm.fabric = s.fabric.calm from rfl, Fabric.find?_calm]
  cases s.fabric.gates.find? g with
  | none => rfl
  | some gate => rfl

/-- Operations on the fabric are made before or after wiping. -/
lemma calm_onFabric (s : System κ) {change : Fabric → Fabric}
    (same : (change s.fabric).calm = (change s.fabric.calm).calm) :
    (s.onFabric change).calm = (s.calm.onFabric change).calm :=
  congrArg (fun fabric => { s with fabric }) same

/-- The same for operations that wiping does not hold up. -/
lemma calm_onFabric_of_eq (s : System κ) {change : Fabric → Fabric}
    (same : (change s.fabric).calm = change s.fabric.calm) :
    (s.onFabric change).calm = (s.calm.onFabric change).calm := by
  apply s.calm_onFabric
  rw [← same, Fabric.calm_calm]

lemma calm_moveSide (s : System κ) (m : SideMove) :
    (s.moveSide m).calm = (s.calm.moveSide m).calm := by
  cases m with
  | addBus capacity => exact s.calm_onFabric_of_eq (s.fabric.calm_addBus capacity)
  | publish bus finding => exact s.calm_onFabric (s.fabric.calm_publish bus finding)
  | makeEvent d => exact s.calm_onFabric_of_eq rfl
  | link a b =>
    apply s.calm_onFabric_of_eq
    by_cases self : a = b
    · simp only [Fabric.link, if_pos self]
    · simp only [Fabric.link, if_neg self]
      rfl
  | unlink a b =>
    apply s.calm_onFabric_of_eq
    simp only [Fabric.unlink]
    split <;> rfl
  | unlinkAll g => exact s.calm_onFabric_of_eq rfl
  | addToken => exact (calm_calm s.addToken.1).symm
  | addTable => exact (calm_calm s.addTable.1).symm
  | register t path h =>
    have table : s.calm.endpoints t = s.endpoints t := rfl
    simp only [moveSide, register, table]
    cases (s.endpoints t).register path h with
    | error _ => exact s.calm_calm.symm
    | ok endpoints => exact (calm_calm { s with tables := s.tables.insert t endpoints }).symm
  | unregister t path => exact (calm_calm (s.unregister t path).1).symm

lemma calm_moveGate (s : System κ) (g : GateId) (m : GateMove) :
    (s.moveGate g m).map calm = (s.calm.moveGate g m).map calm := by
  cases m with
  | offer e => exact congrArg some (s.calm_onFabric (s.fabric.calm_offer g e))
  | enter e => exact congrArg some (s.calm_onFabric (s.fabric.calm_enter g e))
  | change c => exact congrArg some (s.calm_onFabric_of_eq (s.fabric.calm_changeListeners g c))
  | handOut =>
    have out : s.calm.fabric.handOut g = (s.fabric.handOut g).map Fabric.calm :=
      s.fabric.calm_handOut g
    simp only [moveGate, out, Option.map_map]
    congr 1
    funext f
    exact congrArg (fun fabric => { s with fabric }) f.calm_calm.symm
  | release =>
    simp only [moveGate, isHeld_calm]
    split
    · exact congrArg some (s.calm_onFabric (s.fabric.calm_endDispatch g))
    · rfl
  | engage t =>
    simp only [moveGate, isHeld_calm]
    split
    · exact congrArg some (calm_calm (s.addWorker g t).1).symm
    · rfl

variable (s : System κ) (w : WorkerId) (a : Worker κ)

lemma calm_receive : s.calm.receive w a = (s.receive w a).map calm := by
  have taken : s.calm.fabric.pop a.gate = (s.fabric.pop a.gate).map fun (e, f) => (e, f.calm) :=
    s.fabric.calm_pop a.gate
  simp only [receive, taken, Option.map_map]
  rfl

lemma calm_begin : (s.begin w a).calm = (s.calm.begin w a).calm := by
  have started : (s.onFabric (·.diagnose a.gate .dispatchStarted none none)).calm =
      (s.calm.onFabric (·.diagnose a.gate .dispatchStarted none none)).calm :=
    s.calm_onFabric (s.fabric.calm_diagnose ..)
  exact congrArg (·.setPhase w .ready) started

lemma calm_beginDelivery (e : Event) :
    (s.beginDelivery w a e).calm = (s.calm.beginDelivery w a e).calm := by
  have begun : (s.onFabric (·.updateGate a.gate Gate.beginDelivery)).calm =
      (s.calm.onFabric (·.updateGate a.gate Gate.beginDelivery)).calm :=
    s.calm_onFabric_of_eq (s.fabric.calm_updateGate a.gate fun _ => rfl)
  simp only [beginDelivery, listeners_calm]
  exact congrArg (·.setPhase w (.delivering ⟨e, none, s.listeners a.gate⟩)) begun

lemma calm_completeDelivery :
    (s.completeDelivery w a).calm = (s.calm.completeDelivery w a).calm := by
  have counted : (s.onFabric (·.updateGate a.gate fun g => g.countDelivered.endDelivery)).calm =
      (s.calm.onFabric (·.updateGate a.gate fun g => g.countDelivered.endDelivery)).calm :=
    s.calm_onFabric_of_eq (s.fabric.calm_updateGate a.gate fun _ => rfl)
  exact congrArg (·.setPhase w .ready) counted

/-- A callback that panics might as well have returned. -/
lemma calm_panicked (d : Delivery κ) (message : String) :
    (s.panicked w a d message).calm =
      (s.setPhase w (.delivering { d with callback := none })).calm := by
  have reported : ((s.fabric.updateGate a.gate Gate.countPanic).diagnose a.gate .listenerPanicked
      (some d.event.typeName) (some message)).calm = s.fabric.calm :=
    (Fabric.calm_diagnose_panicked ..).trans (s.fabric.calm_countPanic a.gate)
  exact congrArg (fun fabric => { s with fabric }.setPhase w (.delivering { d with callback := none }))
    reported

lemma calm_endDelivery : (s.endDelivery a).calm = s.calm.endDelivery a := by
  have ended : (s.fabric.updateGate a.gate Gate.endDelivery).calm =
      s.fabric.calm.updateGate a.gate Gate.endDelivery := s.fabric.calm_updateGate a.gate fun _ => rfl
  simp only [endDelivery]
  split
  · exact congrArg (fun fabric => { s with fabric }) ended
  · rfl

lemma calm_finish : (s.finish w a).calm = (s.calm.finish w a).calm := by
  let left := s.endDelivery a
  have ended := left.fabric.calm_endDispatch a.gate
  calc (s.finish w a).calm
    _ = { left.calm with
          fabric := (left.calm.fabric.endDispatch a.gate).calm
          workers := left.calm.workers.erase w } :=
      congrArg (fun fabric => { left with fabric, workers := left.workers.erase w }) ended
    _ = (s.calm.finish w a).calm := by
      rw [show left.calm = s.calm.endDelivery a from s.calm_endDelivery a]
      rfl

lemma calm_moveWorker (phase : Phase κ) (m : WorkerMove κ) :
    (s.moveWorker w a phase m).map calm = (s.calm.moveWorker w a phase m).map calm := by
  have may : s.calm.mayStop a = s.mayStop a := rfl
  have stopping : s.calm.isStopping a = s.isStopping a := rfl
  have cancelled : s.calm.isCancelled a.token = s.isCancelled a.token := rfl
  have received : (s.receive w a).map calm = (s.calm.receive w a).map calm := by
    rw [calm_receive, Option.map_map]
    congr 1
    funext s
    exact s.calm_calm.symm
  have sees : (s.calm.receive w a).isSome = (s.receive w a).isSome := by
    rw [calm_receive, Option.isSome_map]
  have same : ∀ phase, (s.setPhase w phase).calm = (s.calm.setPhase w phase).calm :=
    fun phase => (calm_calm (s.setPhase w phase)).symm
  -- one case for each line of `moveWorker`, in its order
  simp only [moveWorker]
  split
  case h_1 =>
    split
    · rfl
    · exact congrArg some (s.calm_begin w a)
  case h_2 | h_4 =>
    simp only [cancelled, stopping]
    split
    · rfl
    · exact received
  case h_3 =>
    simp only [cancelled, sees]
    split
    · rfl
    · exact congrArg some (same .idle)
  case h_5 _ e =>
    simp only [cancelled]
    split
    · rfl
    · exact congrArg some (s.calm_beginDelivery w a e)
  case h_6 | h_7 | h_8 => exact congrArg some (same _)
  case h_9 _ e k xs message =>
    have left := s.calm_panicked w a ⟨e, some k, xs⟩ message
    have right := s.calm.calm_panicked w a ⟨e, some k, xs⟩ message
    simp only [Option.map_some, left, right, same]
  case h_10 => exact congrArg some (s.calm_completeDelivery w a)
  case h_11 =>
    simp only [may]
    split
    · exact congrArg some (s.calm_finish w a)
    · rfl
  case h_12 => exact congrArg some (calm_calm (s.abort w)).symm
  case h_13 => rfl

end System

/-! ## Runs -/

/-- The move in which a callback that panics returns instead. -/
def WorkerMove.calm {κ : Type} : WorkerMove κ → WorkerMove κ
  | .panicked _ => .returned
  | m => m

/-- The move in which a callback that panics returns instead. -/
def Move.calm {κ : Type} : Move κ → Move κ
  | .worker w m => .worker w m.calm
  | m => m

lemma Move.calm_calm {κ : Type} (m : Move κ) : m.calm.calm = m.calm := by
  cases m with
  | worker w m => cases m <;> rfl
  | _ => rfl

namespace System

variable {κ : Type}

/-- A panic leads where a return leads. -/
lemma moveWorker_calm (s : System κ) (w : WorkerId) (a : Worker κ) (phase : Phase κ)
    (m : WorkerMove κ) :
    (s.moveWorker w a phase m).map calm = (s.moveWorker w a phase m.calm).map calm := by
  cases m with
  | panicked message =>
    simp only [WorkerMove.calm]
    cases phase with
    | delivering d =>
      obtain ⟨e, callback, xs⟩ := d
      cases callback with
      | none => cases xs <;> rfl
      | some k => exact congrArg some (s.calm_panicked w a ⟨e, some k, xs⟩ message)
    | _ => rfl
  | _ => rfl

/-- What a move leads to can be told without what panics left behind, and with every callback
returning. -/
theorem calm_move (s : System κ) (m : Move κ) :
    (s.move m).map calm = (s.calm.move m.calm).map calm := by
  cases m with
  | create name capacity bus =>
    exact congrArg some (s.calm_onFabric_of_eq (s.fabric.calm_addGate name capacity bus))
  | remove g =>
    have out : (s.calm.fabric.gates.find? g).any (·.handedOut) =
        (s.fabric.gates.find? g).any (·.handedOut) := s.isOut_calm g
    simp only [move, Move.calm, out]
    split
    · rfl
    · exact congrArg some (s.calm_onFabric_of_eq (s.fabric.calm_removeGate g))
  | gate g m => exact s.calm_moveGate g m
  | worker w m =>
    have workers : s.calm.workers = s.workers := rfl
    simp only [move, Move.calm, workers]
    cases s.workers.find? w with
    | none => rfl
    | some a => exact (s.calm_moveWorker w a a.phase m).trans (s.calm.moveWorker_calm w a a.phase m)
  | cancel t => exact congrArg some (calm_calm (s.cancel t)).symm
  | side m => exact congrArg some (s.calm_moveSide m)

end System

namespace Chronicle

variable {κ : Type}

/-- The chronicle without what panics leave behind. The ledgers do not tell of panics. -/
def calm (c : Chronicle κ) : Chronicle κ := { c with system := c.system.calm }

lemma entry_calm (c : Chronicle κ) (g : GateId) {note note' : Gate → Ledger → Ledger}
    (same : ∀ gate l, note gate l = note' gate.calm l) :
    c.entry g note = c.calm.entry g note' := by
  have there : c.calm.system.fabric.gates.find? g =
      (c.system.fabric.gates.find? g).map Gate.calm := c.system.fabric.find?_calm g
  simp only [entry, there]
  cases c.system.fabric.gates.find? g with
  | none => rfl
  | some gate => simp only [Option.map_some, same]; rfl

lemma noted_calm (c : Chronicle κ) (m : Move κ) : c.noted m = c.calm.noted m.calm := by
  cases m with
  | gate g m =>
    simp only [noted, Move.calm]
    refine c.entry_calm g fun gate l => ?_
    cases m with
    | offer e => simp only [GateMove.note, gate.calm_offer]
    | enter e => simp only [GateMove.note, gate.calm_push]
    | _ => rfl
  | worker w m =>
    have workers : c.calm.system.workers = c.system.workers := rfl
    simp only [noted, Move.calm, workers]
    cases c.system.workers.find? w with
    | none => rfl
    | some a =>
      refine c.entry_calm a.gate fun gate l => ?_
      cases m with
      | panicked message => cases a.phase <;> rfl
      | _ => rfl
  | _ => rfl

lemma calm_next (c : Chronicle κ) (m : Move κ) : (c.next m).calm = (c.calm.next m.calm).calm := by
  have moved := c.system.calm_move m
  rw [show c.system.calm = c.calm.system from rfl] at moved
  simp only [next]
  cases left : c.system.move m with
  | none =>
    rw [left, Option.map_none] at moved
    rw [Option.map_eq_none_iff.mp moved.symm]
    exact (congrArg (fun system => { c with system }) c.system.calm_calm).symm
  | some s =>
    rw [left, Option.map_some] at moved
    obtain ⟨s', right, same⟩ := Option.map_eq_some_iff.mp moved.symm
    simp only [right]
    exact congrArg₂ Chronicle.mk same.symm (c.noted_calm m)

/-- A run is, but for what panics leave behind, the one in which every callback returns. -/
theorem run_calm (ms : List (Move κ)) : (run ms).calm = (run (ms.map Move.calm)).calm := by
  induction ms using List.reverseRecOn with
  | nil => rfl
  | append_singleton ms m ih =>
    rw [List.map_append, List.map_singleton, run_concat, run_concat]
    calc ((run ms).next m).calm
      _ = ((run ms).calm.next m.calm).calm := calm_next ..
      _ = ((run (ms.map Move.calm)).calm.next m.calm.calm).calm := by rw [ih, m.calm_calm]
      _ = ((run (ms.map Move.calm)).next m.calm).calm := (calm_next ..).symm

end Chronicle

end EventGates
