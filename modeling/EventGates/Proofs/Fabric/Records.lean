import EventGates.Proofs.Dispatch.Moves
import EventGates.Proofs.Gate.Queue
import EventGates.Proofs.Table.Keys

/-!
# What operations of a fabric publish

An operation of a fabric publishes one record at most. What there is to publish is a `Notice`: what
the record says, and the bus that it is meant for. `Tells` says of an operation that it publishes its
notice and does nothing else to buses and to the numbering of records; the lemmas say so of each
operation.
-/

namespace EventGates

/-- What is to be published, and where. -/
structure Notice where
  bus : Option BusId
  finding : Finding

/-- The bus without what was published on it. -/
def Bus.cleared (b : Bus) : Bus := { b with history := [] }

/-- The notice about an event that was offered to a gate. -/
def Admission.notice? (a : Admission) (gate : Gate) (e : Event) : Option Notice :=
  a.kind?.map fun kind =>
    ⟨gate.bus, { kind, gate := some gate.name, eventType := some e.typeName }⟩

/-- The notice about a dispatcher that lets go of the queue of a gate. -/
def Gate.farewell (gate : Gate) : Notice where
  bus := gate.bus
  finding :=
    { kind := .dispatchStopped, gate := some gate.name
      reason := some (Fabric.discardedReason gate.queue.length) }

namespace Fabric

/-- Everything published on a bus, the earliest record first. -/
def published (f : Fabric) (b : BusId) : List Diagnostic :=
  ((f.buses.find? b).map Bus.published).getD []

/-- The record of a notice, which has the next number. -/
def record (f : Fabric) (n : Notice) : Diagnostic := { n.finding with seq := f.records }

/-- What a notice adds to a bus. -/
def added (f : Fabric) (b : BusId) : Option Notice → List Diagnostic
  | none => []
  | some n => if n.bus = some b ∧ f.buses.contains b = true then [f.record n] else []

/-- One fabric tells what the other has told, and the notice besides. -/
structure Tells (f f' : Fabric) (n : Option Notice) : Prop where
  published : ∀ b, f'.published b = f.published b ++ f.added b n
  records : f'.records = f.records + n.toList.length
  buses : f'.buses.map Bus.cleared = f.buses.map Bus.cleared
  nextBus : f'.nextBus = f.nextBus

namespace Tells

variable {f f' f'' : Fabric} {n : Option Notice}

/-- No bus comes or goes. -/
lemma contains (h : f.Tells f' n) (b : BusId) : f'.buses.contains b = f.buses.contains b := by
  have same := congrArg (·.contains b) h.buses
  simpa only [Table.contains, Table.find?_map, Option.isSome_map] using same

/-- Nothing is told where buses and numbers are as they were. -/
lemma of_eq (buses : f'.buses = f.buses) (records : f'.records = f.records)
    (nextBus : f'.nextBus = f.nextBus) : f.Tells f' none where
  published b := by simp only [Fabric.published, buses, added, List.append_nil]
  records := records
  buses := by rw [buses]
  nextBus := nextBus

lemma refl (f : Fabric) : f.Tells f none := of_eq rfl rfl rfl

/-- Something is told after nothing was. -/
lemma after (h : f'.Tells f'' n) (quiet : f.Tells f' none) : f.Tells f'' n where
  published b := by
    have same : f'.added b n = f.added b n := by
      cases n with
      | none => rfl
      | some n => simp only [added, record, quiet.contains, quiet.records]; rfl
    rw [h.published, quiet.published, same]
    simp only [added, List.append_nil]
  records := by
    rw [h.records, quiet.records]
    rfl
  buses := h.buses.trans quiet.buses
  nextBus := h.nextBus.trans quiet.nextBus

end Tells

variable (f : Fabric) (g : GateId)

lemma tells_publish (n : Notice) : f.Tells (f.publish n.bus n.finding) (some n) := by
  obtain ⟨bus, finding⟩ := n
  cases bus with
  | none => exact ⟨fun b => (List.append_nil _).symm, rfl, rfl, rfl⟩
  | some b' =>
    refine ⟨?_, rfl, ?_, rfl⟩
    · intro b
      simp only [Fabric.published, publish, added, Table.find?_modify, Table.contains,
        Option.some.injEq]
      by_cases same : b = b'
      · subst same
        cases f.buses.find? b with
        | none => simp
        | some bus => simp [Bus.publish, Bus.published, record]
      · simp [same, Ne.symm same]
    · have kept : ∀ bus : Bus, (bus.publish { finding with seq := f.records }).cleared =
          id bus.cleared := fun _ => rfl
      simp only [publish, Table.map_modify _ kept, Table.modify_id]

/-- A record is made about a gate. -/
lemma tells_diagnose {gate : Gate} (there : f.gates.find? g = some gate) (kind : DiagnosticKind)
    (eventType reason : Option String) :
    f.Tells (f.diagnose g kind eventType reason)
      (some ⟨gate.bus, { kind, gate := some gate.name, eventType, reason }⟩) := by
  simp only [diagnose, there]
  exact f.tells_publish ⟨gate.bus, _⟩

lemma tells_updateGate (change : Gate → Gate) : f.Tells (f.updateGate g change) none :=
  .of_eq rfl rfl rfl

/-- What an offer made of a gate is put in, and the event that was not accepted is reported. -/
lemma tells_settle {gate gate' : Gate} (e : Event) (admission : Admission)
    (bus : gate'.bus = gate.bus) (name : gate'.name = gate.name) :
    f.Tells
      (match admission.kind? with
      | none => { f with gates := f.gates.insert g gate' }
      | some kind =>
        diagnose { f with gates := f.gates.insert g gate' } g kind (some e.typeName) none)
      (admission.notice? gate e) := by
  have put : f.Tells { f with gates := f.gates.insert g gate' } none := .of_eq rfl rfl rfl
  have there : Table.find? (f.gates.insert g gate') g = some gate' := by simp
  rw [Admission.notice?, ← bus, ← name]
  cases admission with
  | accepted => exact put
  | overflow => exact (tells_diagnose _ g there _ _ _).after put
  | idle => exact (tells_diagnose _ g there _ _ _).after put

end Fabric

namespace Gate

variable (gate : Gate) (e : Event)

/-- Putting an event into the queue changes the queue and the counters. -/
lemma push_keeps : (gate.push e).1.bus = gate.bus ∧ (gate.push e).1.name = gate.name ∧
    (gate.push e).1.capacity = gate.capacity := by
  obtain ⟨_, h⟩ | ⟨_, h⟩ := gate.push_cases e
  · rw [h]
    exact ⟨rfl, rfl, rfl⟩
  · rw [h]
    exact ⟨rfl, rfl, rfl⟩

/-- An offer changes the queue and the counters. -/
lemma offer_keeps : (gate.offer e).1.bus = gate.bus ∧ (gate.offer e).1.name = gate.name ∧
    (gate.offer e).1.capacity = gate.capacity := by
  obtain ⟨_, h⟩ | ⟨_, h⟩ := gate.offer_cases e
  · rw [h]
    exact gate.push_keeps e
  · rw [h]
    exact ⟨rfl, rfl, rfl⟩

end Gate

namespace Fabric

variable (f : Fabric) (g : GateId) {gate : Gate}

lemma tells_offer (there : f.gates.find? g = some gate) (e : Event) :
    f.Tells (f.offer g e) ((gate.offer e).2.notice? gate e) := by
  obtain ⟨bus, name, -⟩ := gate.offer_keeps e
  simp only [offer, there]
  exact f.tells_settle g e _ bus name

lemma tells_enter (there : f.gates.find? g = some gate) (e : Event) :
    f.Tells (f.enter g e) ((gate.push e).2.notice? gate e) := by
  obtain ⟨bus, name, -⟩ := gate.push_keeps e
  simp only [enter, there]
  exact f.tells_settle g e _ bus name

lemma tells_endDispatch (there : f.gates.find? g = some gate) :
    f.Tells (f.endDispatch g) (some gate.farewell) := by
  have put : f.Tells { f with gates := f.gates.insert g gate.close.drain.takeBack } none :=
    .of_eq rfl rfl rfl
  have here : Table.find? (f.gates.insert g gate.close.drain.takeBack) g =
      some gate.close.drain.takeBack := by simp
  simp only [endDispatch, there]
  exact (tells_diagnose { f with gates := f.gates.insert g gate.close.drain.takeBack } g here
    .dispatchStopped none _).after put

lemma tells_changeListeners (c : Registry.Change ListenerId) :
    f.Tells (f.changeListeners g c) none := by
  have registry : ∀ change, f.Tells (f.changeRegistry g change).1 none := by
    intro change
    simp only [changeRegistry]
    split
    · exact .refl f
    · exact .of_eq rfl rfl rfl
  cases c with
  | add x => exact registry _
  | remove x => exact registry _
  | clear => exact f.tells_updateGate g _

lemma tells_handOut {f' : Fabric} (out : f.handOut g = some f') : f.Tells f' none := by
  obtain ⟨_, _, _, _, rfl⟩ := handOut_eq_some out
  exact .of_eq rfl rfl rfl

lemma tells_pop {f' : Fabric} {e : Event} (taken : f.pop g = some (e, f')) : f.Tells f' none := by
  obtain ⟨_, _, _, _, rfl⟩ := pop_eq_some taken
  exact .of_eq rfl rfl rfl

end Fabric

end EventGates
