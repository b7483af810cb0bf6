import EventGates.Fabric.Basic
import Mathlib.Tactic.Common

/-!
# What operations of a fabric do to its gates

Each operation changes one gate at most, by the operation on `Gate` that it is made of. The lemmas
here say so through the view `gates.find?`, and that the number of the next gate stays as it is. What
is offered and what is reported leaves the links as they are.
-/

namespace EventGates.Fabric

variable (f : Fabric) (g x : GateId)

/-! ## Operations that change no gate -/

@[simp] lemma gates_publish (bus : Option BusId) (finding : Finding) :
    (f.publish bus finding).gates = f.gates := rfl

@[simp] lemma nextGate_publish (bus : Option BusId) (finding : Finding) :
    (f.publish bus finding).nextGate = f.nextGate := rfl

@[simp] lemma gates_diagnose (kind : DiagnosticKind) (eventType reason : Option String) :
    (f.diagnose g kind eventType reason).gates = f.gates := by
  simp only [diagnose]
  split <;> rfl

@[simp] lemma nextGate_diagnose (kind : DiagnosticKind) (eventType reason : Option String) :
    (f.diagnose g kind eventType reason).nextGate = f.nextGate := by
  simp only [diagnose]
  split <;> rfl

@[simp] lemma links_diagnose (kind : DiagnosticKind) (eventType reason : Option String) :
    (f.diagnose g kind eventType reason).links = f.links := by
  simp only [diagnose]
  split <;> rfl

@[simp] lemma gates_unlink (a b : GateId) : (f.unlink a b).1.gates = f.gates := by
  simp only [unlink]
  split <;> rfl

@[simp] lemma nextGate_unlink (a b : GateId) : (f.unlink a b).1.nextGate = f.nextGate := by
  simp only [unlink]
  split <;> rfl

/-- Linking changes links alone. -/
lemma link_eq_ok {f f' : Fabric} {a b : GateId} {made : Bool} (h : f.link a b = .ok (f', made)) :
    ∃ links, f' = { f with links } := by
  simp only [link] at h
  split at h
  · cases h
  · cases h
    exact ⟨_, rfl⟩

/-! ## Operations that change one gate -/

/-- An offer changes the gate that it is made to. -/
lemma find?_offer (e : Event) :
    (f.offer g e).gates.find? x =
      if x = g then (f.gates.find? g).map fun gate => (gate.offer e).1 else f.gates.find? x := by
  cases hg : f.gates.find? g with
  | none =>
    by_cases hx : x = g
    · simp [offer, hg, hx]
    · simp [offer, hg, hx]
  | some gate =>
    simp only [offer, hg]
    split <;> simp

@[simp] lemma nextGate_offer (e : Event) : (f.offer g e).nextGate = f.nextGate := by
  simp only [offer]
  split
  · rfl
  · split <;> simp

@[simp] lemma links_offer (e : Event) : (f.offer g e).links = f.links := by
  simp only [offer]
  split
  · rfl
  · split <;> simp

/-- An update changes the gate that it is about. -/
lemma find?_updateGate (change : Gate → Gate) :
    (f.updateGate g change).gates.find? x =
      if x = g then (f.gates.find? g).map change else f.gates.find? x := by
  by_cases hx : x = g
  · simp [updateGate, hx]
  · simp [updateGate, hx]

@[simp] lemma nextGate_updateGate (change : Gate → Gate) :
    (f.updateGate g change).nextGate = f.nextGate := rfl

/-- A change to the registry of a gate changes that gate. -/
lemma find?_changeRegistry (change : Registry ListenerId → Registry ListenerId × Mutation) :
    (f.changeRegistry g change).1.gates.find? x =
      if x = g then
        (f.gates.find? g).map fun gate => { gate with registry := (change gate.registry).1 }
      else f.gates.find? x := by
  cases hg : f.gates.find? g with
  | none =>
    by_cases hx : x = g
    · simp [changeRegistry, hg, hx]
    · simp [changeRegistry, hg, hx]
  | some gate => simp [changeRegistry, hg]

@[simp] lemma nextGate_changeRegistry
    (change : Registry ListenerId → Registry ListenerId × Mutation) :
    (f.changeRegistry g change).1.nextGate = f.nextGate := by
  simp only [changeRegistry]
  split <;> rfl

/-- A dispatcher that lets go of its gate closes and drains it and gives the queue back. -/
lemma find?_endDispatch :
    (f.endDispatch g).gates.find? x =
      if x = g then (f.gates.find? g).map fun gate => gate.close.drain.takeBack
      else f.gates.find? x := by
  cases hg : f.gates.find? g with
  | none =>
    by_cases hx : x = g
    · simp [endDispatch, hg, hx]
    · simp [endDispatch, hg, hx]
  | some gate => simp [endDispatch, hg]

@[simp] lemma nextGate_endDispatch : (f.endDispatch g).nextGate = f.nextGate := by
  simp only [endDispatch]
  split
  · rfl
  · simp

/-- Handing out needs a gate whose dispatcher is at hand, and changes that gate alone. -/
lemma handOut_eq_some {f f' : Fabric} {g : GateId} (h : f.handOut g = some f') :
    ∃ gate gate', f.gates.find? g = some gate ∧ gate.handOut = some gate' ∧
      f' = { f with gates := f.gates.insert g gate' } := by
  simp only [handOut, Option.bind_eq_some_iff, Option.map_eq_some_iff] at h
  obtain ⟨gate, found, gate', out, rfl⟩ := h
  exact ⟨gate, gate', found, out, rfl⟩

/-- Taking an event needs a gate with one, and changes that gate alone. -/
lemma pop_eq_some {f f' : Fabric} {g : GateId} {e : Event} (h : f.pop g = some (e, f')) :
    ∃ gate gate', f.gates.find? g = some gate ∧ gate.pop = some (e, gate') ∧
      f' = { f with gates := f.gates.insert g gate' } := by
  simp only [pop, Option.bind_eq_some_iff, Option.map_eq_some_iff, Prod.mk.injEq] at h
  obtain ⟨gate, found, ⟨e', gate'⟩, taken, rfl, rfl⟩ := h
  exact ⟨gate, gate', found, taken, rfl⟩

end EventGates.Fabric
