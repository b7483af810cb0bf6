import EventGates.Proofs.Dispatch.Projection

/-!
# Records about panics

A panic is told of in two places: the gate counts it, and a record about it is published on the bus of
the gate. Every other operation leaves both as they are (`Fabric.Silent`), which is shown operation by
operation. So, given the records that were made about panics in their order, what the counts and the
buses of a fabric tell is known (`Fabric.Told`).
-/

namespace EventGates

/-! ## Operations that do not tell of a panic -/

namespace Gate

@[simp] lemma listenerPanics_push (g : Gate) (e : Event) :
    (g.push e).1.counters.listenerPanics = g.counters.listenerPanics := by
  obtain ⟨_, push⟩ | ⟨_, push⟩ := g.push_cases e
  · rw [push]
  · rw [push]

@[simp] lemma listenerPanics_offer (g : Gate) (e : Event) :
    (g.offer e).1.counters.listenerPanics = g.counters.listenerPanics := by
  obtain ⟨_, offer⟩ | ⟨_, offer⟩ := g.offer_cases e
  · rw [offer, listenerPanics_push]
  · rw [offer]
    rfl

end Gate

namespace Fabric

/-- How many panics a gate counted. -/
def panicsAt (f : Fabric) (g : GateId) : Option Nat :=
  (f.gates.find? g).map (·.counters.listenerPanics)

/-- What the records about panics on a bus say, the earliest first. -/
def panicsOn (f : Fabric) (b : BusId) : Option (List Finding) :=
  (f.buses.find? b).map fun bus =>
    (bus.published.filter (·.kind = .listenerPanicked)).map (·.toFinding)

/-- No panic is counted or reported; a gate may go away. -/
structure Silent (f f' : Fabric) : Prop where
  gates : ∀ g n, f'.panicsAt g = some n → f.panicsAt g = some n
  buses : ∀ b, f'.panicsOn b = f.panicsOn b
  nextBus : f'.nextBus = f.nextBus

namespace Silent

variable {f f' f'' : Fabric}

lemma refl (f : Fabric) : f.Silent f := ⟨fun _ _ => id, fun _ => rfl, rfl⟩

lemma trans (h : f.Silent f') (h' : f'.Silent f'') : f.Silent f'' :=
  ⟨fun g n counted => h.gates g n (h'.gates g n counted),
    fun b => (h'.buses b).trans (h.buses b), h'.nextBus.trans h.nextBus⟩

end Silent

lemma silent_insert {f : Fabric} {g : GateId} {gate gate' : Gate}
    (there : f.gates.find? g = some gate)
    (same : gate'.counters.listenerPanics = gate.counters.listenerPanics) :
    f.Silent { f with gates := f.gates.insert g gate' } := by
  refine ⟨?_, fun _ => rfl, rfl⟩
  intro x n counted
  simp only [panicsAt, Table.find?_insert] at counted ⊢
  split at counted
  · next hx =>
    rw [hx, there, ← counted, Option.map_some, Option.map_some, same]
  · exact counted

lemma silent_updateGate (f : Fabric) (g : GateId) {change : Gate → Gate}
    (same : ∀ gate, (change gate).counters.listenerPanics = gate.counters.listenerPanics) :
    f.Silent (f.updateGate g change) := by
  refine ⟨?_, fun _ => rfl, rfl⟩
  intro x n counted
  simp only [panicsAt, find?_updateGate] at counted ⊢
  split at counted
  · next hx =>
    rw [Option.map_map] at counted
    rw [hx, ← counted]
    exact congrArg (fun view => (f.gates.find? g).map view) (funext fun gate => (same gate).symm)
  · exact counted

/-- A record is put behind the others on its bus, if it is about a panic. -/
lemma panicsOn_publish (f : Fabric) (bus : Option BusId) (finding : Finding) (b : BusId) :
    (f.publish bus finding).panicsOn b =
      (f.panicsOn b).map fun found =>
        found ++ if finding.kind = .listenerPanicked ∧ bus = some b then [finding] else [] := by
  cases bus with
  | none =>
    simp only [reduceCtorEq, and_false, if_false, List.append_nil, Option.map_id_fun']
    rfl
  | some b' =>
    simp only [panicsOn, publish, Table.find?_modify]
    cases hb : f.buses.find? b with
    | none => split <;> rfl
    | some bus =>
      by_cases same : b = b'
      · subst same
        by_cases panicked : finding.kind = .listenerPanicked
        · simp [Bus.publish, Bus.published, panicked]
        · simp [Bus.publish, Bus.published, panicked]
      · simp [same, Ne.symm same]

lemma silent_publish (f : Fabric) (bus : Option BusId) {finding : Finding}
    (other : finding.kind ≠ .listenerPanicked) : f.Silent (f.publish bus finding) := by
  refine ⟨fun _ _ => id, ?_, rfl⟩
  intro b
  rw [panicsOn_publish]
  simp only [other, false_and, if_false, List.append_nil, Option.map_id_fun']
  rfl

lemma silent_diagnose (f : Fabric) (g : GateId) (kind : DiagnosticKind)
    (other : kind ≠ .listenerPanicked) (eventType reason : Option String) :
    f.Silent (f.diagnose g kind eventType reason) := by
  simp only [diagnose]
  split
  · exact .refl f
  · exact f.silent_publish _ other

/-- What an offer made of a gate is put in, and the event that was not accepted is reported. -/
lemma silent_settle {f : Fabric} {g : GateId} {gate gate' : Gate} (e : Event)
    (admission : Admission) (there : f.gates.find? g = some gate)
    (same : gate'.counters.listenerPanics = gate.counters.listenerPanics) :
    f.Silent
      (match admission.kind? with
      | none => { f with gates := f.gates.insert g gate' }
      | some kind =>
        diagnose { f with gates := f.gates.insert g gate' } g kind (some e.typeName) none) := by
  have put := silent_insert there same
  cases admission with
  | accepted => exact put
  | overflow => exact put.trans (silent_diagnose _ g .queueOverflow nofun _ _)
  | idle => exact put.trans (silent_diagnose _ g .gateIdle nofun _ _)

lemma silent_enter (f : Fabric) (g : GateId) (e : Event) : f.Silent (f.enter g e) := by
  cases there : f.gates.find? g with
  | none => simp only [enter, there, Silent.refl]
  | some gate =>
    simp only [enter, there]
    exact silent_settle e _ there (gate.listenerPanics_push e)

lemma silent_offer (f : Fabric) (g : GateId) (e : Event) : f.Silent (f.offer g e) := by
  cases there : f.gates.find? g with
  | none => simp only [offer, there, Silent.refl]
  | some gate =>
    simp only [offer, there]
    exact silent_settle e _ there (gate.listenerPanics_offer e)

lemma silent_changeListeners (f : Fabric) (g : GateId) (c : Registry.Change ListenerId) :
    f.Silent (f.changeListeners g c) := by
  have registry : ∀ change, f.Silent (f.changeRegistry g change).1 := by
    intro change
    cases there : f.gates.find? g with
    | none => simp only [changeRegistry, there, Silent.refl]
    | some gate =>
      simp only [changeRegistry, there]
      exact silent_insert there rfl
  cases c with
  | add x => exact registry _
  | remove x => exact registry _
  | clear => exact f.silent_updateGate g fun _ => rfl

lemma silent_handOut {f f' : Fabric} {g : GateId} (out : f.handOut g = some f') : f.Silent f' := by
  obtain ⟨gate, gate', there, moved, rfl⟩ := handOut_eq_some out
  obtain ⟨_, rfl⟩ := Gate.handOut_eq_some moved
  exact silent_insert there rfl

lemma silent_pop {f f' : Fabric} {g : GateId} {e : Event} (taken : f.pop g = some (e, f')) :
    f.Silent f' := by
  obtain ⟨gate, gate', there, popped, rfl⟩ := pop_eq_some taken
  obtain ⟨_, _, rfl⟩ := Gate.pop_eq_some popped
  exact silent_insert there rfl

lemma silent_endDispatch (f : Fabric) (g : GateId) : f.Silent (f.endDispatch g) := by
  cases there : f.gates.find? g with
  | none => simp only [endDispatch, there, Silent.refl]
  | some gate =>
    simp only [endDispatch, there]
    have put : f.Silent { f with gates := f.gates.insert g gate.close.drain.takeBack } :=
      silent_insert there rfl
    exact put.trans (silent_diagnose _ g .dispatchStopped (by rintro ⟨⟩) _ _)

lemma silent_removeGate (f : Fabric) (g : GateId) : f.Silent (f.removeGate g) := by
  refine ⟨?_, fun _ => rfl, rfl⟩
  intro x n counted
  simp only [panicsAt, removeGate, Table.find?_erase] at counted ⊢
  split at counted
  · cases counted
  · exact counted

end Fabric

namespace System

variable {κ : Type} {s s' : System κ}

lemma silent_moveGate {g : GateId} {m : GateMove} (made : s.moveGate g m = some s') :
    s.fabric.Silent s'.fabric := by
  cases m with
  | offer e => cases made; exact s.fabric.silent_offer g e
  | enter e => cases made; exact s.fabric.silent_enter g e
  | change c => cases made; exact s.fabric.silent_changeListeners g c
  | handOut =>
    simp only [moveGate, Option.map_eq_some_iff] at made
    obtain ⟨f, out, rfl⟩ := made
    exact Fabric.silent_handOut out
  | release =>
    simp only [moveGate] at made
    split at made
    · cases made
      exact s.fabric.silent_endDispatch g
    · cases made
  | engage t =>
    simp only [moveGate] at made
    split at made
    · cases made
      exact .refl _
    · cases made

lemma silent_receive {w : WorkerId} {a : Worker κ} (made : s.receive w a = some s') :
    s.fabric.Silent s'.fabric := by
  simp only [receive, Option.map_eq_some_iff, Prod.exists] at made
  obtain ⟨e, f, taken, rfl⟩ := made
  exact Fabric.silent_pop taken

lemma silent_finish (w : WorkerId) (a : Worker κ) : s.fabric.Silent (s.finish w a).fabric := by
  have left : s.fabric.Silent (s.endDelivery a).fabric := by
    simp only [endDelivery]
    split
    · exact s.fabric.silent_updateGate a.gate fun _ => rfl
    · exact .refl _
  exact left.trans (Fabric.silent_endDispatch _ a.gate)

lemma silent_moveSide (s : System κ) {m : SideMove} (bus : ∀ capacity, m ≠ .addBus capacity)
    (publish : ∀ bus finding, m = .publish bus finding → finding.kind ≠ .listenerPanicked) :
    s.fabric.Silent (s.moveSide m).fabric := by
  have gates : ∀ x, (s.moveSide m).fabric.panicsAt x = s.fabric.panicsAt x := by
    intro x
    rw [Fabric.panicsAt, (s.alike_moveSide m).gates]
    rfl
  have keep : (s.moveSide m).fabric.buses = s.fabric.buses →
      (s.moveSide m).fabric.nextBus = s.fabric.nextBus → s.fabric.Silent (s.moveSide m).fabric := by
    intro buses nextBus
    refine ⟨fun g n counted => (gates g).symm.trans counted, ?_, nextBus⟩
    intro b
    simp only [Fabric.panicsOn, buses]
  cases m with
  | addBus capacity => exact absurd rfl (bus capacity)
  | publish b finding => exact s.fabric.silent_publish b (publish b finding rfl)
  | link a b =>
    cases made : s.fabric.link a b with
    | error _ => exact keep (by simp [moveSide, onFabric, made]) (by simp [moveSide, onFabric, made])
    | ok result =>
      obtain ⟨f, linked⟩ := result
      obtain ⟨links, rfl⟩ := Fabric.link_eq_ok made
      exact keep (by simp [moveSide, onFabric, made]) (by simp [moveSide, onFabric, made])
  | unlink a b =>
    apply keep
    · simp only [moveSide, onFabric, Fabric.unlink]
      split <;> rfl
    · simp only [moveSide, onFabric, Fabric.unlink]
      split <;> rfl
  | register t path h =>
    apply keep
    · simp only [moveSide, register]
      cases (s.endpoints t).register path h <;> rfl
    · simp only [moveSide, register]
      cases (s.endpoints t).register path h <;> rfl
  | _ => exact keep rfl rfl

/-- A worker tells of a panic only if a callback panicked. -/
lemma silent_moveWorker {w : WorkerId} {a : Worker κ} {phase : Phase κ} {m : WorkerMove κ}
    (other : ∀ message, m ≠ .panicked message) (made : s.moveWorker w a phase m = some s') :
    s.fabric.Silent s'.fabric := by
  simp only [moveWorker] at made
  split at made
  case h_1 =>
    split at made
    · cases made
    · cases made
      exact s.fabric.silent_diagnose a.gate .dispatchStarted (by rintro ⟨⟩) none none
  case h_2 | h_4 =>
    split at made
    · cases made
    · exact silent_receive made
  case h_3 =>
    split at made
    · cases made
    · cases made
      exact .refl _
  case h_5 =>
    split at made
    · cases made
    · cases made
      exact s.fabric.silent_updateGate a.gate fun _ => rfl
  case h_9 message => exact absurd rfl (other message)
  case h_10 =>
    cases made
    exact s.fabric.silent_updateGate a.gate fun _ => rfl
  case h_11 =>
    split at made
    · cases made
      exact silent_finish w a
    · cases made
  case h_13 => cases made
  all_goals
    cases made
    exact .refl _

end System

/-! ## Records about panics -/

/-- A record about a panic, as it is made. -/
structure Outcry where
  /-- The gate whose callback panicked, and how many callbacks the gate had made before. A record
  that is published from elsewhere is about no callback. -/
  source : Option (GateId × Nat)
  /-- The bus that it is published on. -/
  bus : Option BusId
  finding : Finding

namespace Outcry

/-- The record about a callback of a gate that panics. -/
def about (f : Fabric) (g : GateId) (gate : Gate) (call : Nat) (e : Event) (message : String) :
    Outcry where
  source := some (g, call)
  bus := gate.bus.filter f.buses.contains
  finding :=
    { kind := .listenerPanicked, gate := some gate.name, eventType := some e.typeName
      reason := some message }

/-- The record that is published from elsewhere. -/
def elsewhere (f : Fabric) (bus : Option BusId) (finding : Finding) : Outcry where
  source := none
  bus := bus.filter f.buses.contains
  finding := finding

/-- The callback of a gate that the record is about. -/
def callOf (o : Outcry) (g : GateId) : Option Nat :=
  o.source.bind fun (x, call) => if x = g then some call else none

/-- The callbacks of a gate that panicked. -/
def callsOf (os : List Outcry) (g : GateId) : List Nat := os.filterMap (·.callOf g)

/-- What the records on a bus say. -/
def findingsOn (os : List Outcry) (b : BusId) : List Finding :=
  (os.filter (·.bus = some b)).map (·.finding)

lemma callsOf_append (os os' : List Outcry) (g : GateId) :
    callsOf (os ++ os') g = callsOf os g ++ callsOf os' g := List.filterMap_append

lemma findingsOn_append (os os' : List Outcry) (b : BusId) :
    findingsOn (os ++ os') b = findingsOn os b ++ findingsOn os' b := by
  simp only [findingsOn, List.filter_append, List.map_append]

lemma callsOf_about (f : Fabric) (g x : GateId) (gate : Gate) (call : Nat) (e : Event)
    (message : String) :
    callsOf [about f g gate call e message] x = if g = x then [call] else [] := by
  simp only [callsOf, callOf, about, List.filterMap_cons, List.filterMap_nil, Option.bind_some]
  split <;> simp_all

lemma callsOf_elsewhere (f : Fabric) (bus : Option BusId) (finding : Finding) (x : GateId) :
    callsOf [elsewhere f bus finding] x = [] := rfl

end Outcry

/-- The counts and buses of a fabric tell of these panics. -/
structure Fabric.Told (f : Fabric) (os : List Outcry) : Prop where
  gates : ∀ g n, f.panicsAt g = some n → n = (Outcry.callsOf os g).length
  buses : ∀ b, (f.panicsOn b).getD [] = Outcry.findingsOn os b
  newBus : ∀ b, f.nextBus ≤ b → f.panicsOn b = none

namespace Fabric.Told

variable {f f' : Fabric} {os : List Outcry}

lemma silent (h : f.Told os) (silent : f.Silent f') : f'.Told os := by
  refine ⟨?_, ?_, ?_⟩
  · intro g n counted
    exact h.gates g n (silent.gates g n counted)
  · intro b
    rw [silent.buses]
    exact h.buses b
  · intro b new
    rw [silent.buses]
    exact h.newBus b (silent.nextBus ▸ new)

lemma addBus (h : f.Told os) (capacity : Nat) : (f.addBus capacity).1.Told os := by
  have found : ∀ b, (f.addBus capacity).1.panicsOn b =
      if b = f.nextBus then some [] else f.panicsOn b := by
    intro b
    simp only [panicsOn, Fabric.addBus, Table.find?_insert]
    split <;> rfl
  refine ⟨h.gates, ?_, ?_⟩
  · intro b
    rw [found, ← h.buses]
    split
    · next new =>
      rw [h.newBus b (Nat.le_of_eq new.symm)]
      rfl
    · rfl
  · intro b new
    rw [found, if_neg (Nat.ne_of_gt new)]
    exact h.newBus b (Nat.le_of_succ_le new)

lemma addGate (h : f.Told os) (new : Outcry.callsOf os f.nextGate = []) (name : String)
    (capacity : Nat) (bus : Option BusId) : (f.addGate { name, capacity, bus }).1.Told os := by
  refine ⟨?_, h.buses, h.newBus⟩
  intro g n counted
  simp only [panicsAt, Fabric.addGate, Table.find?_insert] at counted
  split at counted
  · next hg =>
    cases counted
    rw [hg, new]
    rfl
  · exact h.gates g n counted

/-- A record about a panic is published. -/
lemma publish (h : f.Told os) {bus : Option BusId} {o : Outcry}
    (on : o.bus = bus.filter f.buses.contains) (panicked : o.finding.kind = .listenerPanicked)
    (gates : ∀ g n, f'.panicsAt g = some n → n = (Outcry.callsOf (os ++ [o]) g).length)
    (buses : f'.buses = (f.publish bus o.finding).buses) (nextBus : f'.nextBus = f.nextBus) :
    f'.Told (os ++ [o]) := by
  have found : ∀ b, f'.panicsOn b = (f.panicsOn b).map fun found =>
      found ++ if bus = some b then [o.finding] else [] := by
    intro b
    have same : f'.panicsOn b = (f.publish bus o.finding).panicsOn b := by
      simp only [panicsOn, buses]
    simp only [same, panicsOn_publish, panicked, true_and]
  refine ⟨gates, ?_, ?_⟩
  · intro b
    rw [found, Outcry.findingsOn_append, ← h.buses]
    have heard : o.bus = some b ↔ bus = some b ∧ (f.panicsOn b).isSome = true := by
      rw [on, Option.filter_eq_some_iff]
      simp only [panicsOn, Table.contains, Option.isSome_map]
    cases there : f.panicsOn b with
    | none =>
      have unheard : o.bus ≠ some b := by simp [heard, there]
      simp [Outcry.findingsOn, unheard]
    | some fs =>
      rw [there] at heard
      by_cases here : bus = some b
      · simp [Outcry.findingsOn, heard.mpr ⟨here, rfl⟩, here]
      · simp [Outcry.findingsOn, mt (fun on => (heard.mp on).1) here, here]
  · intro b new
    rw [found, h.newBus b (nextBus ▸ new)]
    rfl

/-- A callback panics. -/
lemma panicked (h : f.Told os) {g : GateId} {gate : Gate} (there : f.gates.find? g = some gate)
    (call : Nat) (e : Event) (message : String) :
    ((f.updateGate g Gate.countPanic).diagnose g .listenerPanicked (some e.typeName)
      (some message)).Told (os ++ [.about f g gate call e message]) := by
  have counted : (f.updateGate g Gate.countPanic).gates.find? g = some gate.countPanic := by
    rw [find?_updateGate, if_pos rfl, there]
    rfl
  simp only [diagnose, counted]
  refine h.publish rfl rfl ?_ rfl rfl
  intro x n now
  simp only [panicsAt, gates_publish, find?_updateGate, there] at now
  rw [Outcry.callsOf_append, Outcry.callsOf_about, List.length_append]
  split at now
  · next hx =>
    have before := h.gates g _ (congrArg _ there)
    cases now
    rw [hx, if_pos rfl, ← before]
    rfl
  · next hx =>
    rw [if_neg (Ne.symm hx)]
    exact h.gates x n now

end Fabric.Told

end EventGates
