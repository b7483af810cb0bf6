import EventGates.Proofs.Dispatch.Interruption
import EventGates.Proofs.Registry.Arrival

/-!
# Registries of gates at work

Workers begin and end deliveries in the registries of their gates, and callbacks and everybody else
change them meanwhile. A registry is in a delivery exactly while a worker of its gate is, so no
delivery begins within another and none is left over where a worker was cancelled or dropped, had a
panic or was followed by another. The main theorem is `run_registers`. What is said about a change
is true of any registry (`add_truthful`, `remove_truthful`).
-/

namespace EventGates

namespace Registry

variable {α : Type} [DecidableEq α]

/-- Registries that changes and deliveries lead to list no listener twice. -/
lemma Reachable.nodup_live {r : Registry α} (reach : r.Reachable) : r.live.Nodup := by
  have follows : ∃ added, r.Follows added := by
    induction reach with
    | new => exact ⟨[], List.nodup_nil, List.Sublist.refl _, fun _ => rfl⟩
    | change c _ ih =>
      obtain ⟨added, follows⟩ := ih
      exact ⟨_, follows.change c⟩
    | beginDelivery _ _ ih =>
      obtain ⟨added, follows⟩ := ih
      exact ⟨added, follows.beginDelivery⟩
    | endDelivery _ _ ih =>
      obtain ⟨added, follows⟩ := ih
      exact ⟨added, follows.endDelivery⟩
  exact follows.choose_spec.nodup

/-! ## What is said about changes -/

omit [DecidableEq α] in
/-- What is said about a change from one registry to another is true: it is staged in a delivery, it
is applied if it changed the live listeners, and otherwise there was nothing to do, for the reason
`idle`. -/
structure Truthful (r r' : Registry α) (idle : Prop) (said : Mutation) : Prop where
  staged : said = .staged ↔ r.delivering = true
  applied : said = .applied ↔ r'.live ≠ r.live
  unchanged : said = .unchanged ↔ r.delivering = false ∧ idle

namespace Truthful

variable {r r' : Registry α} {idle : Prop}

omit [DecidableEq α]

lemma of_staged (delivering : r.delivering = true) (same : r'.live = r.live) :
    r.Truthful r' idle .staged where
  staged := iff_of_true rfl delivering
  applied := iff_of_false nofun (· same)
  unchanged := iff_of_false nofun fun h => Bool.noConfusion (h.1.symm.trans delivering)

lemma of_applied (rest : r.delivering = false) (busy : ¬idle) (changed : r'.live ≠ r.live) :
    r.Truthful r' idle .applied where
  staged := iff_of_false nofun fun h => Bool.noConfusion (rest.symm.trans h)
  applied := iff_of_true rfl changed
  unchanged := iff_of_false nofun (busy ·.2)

lemma of_unchanged (rest : r.delivering = false) (reason : idle) :
    r.Truthful r idle .unchanged where
  staged := iff_of_false nofun fun h => Bool.noConfusion (rest.symm.trans h)
  applied := iff_of_false nofun (· rfl)
  unchanged := iff_of_true rfl ⟨rest, reason⟩

end Truthful

/-- An add has nothing to do where the listener is there. -/
lemma add_truthful (r : Registry α) (x : α) :
    r.Truthful (r.add x).1 (x ∈ r.live) (r.add x).2 := by
  cases delivering : r.delivering with
  | true =>
    rw [add, if_pos delivering]
    exact .of_staged delivering rfl
  | false =>
    rw [add, if_neg (by simp [delivering])]
    by_cases there : x ∈ r.live
    · rw [if_pos there]
      exact .of_unchanged delivering there
    · rw [if_neg there]
      exact .of_applied delivering there (by simp)

/-- A remove has nothing to do where the listener is not there. -/
lemma remove_truthful (r : Registry α) (x : α) :
    r.Truthful (r.remove x).1 (x ∉ r.live) (r.remove x).2 := by
  cases delivering : r.delivering with
  | true =>
    rw [remove, if_pos delivering]
    exact .of_staged delivering rfl
  | false =>
    rw [remove, if_neg (by simp [delivering])]
    by_cases there : x ∈ r.live
    · have shorter : delist r.live x ≠ r.live := by
        intro same
        rw [← same, delist, List.mem_filter] at there
        simp at there
      rw [if_pos there]
      exact .of_applied delivering (not_not.mpr there) shorter
    · rw [if_neg there]
      exact .of_unchanged delivering there

end Registry

/-- What becomes of a gate when its registry is changed is what becomes of the registry. -/
lemma Fabric.changeRegistry_truthful {f : Fabric} {g : GateId} {gate : Gate} {idle : Prop}
    {change : Registry ListenerId → Registry ListenerId × Mutation}
    (there : f.gates.find? g = some gate)
    (truthful : gate.registry.Truthful (change gate.registry).1 idle (change gate.registry).2) :
    ∃ registry, (f.changeRegistry g change).1.gates.find? g = some { gate with registry } ∧
      gate.registry.Truthful registry idle (f.changeRegistry g change).2 := by
  refine ⟨(change gate.registry).1, ?_, ?_⟩
  · rw [find?_changeRegistry, if_pos rfl, there]
    rfl
  · rw [changeRegistry, there]
    exact truthful

namespace Chronicle

variable {κ : Type}

/-- A registry is in a delivery exactly while a worker of its gate delivers an event. -/
lemma run_delivering (ms : List (Move κ)) {g : GateId} {gate : Gate}
    (there : (run ms).system.fabric.gates.find? g = some gate) :
    gate.registry.delivering = true ↔
      ∃ w a, (run ms).system.workers.find? w = some a ∧ a.gate = g ∧
        a.phase.isDelivering = true := by
  obtain ⟨d, shows, _⟩ := (run_sound ms).desk g
  rw [(run_orderly ms shows).delivering gate (shows.gate.symm.trans there), Desk.isDelivering,
    Option.any_eq_true]
  constructor
  · rintro ⟨⟨w, phase⟩, worker, delivering⟩
    obtain ⟨a, found, own, rfl⟩ := (shows.worker w phase).mp worker
    exact ⟨w, a, found, own, delivering⟩
  · rintro ⟨w, a, found, own, delivering⟩
    exact ⟨(w, a.phase), (shows.worker w a.phase).mpr ⟨a, found, own, rfl⟩, delivering⟩

/-- A delivery that begins has the registry of its gate for itself. -/
lemma run_deliver (ms : List (Move κ)) {w : WorkerId} {a : Worker κ} {s : System κ} {gate : Gate}
    (found : (run ms).system.workers.find? w = some a)
    (made : (run ms).system.move (.worker w .deliver) = some s)
    (there : (run ms).system.fabric.gates.find? a.gate = some gate) :
    gate.registry.delivering = false ∧
      s.fabric.gates.find? a.gate =
        some { gate with registry := gate.registry.beginDelivery } := by
  obtain ⟨d, shows, _⟩ := (run_sound ms).desk a.gate
  have worker := (shows.worker w a.phase).mpr ⟨a, found, rfl, rfl⟩
  simp only [System.move, found, Option.bind_some] at made
  obtain ⟨e, holding⟩ : ∃ e, a.phase = .holding e := by
    cases phase : a.phase with
    | holding e => exact ⟨e, rfl⟩
    | delivering d =>
      rw [phase] at made
      obtain ⟨e, _ | k, _ | ⟨x, xs⟩⟩ := d <;> cases made
    | _ =>
      rw [phase] at made
      cases made
  rw [holding] at made worker
  have free : d.isDelivering = false := by
    rw [Desk.isDelivering, worker]
    rfl
  have orderly := run_orderly ms shows
  refine ⟨(orderly.delivering gate (shows.gate.symm.trans there)).trans free, ?_⟩
  simp only [System.moveWorker] at made
  split at made
  · cases made
  · cases made
    simp only [System.beginDelivery, System.onFabric, System.setPhase]
    rw [Fabric.find?_updateGate, if_pos rfl, there]
    rfl

/-- Whatever is done to a gate and by its workers, in any order, its registry lists no listener
twice and has something staged in a delivery only. It is in a delivery exactly while a worker of the
gate delivers an event, and a delivery begins where none is under way. What is said about an add or
a remove, whoever makes it, is true: it is staged in a delivery; it is applied if it changes the live
listeners; and outside a delivery there is nothing to do exactly if the listener is there already,
or is not. -/
theorem run_registers (ms : List (Move κ)) {g : GateId} {gate : Gate}
    (there : (run ms).system.fabric.gates.find? g = some gate) :
    let s := (run ms).system
    let r := gate.registry
    r.live.Nodup ∧
      (r.delivering = false → r.pendingAdds = [] ∧ r.pendingRemoves = []) ∧
      (r.delivering = true ↔
        ∃ w a, s.workers.find? w = some a ∧ a.gate = g ∧ a.phase.isDelivering = true) ∧
      (∀ w a s', s.workers.find? w = some a → a.gate = g →
        s.move (.worker w .deliver) = some s' →
          r.delivering = false ∧
            s'.fabric.gates.find? g = some { gate with registry := r.beginDelivery }) ∧
      ∀ x,
        (∃ registry,
          (s.fabric.addListener g x).1.gates.find? g = some { gate with registry } ∧
            r.Truthful registry (x ∈ r.live) (s.fabric.addListener g x).2) ∧
        ∃ registry,
          (s.fabric.removeListener g x).1.gates.find? g = some { gate with registry } ∧
            r.Truthful registry (x ∉ r.live) (s.fabric.removeListener g x).2 := by
  intro s r
  obtain ⟨d, shows, _⟩ := (run_sound ms).desk g
  have reach : r.Reachable :=
    (run_orderly ms shows).reachable gate (shows.gate.symm.trans there)
  refine ⟨reach.nodup_live, reach.nothing_staged, run_delivering ms there, ?_, fun x => ⟨?_, ?_⟩⟩
  · rintro w a s' found rfl made
    exact run_deliver ms found made there
  · exact Fabric.changeRegistry_truthful there (r.add_truthful x)
  · exact Fabric.changeRegistry_truthful there (r.remove_truthful x)

/-- A first worker has a callback that panics, another is suspended when its token is cancelled, and
meanwhile listener 1 is added again and listener 3 twice. A second worker is dropped within a
callback that removes 2, and a third holds the last event: nothing is staged, each listener is
listed once, and it may begin its delivery. -/
theorem run_registers_restarted :
    let e (n : Nat) : Event := { seq := n, payload := .addItem { sourceItemUid := "lamp" } }
    let first : List (Move Unit) :=
      [.create "desk" 4 none, .gate 0 (.change (.add 1)), .gate 0 (.change (.add 2)),
        .gate 0 .handOut, .gate 0 (.engage 0), .gate 0 (.offer (e 0)), .worker 0 .begin,
        .worker 0 .take, .worker 0 .deliver, .worker 0 (.call ()), .gate 0 (.change (.add 1)),
        .worker 0 (.panicked "boom"), .gate 0 (.change (.add 3)), .gate 0 (.change (.add 3)),
        .worker 0 (.call ()), .cancel 0]
    let others : List (Move Unit) :=
      [.worker 0 .stop, .gate 0 .handOut, .gate 0 (.engage 1), .gate 0 (.offer (e 1)),
        .worker 1 .begin, .worker 1 .take, .worker 1 .deliver, .worker 1 (.call ()),
        .gate 0 (.change (.remove 2)), .worker 1 .abort, .worker 1 .stop, .gate 0 .handOut,
        .gate 0 (.engage 2), .gate 0 (.offer (e 2)), .worker 2 .begin, .worker 2 .take]
    (((run first).system.fabric.gates.find? 0).map (·.registry) =
        some ⟨[1, 2], true, [1, 3, 3], []⟩ ∧
      ((run first).system.fabric.addListener 0 1).2 = .staged) ∧
    ((run (first ++ others)).system.fabric.gates.find? 0).map (·.registry) =
        some ⟨[1, 3], false, [], []⟩ ∧
      ((run (first ++ others)).system.move (.worker 2 .deliver)).isSome = true ∧
      ((run (first ++ others)).system.fabric.addListener 0 3).2 = .unchanged ∧
      ((run (first ++ others)).system.fabric.removeListener 0 3).2 = .applied := by
  intro e first others
  have midway : ((run first).system.fabric.gates.find? 0).map (·.registry) =
      some ⟨[1, 2], true, [1, 3, 3], []⟩ := by decide +kernel
  have last : ((run (first ++ others)).system.fabric.gates.find? 0).map (·.registry) =
      some ⟨[1, 3], false, [], []⟩ := by decide +kernel
  obtain ⟨gate, there, registry⟩ := Option.map_eq_some_iff.mp midway
  obtain ⟨gate', there', registry'⟩ := Option.map_eq_some_iff.mp last
  obtain ⟨-, -, -, -, said⟩ := run_registers first there
  obtain ⟨-, -, -, -, said'⟩ := run_registers (first ++ others) there'
  obtain ⟨_, -, added⟩ := (said 1).1
  obtain ⟨_, -, added'⟩ := (said' 3).1
  refine ⟨⟨midway, ?_⟩, last, by decide +kernel, ?_, by decide +kernel⟩
  · exact added.staged.mpr (by rw [registry])
  · exact added'.unchanged.mpr (by rw [registry']; decide)

end Chronicle

end EventGates
