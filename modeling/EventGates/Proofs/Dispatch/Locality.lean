import EventGates.Proofs.Dispatch.Courses
import EventGates.Proofs.Dispatch.Growth
import EventGates.Proofs.Dispatch.Station

/-!
# Moves at a station

The station of a gate goes from input to input as the system goes from move to move: a move that has
nothing to do with the gate leaves its station as it is (`station_elsewhere`), and any other does there
what `Station.step` makes of it (`station_here`). So the station of a gate after a run, and the callbacks
meanwhile, are those that its inputs lead to (`station_runFrom`).
-/

namespace EventGates

/-! ## Stations of systems -/

namespace System

variable {κ : Type} {s : System κ} {g : GateId} {w : WorkerId} {a : Worker κ}

lemma server_eq_some (h : s.server g = some a) :
    (∃ w, s.workers.find? w = some a) ∧ a.gate = g := by
  obtain ⟨w, _, found⟩ := List.exists_of_findSome?_eq_some h
  simp only [Option.filter_eq_some_iff, decide_eq_true_eq] at found
  exact ⟨⟨w, found.1⟩, found.2⟩

lemma server_eq_none (h : s.server g = none) (found : s.workers.find? w = some a) :
    a.gate ≠ g := by
  have none := List.findSome?_eq_none_iff.mp h w (Table.mem_keys_of_find? found)
  intro own
  simp [found, own] at none

lemma isServed_eq (s : System κ) (g : GateId) : s.isServed g = (s.server g).isSome := by
  rw [isServed, server, List.isSome_findSome?]
  congr 1
  funext w
  rw [Option.isSome_filter]

/-- Who may drop a dispatcher or put it to work is to be seen at the station. -/
lemma isHeld_eq (s : System κ) (g : GateId) :
    s.isHeld g = (s.station g).isHeld := by
  simp only [isHeld, Station.isHeld, isServed_eq, station, Option.isNone_map, Option.not_isSome]

lemma station_onFabric (s : System κ) (change : Fabric → Fabric) (g : GateId) :
    (s.onFabric change).station g =
      { s.station g with gate := (change s.fabric).gates.find? g } := rfl

/-- A worker may stop where its gate sees that it may. -/
lemma mayStop_shift (s : System κ) (a : Worker κ) : (s.shift a).mayStop = s.mayStop a := rfl

lemma shift_congr {s' : System κ} (cancelled : s'.cancelled = s.cancelled) : s'.shift = s.shift := by
  funext a
  simp only [shift, isCancelled, cancelled]

lemma shift_cancel (s : System κ) (t : TokenId) (a : Worker κ) :
    (s.cancel t).shift a =
      if a.token = t then { s.shift a with cancelled := true } else s.shift a := by
  simp only [shift, isCancelled, cancel, List.contains_cons]
  split
  · next same => simp only [same, beq_self_eq_true, Bool.true_or]
  · next other => simp only [beq_eq_false_iff_ne.mpr other, Bool.false_or]

/-! ## Inputs -/

/-- A move that is an input at a gate is about the gate or its worker. -/
lemma input?_eq_some {m : Move κ} {i : Input κ} (h : s.input? g m = some i) :
    m = .remove g ∧ i = .remove ∨
      (∃ n, m = .gate g n ∧ i = s.gateInput n) ∨
      (∃ w a n, m = .worker w n ∧ i = .work n ∧ s.workers.find? w = some a ∧ a.gate = g) ∨
      ∃ a, m = .cancel a.token ∧ i = .cancel ∧ s.server g = some a := by
  cases m with
  | create name capacity bus => cases h
  | side m => cases h
  | remove x =>
    simp only [input?, Option.ite_none_right_eq_some, Option.some.injEq] at h
    obtain ⟨rfl, rfl⟩ := h
    exact .inl ⟨rfl, rfl⟩
  | gate x n =>
    simp only [input?, Option.ite_none_right_eq_some, Option.some.injEq] at h
    obtain ⟨rfl, rfl⟩ := h
    exact .inr (.inl ⟨n, rfl, rfl⟩)
  | worker w n =>
    simp only [input?, Option.ite_none_right_eq_some, Option.some.injEq, Option.any_eq_true,
      decide_eq_true_eq] at h
    obtain ⟨⟨a, found, own⟩, rfl⟩ := h
    exact .inr (.inr (.inl ⟨w, a, n, rfl, rfl, found, own⟩))
  | cancel t =>
    simp only [input?, Option.ite_none_right_eq_some, Option.some.injEq, Option.any_eq_true,
      decide_eq_true_eq] at h
    obtain ⟨⟨a, served, rfl⟩, rfl⟩ := h
    exact .inr (.inr (.inr ⟨a, rfl, rfl, served⟩))

lemma ne_of_gate {x : GateId} {m : GateMove} (apart : s.input? g (.gate x m) = none) : g ≠ x := by
  rintro rfl
  simp [input?] at apart

lemma ne_of_worker {m : WorkerMove κ} (apart : s.input? g (.worker w m) = none)
    (found : s.workers.find? w = some a) : g ≠ a.gate := by
  rintro rfl
  simp [input?, found] at apart

/-! ## What workers do -/

/-- What a worker does and what its gate sees of it. -/
def Does (s : System κ) (w : WorkerId) (a : Worker κ) (s' : System κ)
    (r : Gate × Option (Shift κ)) : Prop :=
  ∃ after, WorkerTurns s s' a.gate r.1 w after ∧ r.2 = after.map s.shift ∧
    s'.cancelled = s.cancelled

/-- Two outcomes that are refused alike. -/
lemma rel_ite {α β : Type} {R : α → β → Prop} {x : Option α} {y : Option β} (p : Prop) [Decidable p]
    (h : Option.Rel R x y) : Option.Rel R (if p then none else x) (if p then none else y) := by
  split
  · exact .none
  · exact h

lemma refused_of_rel {α β : Type} {R : α → β → Prop} {y : Option β}
    (h : Option.Rel R none y) : y = none := by
  cases h with
  | none => rfl

lemma does_of_rel {α β : Type} {R : α → β → Prop} {x : α} {y : Option β}
    (h : Option.Rel R (some x) y) : ∃ r, y = some r ∧ R x r := by
  cases h with
  | some related => exact ⟨_, rfl, related⟩

variable {gate : Gate}

/-- A worker takes what its gate has for it. -/
lemma receive_take (found : s.workers.find? w = some a)
    (there : s.fabric.gates.find? a.gate = some gate) :
    Option.Rel (s.Does w a) (s.receive w a) ((s.shift a).take gate) := by
  simp only [receive, Fabric.pop, there, Option.bind_some, Shift.take, Option.map_map]
  cases gate.pop with
  | none => exact .none
  | some taken =>
    have turns := turns_setPhase (f := { s.fabric with gates := s.fabric.gates.insert a.gate taken.2 })
      found (fun x => Table.find?_insert ..) rfl (.holding taken.1)
    exact .some ⟨_, turns, rfl, rfl⟩

/-- There is something to take where the queue of the gate is not empty. -/
lemma isSome_receive (w : WorkerId) (there : s.fabric.gates.find? a.gate = some gate) :
    (s.receive w a).isSome = gate.pop.isSome := by
  simp only [receive, Fabric.pop, there, Option.bind_some, Option.isSome_map]

/-- What a worker can do, and what comes of it, is to be seen at its gate. -/
lemma moveWorker_work (found : s.workers.find? w = some a)
    (there : s.fabric.gates.find? a.gate = some gate) (m : WorkerMove κ) :
    Option.Rel (s.Does w a) (s.moveWorker w a a.phase m) ((s.shift a).work gate a.phase m) := by
  have update := find?_updateGate_of_some there
  have next : ∀ phase, s.Does w a (s.setPhase w phase) (gate, (s.shift a).goTo phase) :=
    fun phase => ⟨_, turns_phase found there phase, rfl, rfl⟩
  have abort : s.Does w a (s.abort w) (gate, some { s.shift a with aborted := true }) :=
    ⟨_, turns_abort found there, rfl, rfl⟩
  have stop : Option.Rel (s.Does w a) (if s.mayStop a then some (s.finish w a) else none)
      (if (s.shift a).mayStop then some ((a.phase.leave gate).close.drain.takeBack, none)
        else none) := by
    rw [mayStop_shift]
    split
    · refine .some ⟨none, turns_finish w there, rfl, ?_⟩
      show (s.endDelivery a).cancelled = s.cancelled
      simp only [endDelivery]
      split <;> rfl
    · exact .none
  cases phase : a.phase with
  | unstarted =>
    rw [phase] at stop
    cases m with
    | begin =>
      refine rel_ite _ (.some ⟨_, turns_setPhase found ?_ (Fabric.nextGate_diagnose ..) _, rfl, rfl⟩)
      rw [Fabric.gates_diagnose]
      exact find?_self there
    | stop => exact stop
    | abort => exact .some abort
    | _ => exact .none
  | ready =>
    rw [phase] at stop
    cases m with
    | take => exact rel_ite _ (receive_take found there)
    | rest =>
      simp only [moveWorker, isSome_receive w there]
      exact rel_ite _ (.some (next .idle))
    | stop => exact stop
    | abort => exact .some abort
    | _ => exact .none
  | idle =>
    rw [phase] at stop
    cases m with
    | take => exact rel_ite _ (receive_take found there)
    | stop => exact stop
    | abort => exact .some abort
    | _ => exact .none
  | holding e =>
    rw [phase] at stop
    cases m with
    | deliver =>
      have live : s.listeners a.gate = gate.registry.live := by simp only [listeners, there]
      simp only [moveWorker, beginDelivery, live]
      exact rel_ite _ (.some ⟨_, turns_setPhase found (update _) rfl _, rfl, rfl⟩)
    | stop => exact stop
    | abort => exact .some abort
    | _ => exact .none
  | delivering d =>
    rw [phase] at stop
    obtain ⟨e, callback, xs⟩ := d
    cases callback with
    | some k =>
      cases m with
      | proceed k' => exact .some (next _)
      | returned => exact .some (next _)
      | panicked message =>
        refine .some ⟨_, turns_setPhase found ?_ ?_ _, rfl, rfl⟩
        · rw [Fabric.gates_diagnose]
          exact update _
        · rw [Fabric.nextGate_diagnose]
          rfl
      | stop => exact stop
      | abort => exact .some abort
      | _ => exact .none
    | none =>
      cases xs with
      | nil =>
        cases m with
        | complete => exact .some ⟨_, turns_setPhase found (update _) rfl _, rfl, rfl⟩
        | stop => exact stop
        | abort => exact .some abort
        | _ => exact .none
      | cons x xs =>
        cases m with
        | call k => exact .some (next _)
        | stop => exact stop
        | abort => exact .some abort
        | _ => exact .none

end System

/-! ## Moves at a station -/

namespace Chronicle

variable {κ : Type} {c c' : Chronicle κ} {g : GateId}

/-- A change to a gate is a step of its station if it is one where the gate is there. -/
lemma station_change {f : Fabric → Fabric} {i : Input κ} (change : Gate → Gate)
    (gates : (f c.system.fabric).gates.find? g = (c.system.fabric.gates.find? g).map change)
    (step : ∀ gate worker, Station.step ⟨some gate, worker⟩ i = ⟨some (change gate), worker⟩) :
    (c.system.onFabric f).station g = (c.system.station g).step i := by
  rw [System.station_onFabric, gates]
  simp only [System.station]
  cases c.system.fabric.gates.find? g with
  | none => rfl
  | some gate => exact (step gate _).symm

lemma station_handOut (c : Chronicle κ) (g : GateId) :
    (c.next (.gate g .handOut)).system.station g = (c.system.station g).step .handOut := by
  cases handed : c.system.fabric.handOut g with
  | none =>
    have refused : c.system.move (.gate g .handOut) = none := by
      simp only [System.move, System.moveGate, handed, Option.map_none]
    rw [next_of_refused refused]
    cases there : c.system.fabric.gates.find? g with
    | none =>
      simp only [System.station, there]
      rfl
    | some gate =>
      simp only [Fabric.handOut, there, Option.bind_some, Option.map_eq_none_iff] at handed
      simp only [System.station, there, Station.step, handed, Option.getD_none]
  | some f =>
    have made : c.system.move (.gate g .handOut) = some { c.system with fabric := f } := by
      simp only [System.move, System.moveGate, handed, Option.map_some]
    obtain ⟨gate, gate', there, out, rfl⟩ := Fabric.handOut_eq_some handed
    have inserted : (c.system.fabric.gates.insert g gate').find? g = some gate' :=
      (Table.find?_insert ..).trans (if_pos rfl)
    rw [next_of_made made]
    refine (congrArg (Station.mk · _) inserted).trans ?_
    simp only [System.station, there, Station.step, out, Option.getD_some]
    rfl

lemma station_release (c : Chronicle κ) (g : GateId) :
    (c.next (.gate g .release)).system.station g = (c.system.station g).step .release := by
  cases held : c.system.isHeld g with
  | false =>
    have refused : c.system.move (.gate g .release) = none := by
      simp only [System.move, System.moveGate, held, Bool.false_eq_true, if_false]
    rw [System.isHeld_eq] at held
    rw [next_of_refused refused]
    exact (Station.step_of_not_isHeld held false).1.symm
  | true =>
    have made : c.system.move (.gate g .release) =
        some (c.system.onFabric (·.endDispatch g)) := by
      simp only [System.move, System.moveGate, held, if_true]
    rw [System.isHeld_eq] at held
    obtain ⟨gate, st, out⟩ := Station.eq_of_isHeld held
    have there : c.system.fabric.gates.find? g = some gate := congrArg Station.gate st
    have ended := (c.system.fabric.find?_endDispatch g g).trans (if_pos rfl)
    rw [next_of_made made, System.station_onFabric, ended, there, st]
    exact (if_pos out).symm

/-- A gate goes away, or stays because its dispatcher is out. -/
lemma station_remove (c : Chronicle κ) (g : GateId) :
    (c.next (.remove g)).system.station g = (c.system.station g).step .remove := by
  have erased : (c.system.fabric.gates.erase g).find? g = none :=
    (Table.find?_erase ..).trans (if_pos rfl)
  cases there : c.system.fabric.gates.find? g with
  | none =>
    have made : c.system.move (.remove g) = some (c.system.onFabric (·.removeGate g)) := by
      simp only [System.move, there, Option.any_none, Bool.false_eq_true, if_false]
    rw [next_of_made made]
    refine (congrArg (Station.mk · _) erased).trans ?_
    simp only [System.station, there]
    rfl
  | some gate =>
    have step : (c.system.station g).step .remove =
        if gate.handedOut then c.system.station g
        else ⟨none, (c.system.station g).worker⟩ := by
      simp only [System.station, there]
      rfl
    rw [step]
    cases out : gate.handedOut with
    | true =>
      have refused : c.system.move (.remove g) = none := by
        simp only [System.move, there, Option.any_some, out, if_true]
      rw [next_of_refused refused]
      rfl
    | false =>
      have made : c.system.move (.remove g) = some (c.system.onFabric (·.removeGate g)) := by
        simp only [System.move, there, Option.any_some, out, Bool.false_eq_true, if_false]
      rw [next_of_made made]
      exact congrArg (Station.mk · _) erased

namespace Sound

/-- A gate has one worker. -/
lemma worker_unique (h : Sound c) {v w : WorkerId} {a b : Worker κ}
    (found : c.system.workers.find? w = some a) (found' : c.system.workers.find? v = some b)
    (same : b.gate = a.gate) : v = w := by
  obtain ⟨d, shows, _⟩ := h.desk a.gate
  have here := (shows.worker w a.phase).mpr ⟨a, found, rfl, rfl⟩
  have here' := (shows.worker v b.phase).mpr ⟨b, found', same, rfl⟩
  exact (Prod.mk.inj (Option.some.inj (here'.symm.trans here))).1

/-- Nobody else serves the gate of a worker. -/
lemma server_eq (h : Sound c) {w : WorkerId} {a : Worker κ}
    (found : c.system.workers.find? w = some a) (own : a.gate = g) :
    c.system.server g = some a := by
  cases served : c.system.server g with
  | none => exact absurd own (System.server_eq_none served found)
  | some b =>
    obtain ⟨⟨v, found'⟩, own'⟩ := System.server_eq_some served
    cases h.worker_unique found found' (own'.trans own.symm)
    exact found'.symm.trans found

/-- A gate that is served is there, and its dispatcher is out. -/
lemma there_of_server (h : Sound c) {a : Worker κ} (served : c.system.server g = some a) :
    ∃ gate, c.system.fabric.gates.find? g = some gate ∧ gate.handedOut = true := by
  obtain ⟨⟨w, found⟩, own⟩ := System.server_eq_some served
  obtain ⟨d, shows, has⟩ := h.desk g
  have here := (shows.worker w a.phase).mpr ⟨a, found, own, rfl⟩
  obtain ⟨gate, there, out⟩ := has (by rw [here]; rfl)
  exact ⟨gate, shows.gate.trans there, out⟩

/-- A gate that nobody serves has no worker at its desk. -/
lemma worker_of_server (h : Sound c) {d : Desk κ} (shows : c.Shows g d)
    (free : c.system.server g = none) : d.worker = none := by
  cases worker : d.worker with
  | none => rfl
  | some entry =>
    obtain ⟨a, found, own, _⟩ := (shows.worker entry.1 entry.2).mp worker
    rw [h.server_eq found own] at free
    cases free

/-- A station stays as it is if its gate and the workers of its gate do. -/
lemma station_congr (h' : Sound c')
    (gates : c'.system.fabric.gates.find? g = c.system.fabric.gates.find? g)
    (workers : ∀ w a, a.gate = g →
      (c'.system.workers.find? w = some a ↔ c.system.workers.find? w = some a))
    (cancelled : c'.system.cancelled = c.system.cancelled) :
    c'.system.station g = c.system.station g := by
  have server : c'.system.server g = c.system.server g := by
    cases served : c.system.server g with
    | none =>
      cases served' : c'.system.server g with
      | none => rfl
      | some a =>
        obtain ⟨⟨w, found⟩, own⟩ := System.server_eq_some served'
        exact absurd own (System.server_eq_none served ((workers w a own).mp found))
    | some a =>
      obtain ⟨⟨w, found⟩, own⟩ := System.server_eq_some served
      exact h'.server_eq ((workers w a own).mpr found) own
  simp only [System.station, gates, server, System.shift_congr cancelled]

/-- The station of the gate of a worker. -/
lemma station_of_found (h : Sound c) {w : WorkerId} {a : Worker κ}
    (found : c.system.workers.find? w = some a) :
    ∃ gate, c.system.fabric.gates.find? a.gate = some gate ∧
      c.system.station a.gate = ⟨some gate, some (c.system.shift a)⟩ := by
  have server := h.server_eq found rfl
  obtain ⟨gate, there, _⟩ := h.there_of_server server
  refine ⟨gate, there, ?_⟩
  simp only [System.station, there, server, Option.map_some]

/-- A dispatcher of another gate is put to work. -/
lemma station_addWorker (h : Sound c) (h' : Sound c') {x : GateId} {t : TokenId} (ne : g ≠ x)
    (made : c'.system = (c.system.addWorker x t).1) :
    c'.system.station g = c.system.station g := by
  refine h'.station_congr (by rw [made]; rfl) ?_ (by rw [made]; rfl)
  intro w a own
  rw [made]
  show (c.system.workers.insert _ _).find? w = some a ↔ _
  rw [Table.find?_insert]
  split
  · next same =>
    -- the new worker is of another gate, and its number is new
    subst same
    rw [h.newWorker _ (Nat.le_refl _)]
    refine iff_of_false ?_ ?_
    · rintro ⟨⟩
      exact ne own.symm
    · rintro ⟨⟩
  · rfl

/-- A worker of another gate does something. -/
lemma station_turns (h' : Sound c') {w : WorkerId} {a : Worker κ} {gate' : Gate}
    {after : Option (Worker κ)} (found : c.system.workers.find? w = some a) (ne : g ≠ a.gate)
    (turns : c.system.WorkerTurns c'.system a.gate gate' w after)
    (cancelled : c'.system.cancelled = c.system.cancelled) :
    c'.system.station g = c.system.station g := by
  refine h'.station_congr ((turns.gates g).trans (if_neg ne)) ?_ cancelled
  intro v b own
  rw [turns.workers]
  split
  · next same =>
    -- the worker is of another gate, before and after
    subst same
    refine iff_of_false ?_ ?_
    · intro later
      exact ne (own.symm.trans (turns.own b later))
    · intro found'
      cases found.symm.trans found'
      exact ne own.symm
  · rfl

/-- Nobody serves a gate that is still to be made. -/
lemma server_new (h : Sound c) : c.system.server c.system.fabric.nextGate = none := by
  cases served : c.system.server c.system.fabric.nextGate with
  | none => rfl
  | some a =>
    obtain ⟨gate, there, _⟩ := h.there_of_server served
    rw [h.newGate _ (Nat.le_refl _)] at there
    cases there

/-- A gate that is made is blank, and nobody serves it. -/
lemma station_create (h : Sound c) (name : String) (capacity : Nat) (bus : Option BusId) :
    (c.next (.create name capacity bus)).system.station c.system.fabric.nextGate =
      ⟨some { name, capacity, bus }, none⟩ := by
  refine (congrArg (Station.mk _) (congrArg (Option.map _) h.server_new)).trans ?_
  exact congrArg (Station.mk · none) ((Table.find?_insert ..).trans (if_pos rfl))

/-- What happens elsewhere leaves a station as it is. -/
lemma station_elsewhere (h : Sound c) (old : g < c.system.fabric.nextGate) {m : Move κ}
    (apart : c.system.input? g m = none) :
    (c.next m).system.station g = c.system.station g := by
  have sound := (h.passes_next m).sound
  have stay : ∀ {change : Fabric → Fabric},
      (change c.system.fabric).gates.find? g = c.system.fabric.gates.find? g →
      (c.system.onFabric change).station g = c.system.station g := by
    intro change same
    rw [System.station_onFabric, same]
    rfl
  cases made : c.system.move m with
  | none => rw [next_of_refused made]
  | some s =>
    rw [next_of_made made] at sound ⊢
    cases m with
    | create name capacity bus =>
      cases made
      apply stay
      simp [Fabric.addGate, Nat.ne_of_lt old]
    | remove x =>
      simp only [System.move] at made
      split at made
      · cases made
      · cases made
        apply stay
        have ne : g ≠ x := by
          rintro rfl
          simp [System.input?] at apart
        simp [Fabric.removeGate, ne]
    | gate x m =>
      have ne := System.ne_of_gate apart
      obtain ⟨f, rfl, _, same⟩ | ⟨t, _, _, rfl⟩ := System.moveGate_cases made
      · exact congrArg (Station.mk · _) (same g ne)
      · exact h.station_addWorker sound ne rfl
    | worker w m =>
      simp only [System.move, Option.bind_eq_some_iff] at made
      obtain ⟨a, found, made⟩ := made
      obtain ⟨gate, there, _⟩ := h.station_of_found found
      have does := System.moveWorker_work found there m
      rw [made] at does
      obtain ⟨r, -, after, turns, -, cancelled⟩ := System.does_of_rel does
      exact sound.station_turns found (System.ne_of_worker apart found) turns cancelled
    | cancel t =>
      cases made
      have other : (c.system.server g).map (c.system.cancel t).shift =
          (c.system.server g).map c.system.shift := by
        cases served : c.system.server g with
        | none => rfl
        | some a =>
          have ne : a.token ≠ t := by
            intro same
            simp [System.input?, served, same] at apart
          simp only [Option.map_some, System.shift_cancel, if_neg ne]
      exact congrArg (Station.mk _) other
    | side m =>
      cases made
      have alike := c.system.alike_moveSide m
      refine sound.station_congr (alike.gates g) ?_ (System.cancelled_moveSide _ m)
      intro w a _
      show (c.system.moveSide m).workers.find? w = some a ↔ _
      rw [alike.workers]

lemma station_engage (h : Sound c) (g : GateId) (t : TokenId) :
    (c.next (.gate g (.engage t))).system.station g =
      (c.system.station g).step (.engage (c.system.isCancelled t)) := by
  cases held : c.system.isHeld g with
  | false =>
    have refused : c.system.move (.gate g (.engage t)) = none := by
      simp only [System.move, System.moveGate, held, Bool.false_eq_true, if_false]
    rw [System.isHeld_eq] at held
    rw [next_of_refused refused]
    exact (Station.step_of_not_isHeld held _).2.symm
  | true =>
    have made : c.system.move (.gate g (.engage t)) = some (c.system.addWorker g t).1 := by
      simp only [System.move, System.moveGate, held, if_true]
    rw [System.isHeld_eq] at held
    obtain ⟨gate, st, out⟩ := Station.eq_of_isHeld held
    have there : c.system.fabric.gates.find? g = some gate := congrArg Station.gate st
    have sound := (h.passes_next (.gate g (.engage t))).sound
    rw [next_of_made made] at sound ⊢
    have server : (c.system.addWorker g t).1.server g = some { gate := g, token := t } :=
      sound.server_eq ((Table.find?_insert ..).trans (if_pos rfl)) rfl
    rw [st]
    refine Eq.trans ?_ (if_pos out).symm
    show Station.mk (c.system.fabric.gates.find? g) _ = _
    rw [there, server]
    rfl

/-- What is done to a gate is a step of its station. -/
lemma station_gate (h : Sound c) (g : GateId) (m : GateMove) :
    (c.next (.gate g m)).system.station g =
      (c.system.station g).step (c.system.gateInput m) := by
  cases m with
  | offer e =>
    exact station_change _ ((Fabric.find?_offer ..).trans (if_pos rfl)) fun _ _ => rfl
  | enter e =>
    exact station_change _ ((Fabric.find?_enter ..).trans (if_pos rfl)) fun _ _ => rfl
  | change d =>
    exact station_change _ ((Fabric.find?_changeListeners ..).trans (if_pos rfl)) fun _ _ => rfl
  | handOut => exact station_handOut c g
  | release => exact station_release c g
  | engage t => exact h.station_engage g t

lemma station_cancel (h : Sound c) {a : Worker κ} (served : c.system.server g = some a) :
    (c.next (.cancel a.token)).system.station g = (c.system.station g).step .cancel := by
  obtain ⟨gate, there, _⟩ := h.there_of_server served
  have worker : (c.system.server g).map (c.system.cancel a.token).shift =
      some { c.system.shift a with cancelled := true } := by
    rw [served, Option.map_some, System.shift_cancel, if_pos rfl]
  refine (congrArg (Station.mk _) worker).trans ?_
  show _ = Station.step ⟨c.system.fabric.gates.find? g, (c.system.server g).map _⟩ _
  rw [there, served]
  exact congrArg (Station.mk · _) there

/-- What a worker does is a step of the station of its gate. -/
lemma station_worker (h : Sound c) {w : WorkerId} {a : Worker κ}
    (found : c.system.workers.find? w = some a) (m : WorkerMove κ) :
    (c.next (.worker w m)).system.station a.gate =
      (c.system.station a.gate).step (.work m) := by
  obtain ⟨gate, there, st⟩ := h.station_of_found found
  have move : c.system.move (.worker w m) = c.system.moveWorker w a a.phase m := by
    simp only [System.move, found, Option.bind_some]
  have does := System.moveWorker_work found there m
  have sound := (h.passes_next (.worker w m)).sound
  have phase : (c.system.shift a).phase = a.phase := rfl
  rw [st]
  simp only [Station.step, phase]
  cases made : c.system.moveWorker w a a.phase m with
  | none =>
    rw [made] at does
    rw [next_of_refused (move.trans made), System.refused_of_rel does, st]
  | some s =>
    rw [made] at does
    obtain ⟨⟨gate', _⟩, worked, after, turns, rfl, cancelled⟩ := System.does_of_rel does
    rw [next_of_made (move.trans made)] at sound ⊢
    have gates : s.fabric.gates.find? a.gate = some gate' := (turns.gates _).trans (if_pos rfl)
    have server : s.server a.gate = after := by
      cases after with
      | some b => exact sound.server_eq ((turns.workers w).trans (if_pos rfl)) (turns.own b rfl)
      | none =>
        cases served : s.server a.gate with
        | none => rfl
        | some b =>
          -- whoever serves the gate now did so before, next to the worker that has ended
          obtain ⟨⟨v, found'⟩, own⟩ := System.server_eq_some served
          rw [turns.workers] at found'
          split at found'
          · cases found'
          · next ne => exact absurd (h.worker_unique found found' own) ne
    rw [worked]
    simp only [System.station, gates, server, System.shift_congr cancelled]

/-- What happens at a gate is a step of its station. -/
lemma station_here (h : Sound c) {m : Move κ} {i : Input κ}
    (input : c.system.input? g m = some i) :
    (c.next m).system.station g = (c.system.station g).step i := by
  obtain ⟨rfl, rfl⟩ | ⟨n, rfl, rfl⟩ | ⟨w, a, n, rfl, rfl, found, rfl⟩ | ⟨a, rfl, rfl, served⟩ :=
    System.input?_eq_some input
  · exact station_remove c g
  · exact h.station_gate g n
  · exact h.station_worker found n
  · exact h.station_cancel served

end Sound

end Chronicle

/-! ## Callbacks at a station -/

lemma GateMove.calls_note (gate : Gate) (l : Ledger) (m : GateMove) :
    (m.note gate l).calls = l.calls := by
  cases m with
  | offer e =>
    simp only [note]
    cases (gate.offer e).2 <;> rfl
  | enter e =>
    simp only [note]
    cases (gate.push e).2 <;> rfl
  | _ => rfl

/-- No other move of a worker is noted as a callback. -/
lemma WorkerMove.calls_note {κ : Type} (gate : Gate) (l : Ledger) (phase : Phase κ)
    {m : WorkerMove κ} (other : ∀ k, m ≠ .call k) : (m.note gate l phase).calls = l.calls := by
  cases m with
  | call k => exact absurd rfl (other k)
  | take =>
    simp only [note]
    split <;> rfl
  | _ => rfl

namespace Chronicle

variable {κ : Type} {c : Chronicle κ} {g : GateId}

lemma entry_apart {x : GateId} (ne : g ≠ x) (note : Gate → Ledger → Ledger) :
    c.entry x note g = c.ledgers g := by
  cases there : c.system.fabric.gates.find? x with
  | none => rw [entry_of_none there]
  | some gate => rw [entry_of_some there, Function.update_of_ne ne]

/-- The entries that a move makes at a gate leave its callbacks as they are, if the note does. -/
lemma calls_entry {note : Gate → Ledger → Ledger}
    (keep : ∀ gate (l : Ledger), (note gate l).calls = l.calls) :
    (c.entry g note g).calls = (c.ledgers g).calls := by
  cases there : c.system.fabric.gates.find? g with
  | none => rw [entry_of_none there]
  | some gate => rw [entry_of_some there, Function.update_self, keep]

/-- No listener of a gate is called elsewhere. -/
lemma calls_elsewhere (old : g < c.system.fabric.nextGate) {m : Move κ}
    (apart : c.system.input? g m = none) :
    ((c.next m).ledgers g).calls = (c.ledgers g).calls := by
  cases made : c.system.move m with
  | none => rw [next_of_refused made]
  | some s =>
    rw [next_of_made made]
    cases m with
    | create name capacity bus =>
      simp only [noted, Function.update_of_ne (Nat.ne_of_lt old)]
    | gate x m => simp only [noted, entry_apart (System.ne_of_gate apart)]
    | worker w m =>
      simp only [noted]
      cases found : c.system.workers.find? w with
      | none => rfl
      | some a => simp only [entry_apart (System.ne_of_worker apart found)]
    | _ => rfl

/-- What is done to a gate calls no listener. -/
lemma calls_gate (m : GateMove) :
    ((c.next (.gate g m)).ledgers g).calls = (c.ledgers g).calls := by
  cases made : c.system.move (.gate g m) with
  | none => rw [next_of_refused made]
  | some s =>
    rw [next_of_made made]
    exact calls_entry fun gate l => m.calls_note gate l

/-- A worker calls the listener that is next at its station. -/
lemma calls_worker (h : Sound c) {w : WorkerId} {a : Worker κ}
    (found : c.system.workers.find? w = some a) (m : WorkerMove κ) :
    ((c.next (.worker w m)).ledgers a.gate).calls =
      (c.ledgers a.gate).calls ++ ((c.system.station a.gate).call? (.work m)).toList := by
  obtain ⟨gate, there, st⟩ := h.station_of_found found
  have move : c.system.move (.worker w m) = c.system.moveWorker w a a.phase m := by
    simp only [System.move, found, Option.bind_some]
  have noted : c.noted (.worker w m) = c.entry a.gate fun gate l => m.note gate l a.phase := by
    simp only [Chronicle.noted, found]
  cases m with
  | call k =>
    have refused : c.system.moveWorker w a a.phase (.call k) = none →
        (c.system.station a.gate).call? (.work (.call k)) = none →
        ((c.next (.worker w (.call k))).ledgers a.gate).calls = (c.ledgers a.gate).calls ++
          ((c.system.station a.gate).call? (.work (.call k))).toList := by
      intro not none
      rw [next_of_refused (move.trans not), none]
      exact (List.append_nil _).symm
    simp only [Station.call?, st, System.shift] at refused ⊢
    cases phase : a.phase with
    | delivering d =>
      obtain ⟨e, callback, xs⟩ := d
      rw [phase] at refused
      cases callback with
      | some k' => exact refused rfl rfl
      | none =>
        cases xs with
        | nil => exact refused rfl rfl
        | cons x xs =>
          have made : c.system.move (.worker w (.call k)) =
              some (c.system.setPhase w (.delivering ⟨e, some k, xs⟩)) := by
            rw [move, phase]
            rfl
          rw [next_of_made made]
          simp only [noted, entry_of_some there, Function.update_self, phase]
          rfl
    | _ =>
      rw [phase] at refused
      exact refused rfl rfl
  | _ =>
    refine Eq.trans ?_ (List.append_nil _).symm
    cases made : c.system.moveWorker w a a.phase _ with
    | none => rw [next_of_refused (move.trans made)]
    | some s =>
      rw [next_of_made (move.trans made), noted]
      exact calls_entry fun gate l => WorkerMove.calls_note gate l a.phase (by rintro _ ⟨⟩)

/-- The callbacks that a move makes at a gate are those that its station makes of it. -/
lemma calls_here (h : Sound c) {m : Move κ} {i : Input κ}
    (input : c.system.input? g m = some i) :
    ((c.next m).ledgers g).calls =
      (c.ledgers g).calls ++ ((c.system.station g).call? i).toList := by
  obtain ⟨rfl, rfl⟩ | ⟨n, rfl, rfl⟩ | ⟨w, a, n, rfl, rfl, found, rfl⟩ | ⟨a, rfl, rfl, -⟩ :=
    System.input?_eq_some input
  · refine Eq.trans ?_ (List.append_nil _).symm
    cases made : c.system.move (.remove g) with
    | none => rw [next_of_refused made]
    | some s =>
      rw [next_of_made made]
      rfl
  · rw [calls_gate]
    cases n <;> exact (List.append_nil _).symm
  · exact calls_worker h found n
  · exact (List.append_nil _).symm

lemma inputs_append (g : GateId) (ms ms' : List (Move κ)) :
    c.inputs g (ms ++ ms') = c.inputs g ms ++ (c.runFrom ms).inputs g ms' := by
  induction ms generalizing c with
  | nil => rfl
  | cons m ms ih =>
    rw [List.cons_append, inputs, ih, inputs, List.append_assoc]
    rfl

/-- The station of a gate after moves, and the callbacks meanwhile, are those that the inputs at the
gate lead to. -/
theorem station_runFrom (h : Sound c) (old : g < c.system.fabric.nextGate) (ms : List (Move κ)) :
    (c.runFrom ms).system.station g = (c.system.station g).run (c.inputs g ms) ∧
      ((c.runFrom ms).ledgers g).calls =
        (c.ledgers g).calls ++ (c.system.station g).calls (c.inputs g ms) := by
  induction ms generalizing c with
  | nil => exact ⟨rfl, (List.append_nil _).symm⟩
  | cons m ms ih =>
    obtain ⟨station, calls⟩ :=
      ih (h.passes_next m).sound (Nat.lt_of_lt_of_le old (nextGate_next h m))
    show ((c.next m).runFrom ms).system.station g = _ ∧
      (((c.next m).runFrom ms).ledgers g).calls = _
    rw [station, calls, inputs]
    cases input : c.system.input? g m with
    | none =>
      rw [h.station_elsewhere old input, calls_elsewhere old input]
      exact ⟨rfl, rfl⟩
    | some i =>
      rw [h.station_here input, calls_here h input, List.append_assoc]
      exact ⟨rfl, rfl⟩

end Chronicle

end EventGates
