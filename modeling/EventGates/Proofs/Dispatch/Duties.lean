import EventGates.Proofs.Dispatch.Courses

/-!
# Who serves a gate, and for how long

To whoever starts and stops workers a gate is its two marks, that it is running and that its queue is
handed out, and a worker is its gate, its token and whether it is to be dropped. Most of what happens
leaves these as they are (`Leaves`). The lemmas here say so of every move but the few that do not: a
queue that is handed out to a new worker, a worker that is to be dropped, and a worker that stops,
which it does only if it is to be dropped or its token is cancelled.
-/

namespace EventGates

/-- A gate that keeps its worker keeps its marks. -/
lemma Desk.Step.keeps {κ : Type} {gate gate' : Gate} {served served' : WorkerId × Phase κ}
    {l l' : Ledger} (step : Step ⟨some gate, some served, l⟩ ⟨some gate', some served', l'⟩)
    (out : gate.handedOut = true) :
    gate'.running = gate.running ∧ gate'.handedOut = gate.handedOut := by
  cases step with
  | offer e => exact ⟨gate.running_offer e, gate.handedOut_offer e⟩
  | enter e => exact ⟨gate.running_push e, gate.handedOut_push e⟩
  | handOut made =>
    obtain ⟨free, -⟩ := Gate.handOut_eq_some made
    rw [out] at free
    cases free
  | take _ taken =>
    obtain ⟨es, -, rfl⟩ := Gate.pop_eq_some taken
    exact ⟨rfl, rfl⟩
  | _ => exact ⟨rfl, rfl⟩

/-- A gate that loses its worker is closed. -/
lemma Desk.Step.closed {κ : Type} {gate gate' : Gate} {served : WorkerId × Phase κ} {l l' : Ledger}
    (step : Step ⟨some gate, some served, l⟩ ⟨some gate', none, l'⟩) : gate'.running = false := by
  cases step with
  | stop => rfl

namespace System

variable {κ : Type} {s s' s'' : System κ} {g x : GateId} {w : WorkerId}

/-- Whether a gate is marked running, and whether its queue is handed out. -/
def standing (s : System κ) (g : GateId) : Option (Bool × Bool) :=
  (s.fabric.gates.find? g).map fun gate => (gate.running, gate.handedOut)

/-- The token of a worker of a gate, and whether the worker is to be dropped. -/
def duty (s : System κ) (g : GateId) (w : WorkerId) : Option (TokenId × Bool) :=
  (s.workers.find? w).bind fun a => if a.gate = g then some (a.token, a.aborted) else none

/-- A gate and its workers are left as they are. -/
structure Leaves (s s' : System κ) (g : GateId) : Prop where
  standing : s'.standing g = s.standing g
  duty : ∀ w, s'.duty g w = s.duty g w

/-- A worker of a gate has a token and may be about to be dropped. -/
lemma duty_eq_some {t : TokenId} {dropped : Bool} :
    s.duty g w = some (t, dropped) ↔
      ∃ a, s.workers.find? w = some a ∧ a.gate = g ∧ a.token = t ∧ a.aborted = dropped := by
  simp only [System.duty, Option.bind_eq_some_iff, Option.ite_none_right_eq_some, Option.some.injEq,
    Prod.mk.injEq]

lemma isCancelled_iff {t : TokenId} : s.isCancelled t = true ↔ t ∈ s.cancelled := by
  rw [isCancelled, List.contains_iff_mem]

namespace Leaves

lemma refl (s : System κ) (g : GateId) : s.Leaves s g := ⟨rfl, fun _ => rfl⟩

lemma trans (h : s.Leaves s' g) (h' : s'.Leaves s'' g) : s.Leaves s'' g :=
  ⟨h'.standing.trans h.standing, fun w => (h'.duty w).trans (h.duty w)⟩

/-- One thing after the other for each element of a list. -/
lemma foldl {α : Type} {f : System κ → α → System κ} (each : ∀ s x, Leaves s (f s x) g)
    (xs : List α) (s : System κ) : s.Leaves (xs.foldl f s) g := by
  induction xs generalizing s with
  | nil => exact refl s g
  | cons x xs ih => exact (each s x).trans (ih (f s x))

/-- A gate that is as it was, with all workers as they were. -/
lemma of_gates (gates : s'.fabric.gates.find? g = s.fabric.gates.find? g)
    (workers : s'.workers = s.workers) : s.Leaves s' g where
  standing := by rw [System.standing, System.standing, gates]
  duty w := by rw [System.duty, System.duty, workers]

/-- A gate that keeps its marks, with all workers as they were. -/
lemma of_change {change : Gate → Gate}
    (gates : ∀ x, s'.fabric.gates.find? x =
      if x = g then (s.fabric.gates.find? g).map change else s.fabric.gates.find? x)
    (running : ∀ gate, (change gate).running = gate.running)
    (handedOut : ∀ gate, (change gate).handedOut = gate.handedOut)
    (workers : s'.workers = s.workers) : s.Leaves s' x where
  standing := by
    rw [System.standing, System.standing, gates]
    split
    · next same =>
      subst same
      cases s.fabric.gates.find? x with
      | none => rfl
      | some gate =>
        show some ((change gate).running, (change gate).handedOut) = some (gate.running, gate.handedOut)
        rw [running, handedOut]
    · rfl
  duty w := by rw [System.duty, System.duty, workers]

end Leaves

/-! ## Moves of everybody but workers -/

/-- What is done to nothing but links, buses, tables and numbers. -/
lemma leaves_side (s : System κ) (m : SideMove) (x : GateId) : s.Leaves (s.moveSide m) x :=
  have alike := s.alike_moveSide m
  .of_gates (alike.gates x) alike.workers

/-- A new gate is none of those that are there. -/
lemma leaves_create (s : System κ) (name : String) (capacity : Nat) (bus : Option BusId)
    (other : x ≠ s.fabric.nextGate) :
    s.Leaves (s.onFabric fun f => (f.addGate { name, capacity, bus }).1) x := by
  refine .of_gates ?_ rfl
  show (s.fabric.gates.insert s.fabric.nextGate _).find? x = _
  rw [Table.find?_insert, if_neg other]

/-- A new worker is one at its own gate. -/
lemma leaves_addWorker (new : s.workers.find? s.nextWorker = none) (t : TokenId) (other : x ≠ g) :
    s.Leaves (s.addWorker g t).1 x where
  standing := rfl
  duty w := by
    simp only [System.duty, addWorker, Table.find?_insert]
    split
    · next same =>
      rw [same, new]
      exact if_neg other.symm
    · rfl

/-- What is done to a gate, unless its queue changes hands, leaves its marks. -/
lemma leaves_moveGate {m : GateMove} (new : s.workers.find? s.nextWorker = none)
    (made : s.moveGate g m = some s')
    (elsewhere : m = .handOut ∨ m = .release ∨ (∃ t, m = .engage t) → x ≠ g) : s.Leaves s' x := by
  cases m with
  | offer e =>
    cases made
    exact .of_change (fun _ => Fabric.find?_offer ..) (·.running_offer e) (·.handedOut_offer e) rfl
  | enter e =>
    cases made
    exact .of_change (fun _ => Fabric.find?_enter ..) (·.running_push e) (·.handedOut_push e) rfl
  | change c =>
    cases made
    exact .of_change (fun _ => Fabric.find?_changeListeners ..) (fun _ => rfl) (fun _ => rfl) rfl
  | handOut =>
    simp only [moveGate, Option.map_eq_some_iff] at made
    obtain ⟨f, out, rfl⟩ := made
    obtain ⟨gate, gate', -, -, rfl⟩ := Fabric.handOut_eq_some out
    refine .of_gates ?_ rfl
    show (s.fabric.gates.insert g gate').find? x = _
    rw [Table.find?_insert, if_neg (elsewhere (.inl rfl))]
  | release =>
    simp only [moveGate] at made
    split at made
    · cases made
      refine .of_gates ?_ rfl
      show (s.fabric.endDispatch g).gates.find? x = _
      rw [Fabric.find?_endDispatch, if_neg (elsewhere (.inr (.inl rfl)))]
    · cases made
  | engage t =>
    simp only [moveGate] at made
    split at made
    · cases made
      exact leaves_addWorker new t (elsewhere (.inr (.inr ⟨t, rfl⟩)))
    · cases made

/-- Only a gate that goes away is not left as it was. -/
lemma leaves_removeGate (s : System κ) (other : x ≠ g) : s.Leaves (s.onFabric (·.removeGate g)) x := by
  refine .of_gates ?_ rfl
  show (s.fabric.gates.erase g).find? x = _
  rw [Table.find?_erase, if_neg other]

/-! ## Workers that are put to work -/

/-- A new worker with a token serves a gate, and nothing else changes about who serves what. -/
structure Employs (s s' : System κ) (g : GateId) (t : TokenId) : Prop where
  standing : s'.standing g = some (true, true)
  duty : ∀ w, s'.duty g w = if w = s.nextWorker then some (t, false) else s.duty g w
  elsewhere : ∀ x, x ≠ g → s.Leaves s' x
  nextWorker : s'.nextWorker = s.nextWorker + 1
  cancelled : s'.cancelled = s.cancelled
  nextToken : s'.nextToken = s.nextToken

/-- A gate whose queue is at hand is given a worker. -/
lemma spawn_of_free (new : s.workers.find? s.nextWorker = none) {running : Bool}
    (free : s.standing g = some (running, false)) (t : TokenId) :
    ∃ s', s.spawn g t = .ok (s', s.nextWorker) ∧ s.Employs s' g t := by
  simp only [System.standing, Option.map_eq_some_iff, Prod.mk.injEq] at free
  obtain ⟨gate, there, -, atHand⟩ := free
  obtain ⟨gate', out, open', taken⟩ : ∃ gate', gate.handOut = some gate' ∧ gate'.running = true ∧
      gate'.handedOut = true := by
    refine ⟨_, if_neg ?_, rfl, rfl⟩
    rw [atHand]
    exact Bool.false_ne_true
  have handed : s.fabric.handOut g = some { s.fabric with gates := s.fabric.gates.insert g gate' } := by
    rw [Fabric.handOut, there, Option.bind_some, out, Option.map_some]
  refine ⟨(addWorker { s with fabric := { s.fabric with gates := s.fabric.gates.insert g gate' } }
    g t).1, ?_, ?_, ?_, ?_, rfl, rfl, rfl⟩
  · rw [spawn, handed]
    rfl
  · simp [System.standing, addWorker, open', taken]
  · intro w
    simp only [System.duty, addWorker, Table.find?_insert]
    split
    · exact if_pos rfl
    · rfl
  · intro x other
    have handed : s.Leaves
        { s with fabric := { s.fabric with gates := s.fabric.gates.insert g gate' } } x := by
      refine .of_gates ?_ rfl
      show (s.fabric.gates.insert g _).find? x = _
      rw [Table.find?_insert, if_neg other]
    apply handed.trans
    apply leaves_addWorker _ t other
    exact new

/-! ## Workers that go -/

/-- A worker is to be dropped. -/
lemma duty_abort (s : System κ) (w v : WorkerId) (g : GateId) :
    (s.abort w).duty g v =
      if v = w then (s.duty g v).map fun r => (r.1, true) else s.duty g v := by
  simp only [System.duty, abort, Table.find?_modify]
  split
  · cases s.workers.find? v with
    | none => rfl
    | some a =>
      simp only [Option.map_some, Option.bind_some]
      split <;> rfl
  · rfl

/-- A worker is gone, and its gate is not running and has its queue at hand. -/
structure Loses (s s' : System κ) (g : GateId) (w : WorkerId) : Prop where
  standing : s'.standing g = some (false, false)
  duty : ∀ v, s'.duty g v = if v = w then none else s.duty g v
  elsewhere : ∀ x, x ≠ g → s.Leaves s' x

/-- A worker that may stop is to. -/
lemma isStopping_of_mayStop {a : Worker κ} (h : s.mayStop a = true) : s.isStopping a = true := by
  simp only [mayStop] at h
  split at h
  · rw [isStopping, h, Bool.true_or]
  · exact (Bool.and_eq_true_iff.mp h).2

/-- A worker goes on to another phase, is to be dropped, or ends because it is to stop. -/
lemma moveWorker_cases {a : Worker κ} {m : WorkerMove κ}
    (made : s.moveWorker w a a.phase m = some s') :
    (s'.cancelled = s.cancelled ∧ s'.nextToken = s.nextToken) ∧
      ((∃ phase, s'.workers = s.workers.modify w fun b => { b with phase }) ∨
        m = .abort ∧ s' = s.abort w ∨
        s.isStopping a = true ∧ s'.workers = s.workers.erase w) := by
  have received : s.receive w a = some s' →
      (s'.cancelled = s.cancelled ∧ s'.nextToken = s.nextToken) ∧
        ∃ phase, s'.workers = s.workers.modify w fun b => { b with phase } := by
    intro h
    simp only [receive, Option.map_eq_some_iff, Prod.exists] at h
    obtain ⟨e, f, -, rfl⟩ := h
    exact ⟨⟨rfl, rfl⟩, _, rfl⟩
  -- the lines of `moveWorker` with a condition, those that receive, and the one that stops
  simp only [moveWorker] at made
  split at made
  case h_1 | h_3 | h_5 =>
    split at made
    · cases made
    · cases made
      exact ⟨⟨rfl, rfl⟩, .inl ⟨_, rfl⟩⟩
  case h_2 | h_4 =>
    split at made
    · cases made
    · exact ⟨(received made).1, .inl (received made).2⟩
  case h_11 =>
    split at made
    · next may =>
      cases made
      have ended : (s.endDelivery a).cancelled = s.cancelled ∧
          (s.endDelivery a).nextToken = s.nextToken ∧ (s.endDelivery a).workers = s.workers := by
        simp only [endDelivery]
        split <;> exact ⟨rfl, rfl, rfl⟩
      refine ⟨⟨ended.1, ended.2.1⟩, .inr (.inr ⟨isStopping_of_mayStop may, ?_⟩)⟩
      show (s.endDelivery a).workers.erase w = _
      rw [ended.2.2]
    · cases made
  case h_12 =>
    cases made
    exact ⟨⟨rfl, rfl⟩, .inr (.inl ⟨rfl, rfl⟩)⟩
  case h_13 => cases made
  all_goals
    cases made
    exact ⟨⟨rfl, rfl⟩, .inl ⟨_, rfl⟩⟩

/-- A move of a worker leaves every gate and its workers, or the worker is to be dropped, or it is to
stop and its gate loses it. -/
lemma Lawful.leaves_moveWorker {held : Table String GateId} (h : s.Lawful held) {a : Worker κ}
    {m : WorkerMove κ} (found : s.workers.find? w = some a)
    (made : s.moveWorker w a a.phase m = some s') :
    (∀ x, s.Leaves s' x) ∨ m = .abort ∧ s' = s.abort w ∨
      s.isStopping a = true ∧ s.Loses s' a.gate w := by
  obtain ⟨gate, there, out⟩ := h.gate_of_worker found
  obtain ⟨gate', after, turns, step⟩ := moveWorker_step found there {} made
  have here : s'.workers.find? w = after := by rw [turns.workers, if_pos rfl]
  have others : ∀ x, x ≠ a.gate → s'.standing x = s.standing x := by
    intro x other
    rw [System.standing, System.standing, turns.gates, if_neg other]
  obtain ⟨-, ⟨phase, goesOn⟩ | dropped | ⟨stopping, gone⟩⟩ := moveWorker_cases made
  · -- it keeps its token, so its duty is the same
    rw [goesOn, Table.find?_modify, if_pos rfl, found] at here
    subst here
    obtain ⟨running, handedOut⟩ := step.keeps out
    refine .inl fun x => ⟨?_, ?_⟩
    · by_cases same : x = a.gate
      · rw [System.standing, System.standing, turns.gates, if_pos same, same, there]
        simp only [Option.map_some, running, handedOut]
      · exact others x same
    · intro v
      rw [System.duty, System.duty, goesOn, Table.find?_modify]
      split
      · cases s.workers.find? v with
        | none => rfl
        | some b => rfl
      · rfl
  · exact .inr (.inl dropped)
  · rw [gone, Table.find?_erase, if_pos rfl] at here
    subst here
    have lost : ∀ x v, s'.duty x v = if v = w then none else s.duty x v := by
      intro x v
      rw [System.duty, System.duty, gone, Table.find?_erase]
      split <;> rfl
    refine .inr (.inr ⟨stopping, ?_, lost a.gate, ?_⟩)
    · rw [System.standing, turns.gates, if_pos rfl, Option.map_some, step.closed, step.freed]
    · intro x other
      refine ⟨others x other, ?_⟩
      intro v
      rw [lost]
      split
      · next same =>
        rw [same, System.duty, found]
        exact (if_neg other.symm).symm
      · rfl

end System

end EventGates
