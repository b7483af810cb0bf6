import EventGates.Proofs.Dispatch.Occasions

/-!
# What workers do by themselves

A worker that is left alone does one thing after the other. What it does next is a matter of its gate:
of the gate as it is, of all that was done there so far, and of what the worker is at. A `Conduct` says
what the listeners make of that: they change the listeners of the gate whose worker calls them, go on,
are suspended, return or panic, and do nothing anywhere else.

`Conduct.turn` is the next deed of a worker. There is none just where the worker has ended, is idle or
has its callback suspended (`turn_eq_none_iff`), and otherwise it can be done (`turn_works`). So many
deeds, one after the other, are `Conduct.deeds`; once there is none left it does not matter how many
(`deeds_of_le`).
-/

namespace EventGates

/-- What a callback does next. -/
inductive Act (κ : Type) where
  /-- It changes the listeners of its gate, and has `k` left to do. -/
  | change (c : Registry.Change ListenerId) (k : κ)
  | goOn (k : κ)
  | returned
  | panicked (message : String)

/-- What the listeners of gates do. A listener may be at several gates; at each it goes by that gate and
by what was done there so far, so nothing is remembered from one gate at another. -/
structure Conduct (κ : Type) where
  /-- What a listener has to do when it is called. -/
  begin : GateId → List (Input κ) → Gate → ListenerId → Event → κ
  /-- What a callback does that has `k` left to do; none if it is suspended. -/
  next : GateId → List (Input κ) → Gate → κ → Option (Act κ)
  /-- The token of the worker is looked at before a callback goes on with this. -/
  asleep : κ → Bool
  /-- The worker is interrupted here though it need not wait, and ends if it is to be dropped. -/
  yields : GateId → List (Input κ) → Bool
  /-- Who is suspended is asleep. -/
  suspends : ∀ {g past gate k}, next g past gate k = none → asleep k = true

/-- What a worker does at its gate, by itself or in a callback that changes the listeners before. -/
structure Deed (κ : Type) where
  change : Option (Registry.Change ListenerId) := none
  work : WorkerMove κ

variable {κ : Type}

namespace Deed

/-- The gate when the worker goes on. -/
def prepare (d : Deed κ) (gate : Gate) : Gate :=
  match d.change with
  | none => gate
  | some c => { gate with registry := gate.registry.change c }

def inputs (d : Deed κ) : List (Input κ) := d.change.toList.map .change ++ [.work d.work]

end Deed

def Act.deed : Act κ → Deed κ
  | .change c k => { change := some c, work := .proceed k }
  | .goOn k => { work := .proceed k }
  | .returned => { work := .returned }
  | .panicked message => { work := .panicked message }

namespace Conduct

variable (p : Conduct κ) (g : GateId) (past : List (Input κ))

/-- The worker finds out that it is to stop. -/
def stops (a : Shift κ) : Bool :=
  match a.phase with
  | .unstarted => a.aborted
  | .ready | .holding _ => a.cancelled || a.aborted && p.yields g past
  | .idle => a.isStopping
  | .delivering ⟨_, some k, _⟩ => p.asleep k && a.isStopping
  | .delivering ⟨_, none, _⟩ => false

/-- What a worker goes on with; none if it has to wait. -/
def goOn (gate : Gate) : Phase κ → Option (Deed κ)
  | .unstarted => some { work := .begin }
  | .ready => some { work := if gate.pop.isSome then .take else .rest }
  | .idle => if gate.pop.isSome then some { work := .take } else none
  | .holding _ => some { work := .deliver }
  | .delivering ⟨e, none, x :: _⟩ => some { work := .call (p.begin g past gate x e) }
  | .delivering ⟨_, none, []⟩ => some { work := .complete }
  | .delivering ⟨_, some k, _⟩ => (p.next g past gate k).map Act.deed

/-- The next deed of the worker of a gate, if there is a worker that need not wait. -/
def turn (st : Station κ) : Option (Deed κ) :=
  match st with
  | ⟨some gate, some a⟩ =>
    if p.stops g past a then some { work := .stop } else p.goOn g past gate a.phase
  | _ => none

/-- The worker of a gate, if there is one, is idle or its callback is suspended, and it is not to
stop. -/
def rests (st : Station κ) : Bool :=
  match st with
  | ⟨some gate, some a⟩ =>
    !a.isStopping && match a.phase with
      | .idle => gate.queue.isEmpty
      | .delivering ⟨_, some k, _⟩ => (p.next g past gate k).isNone
      | _ => false
  | _ => true

/-- So many deeds of the worker of a gate. -/
def deeds : Nat → List (Input κ) → Station κ → List (Deed κ)
  | 0, _, _ => []
  | n + 1, past, st =>
    match p.turn g past st with
    | none => []
    | some d => d :: deeds n (past ++ d.inputs) (st.run d.inputs)

variable {p g past}

/-- A worker has nothing to do just where it is idle or suspended, or has ended. -/
lemma turn_eq_none_iff {st : Station κ} : p.turn g past st = none ↔ p.rests g past st = true := by
  obtain ⟨_ | gate, _ | a⟩ := st
  case some.some =>
    have waits : p.turn g past ⟨some gate, some a⟩ = none ↔
        p.stops g past a = false ∧ p.goOn g past gate a.phase = none := by
      rw [turn]
      split <;> simp [*]
    rw [waits]
    obtain ⟨phase, cancelled, aborted⟩ := a
    cases phase with
    | idle => cases queue : gate.queue <;> simp [rests, stops, goOn, Gate.pop, queue]
    | delivering d =>
      obtain ⟨e, callback, xs⟩ := d
      cases callback with
      | none => cases xs <;> simp [rests, goOn]
      | some k =>
        cases next : p.next g past gate k with
        | none => simp [rests, stops, goOn, next, p.suspends next]
        | some act => simp [rests, goOn, next]
    | _ => simp [rests, goOn]
  all_goals exact ⟨fun _ => rfl, fun _ => rfl⟩

/-- A worker stops where it may. -/
lemma mayStop_of_stops {a : Shift κ} (stops : p.stops g past a = true) : a.mayStop = true := by
  obtain ⟨phase, cancelled, aborted⟩ := a
  cases phase with
  | unstarted => exact stops
  | idle => exact stops
  | delivering d =>
    obtain ⟨e, callback, xs⟩ := d
    cases callback with
    | none => cases stops
    | some k => exact (Bool.and_eq_true_iff.mp stops).2
  | _ =>
    simp only [Conduct.stops, Bool.or_eq_true, Bool.and_eq_true] at stops
    obtain rfl | ⟨rfl, -⟩ := stops
    · exact Bool.or_true _
    · rfl

/-- What a worker goes on with can be done, unless it is to stop. -/
lemma goOn_works {gate : Gate} {a : Shift κ} {d : Deed κ} (stays : p.stops g past a = false)
    (turn : p.goOn g past gate a.phase = some d) :
    (a.work (d.prepare gate) a.phase d.work).isSome = true := by
  obtain ⟨phase, cancelled, aborted⟩ := a
  have take : (Shift.take ⟨phase, cancelled, aborted⟩ gate).isSome = gate.pop.isSome :=
    Option.isSome_map
  cases phase with
  | unstarted =>
    cases turn
    simp only [stops] at stays
    subst stays
    rfl
  | ready =>
    cases turn
    simp only [stops, Bool.or_eq_false_iff] at stays
    obtain ⟨rfl, -⟩ := stays
    cases more : gate.pop.isSome with
    | true => exact take.trans more
    | false =>
      show (if (false || gate.pop.isSome) = true then none else _).isSome = true
      rw [more]
      rfl
  | idle =>
    simp only [stops] at stays
    simp only [goOn, Option.ite_none_right_eq_some] at turn
    obtain ⟨more, turn⟩ := turn
    cases turn
    show (if Shift.isStopping _ = true then none else _).isSome = true
    rw [stays]
    exact take.trans more
  | holding e =>
    cases turn
    simp only [stops, Bool.or_eq_false_iff] at stays
    obtain ⟨rfl, -⟩ := stays
    rfl
  | delivering d' =>
    obtain ⟨e, callback, xs⟩ := d'
    cases callback with
    | none =>
      cases xs <;> cases turn <;> rfl
    | some k =>
      simp only [goOn, Option.map_eq_some_iff] at turn
      obtain ⟨act, -, rfl⟩ := turn
      cases act <;> rfl

/-- A worker can do what it does next. -/
lemma turn_works {gate : Gate} {a : Shift κ} {d : Deed κ}
    (turn : p.turn g past ⟨some gate, some a⟩ = some d) :
    (a.work (d.prepare gate) a.phase d.work).isSome = true := by
  simp only [Conduct.turn] at turn
  split at turn
  · next stops =>
    cases turn
    rw [Shift.work_stop, if_pos (mayStop_of_stops stops)]
    rfl
  · next stays => exact goOn_works (eq_false_of_ne_true stays) turn

/-! ## Deeds in a row -/

lemma deeds_of_rests {st : Station κ} (rests : p.rests g past st = true) (n : Nat) :
    p.deeds g n past st = [] := by
  cases n with
  | zero => rfl
  | succ n => rw [deeds, turn_eq_none_iff.mpr rests]

/-- A worker goes on from where it is. -/
lemma deeds_add (n m : Nat) (past : List (Input κ)) (st : Station κ) :
    p.deeds g (n + m) past st =
      p.deeds g n past st ++
        p.deeds g m (past ++ (p.deeds g n past st).flatMap Deed.inputs)
          (st.run ((p.deeds g n past st).flatMap Deed.inputs)) := by
  induction n generalizing past st with
  | zero => simp [deeds, Station.run]
  | succ n ih =>
    rw [Nat.succ_add, deeds, deeds]
    cases turn : p.turn g past st with
    | none =>
      rw [List.flatMap_nil, List.append_nil]
      exact (deeds_of_rests (turn_eq_none_iff.mp turn) m).symm
    | some d =>
      simp only [ih, List.flatMap_cons, List.cons_append, List.append_assoc, Station.run,
        List.foldl_append]

/-- Where a worker rests after so many deeds, it has done all that it does. -/
lemma deeds_of_le {n m : Nat} {st : Station κ}
    (rests : p.rests g (past ++ (p.deeds g n past st).flatMap Deed.inputs)
      (st.run ((p.deeds g n past st).flatMap Deed.inputs)) = true) (le : n ≤ m) :
    p.deeds g m past st = p.deeds g n past st := by
  obtain ⟨k, rfl⟩ := Nat.exists_eq_add_of_le le
  rw [deeds_add, deeds_of_rests rests, List.append_nil]

end Conduct

end EventGates
