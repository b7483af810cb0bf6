import EventGates.Proofs.Dispatch.Conduct
import EventGates.Proofs.Dispatch.Locality
import EventGates.Proofs.Dispatch.Polling

/-!
# Schedules

A schedule names the workers whose turn it is, one after the other, and `Conduct.schedule` gives the
moves that they make. Only workers move, so what there is besides gates and records stays as it is
(`frame_runFrom`), and so do the gates that the workers serve (`Staffs.runFrom`). At each gate the
moves of a schedule are as many deeds of its worker as the schedule gives it turns
(`inputs_schedule`), whatever the other workers do meanwhile.
-/

namespace EventGates

/-- A move that a worker makes, by itself or in a callback that changes the listeners of its gate. -/
def Move.isWork {κ : Type} : Move κ → Bool
  | .gate _ (.change _) => true
  | .worker _ _ => true
  | _ => false

/-! ## What workers leave as it is -/

/-- All of a fabric but its gates and what was published. -/
def Fabric.frame (f : Fabric) : Fabric :=
  { f with gates := {}, buses := f.buses.map Bus.cleared, records := 0 }

namespace Fabric

variable (f : Fabric) (g : GateId)

@[simp] lemma frame_publish (bus : Option BusId) (finding : Finding) :
    (f.publish bus finding).frame = f.frame :=
  congrArg (fun buses => { f with gates := {}, buses, records := 0 })
    (f.tells_publish ⟨bus, finding⟩).buses

@[simp] lemma frame_diagnose (kind : DiagnosticKind) (eventType reason : Option String) :
    (f.diagnose g kind eventType reason).frame = f.frame := by
  simp only [diagnose]
  split <;> simp

@[simp] lemma frame_changeListeners (c : Registry.Change ListenerId) :
    (f.changeListeners g c).frame = f.frame := by
  cases c with
  | add x =>
    simp only [changeListeners, addListener, changeRegistry]
    split <;> rfl
  | remove x =>
    simp only [changeListeners, removeListener, changeRegistry]
    split <;> rfl
  | clear => rfl

@[simp] lemma frame_endDispatch : (f.endDispatch g).frame = f.frame := by
  simp only [endDispatch]
  split
  · rfl
  · rw [frame_diagnose]
    rfl

lemma frame_pop {f' : Fabric} {e : Event} (taken : f.pop g = some (e, f')) : f'.frame = f.frame := by
  obtain ⟨_, _, _, _, rfl⟩ := pop_eq_some taken
  rfl

end Fabric

namespace System

variable {κ : Type} {s s' : System κ} {w : WorkerId} {a : Worker κ}

/-- All of a system but its gates, its workers and what was published. -/
def frame (s : System κ) : System κ := { s with fabric := s.fabric.frame, workers := {} }

lemma frame_congr (fabric : s'.fabric.frame = s.fabric.frame)
    (others : { s' with fabric := s.fabric, workers := s.workers } = s) : s'.frame = s.frame := by
  rw [frame, fabric]
  exact congrArg frame others

/-- A worker that does something leaves everything as it is but its gate and what is published. -/
lemma frame_moveWorker {phase : Phase κ} {m : WorkerMove κ}
    (made : s.moveWorker w a phase m = some s') : s'.frame = s.frame := by
  have received : s.receive w a = some s' → s'.frame = s.frame := by
    intro taken
    simp only [receive, Option.map_eq_some_iff, Prod.exists] at taken
    obtain ⟨e, f, taken, rfl⟩ := taken
    exact frame_congr (s.fabric.frame_pop a.gate taken) rfl
  have left : (s.endDelivery a).frame = s.frame := by
    simp only [endDelivery]
    split <;> rfl
  -- one case for each line of `moveWorker`, in its order
  simp only [moveWorker] at made
  split at made
  case h_1 =>
    split at made
    · cases made
    · cases made
      exact frame_congr (Fabric.frame_diagnose ..) rfl
  case h_2 | h_4 =>
    split at made
    · cases made
    · exact received made
  case h_3 | h_5 =>
    split at made
    · cases made
    · cases made
      rfl
  case h_9 =>
    cases made
    exact frame_congr (Fabric.frame_diagnose ..) rfl
  case h_11 =>
    split at made
    · cases made
      exact (frame_congr (Fabric.frame_endDispatch ..) rfl).trans left
    · cases made
  case h_13 => cases made
  all_goals
    cases made
    rfl

lemma frame_move {m : Move κ} (work : m.isWork = true) (made : s.move m = some s') :
    s'.frame = s.frame := by
  cases m with
  | gate g m =>
    cases m with
    | change c =>
      cases made
      exact frame_congr (s.fabric.frame_changeListeners g c) rfl
    | _ => cases work
  | worker w m =>
    simp only [move, Option.bind_eq_some_iff] at made
    obtain ⟨a, -, made⟩ := made
    exact frame_moveWorker made
  | _ => cases work

/-- A worker that is there after a move of a worker was there before. -/
lemma worker_work {m : Move κ} {a' : Worker κ} (work : m.isWork = true) (made : s.move m = some s')
    (found' : s'.workers.find? w = some a') :
    ∃ a, s.workers.find? w = some a ∧ a'.gate = a.gate ∧ a'.token = a.token := by
  cases m with
  | gate g m =>
    cases m with
    | change c =>
      cases made
      exact ⟨a', found', rfl, rfl⟩
    | _ => cases work
  | worker v m =>
    simp only [move, Option.bind_eq_some_iff] at made
    obtain ⟨b, -, made⟩ := made
    obtain ⟨a, found, gate, token, -⟩ := worker_moveWorker made found'
    exact ⟨a, found, gate, token⟩
  | _ => cases work

/-- The worker, if it is there, serves the gate, and nobody else does. -/
def Staffs (s : System κ) (w : WorkerId) (g : GateId) : Prop :=
  ∀ v a, s.workers.find? v = some a → (a.gate = g ↔ v = w)

/-- Where the worker is gone, nobody serves the gate. -/
lemma Staffs.server_eq_none {g : GateId} (staffs : s.Staffs w g)
    (gone : s.workers.find? w = none) : s.server g = none := by
  cases served : s.server g with
  | none => rfl
  | some a =>
    obtain ⟨⟨v, found⟩, own⟩ := server_eq_some served
    rw [(staffs v a found).mp own, gone] at found
    cases found

end System

namespace Chronicle

variable {κ : Type} {c : Chronicle κ} {g : GateId} {w : WorkerId} {ms : List (Move κ)}

/-- Moves of workers leave everything as it is but gates, workers and what is published. -/
lemma frame_runFrom (work : ∀ m ∈ ms, m.isWork = true) :
    (c.runFrom ms).system.frame = c.system.frame := by
  induction ms generalizing c with
  | nil => rfl
  | cons m ms ih =>
    obtain ⟨first, rest⟩ := List.forall_mem_cons.mp work
    refine (@ih (c.next m) rest).trans ?_
    cases made : c.system.move m with
    | none => rw [next_of_refused made]
    | some s =>
      rw [next_of_made made]
      exact System.frame_move first made

/-- No worker comes of the moves of workers. -/
lemma worker_runFrom (work : ∀ m ∈ ms, m.isWork = true) {a' : Worker κ}
    (found' : (c.runFrom ms).system.workers.find? w = some a') :
    ∃ a, c.system.workers.find? w = some a ∧ a'.gate = a.gate ∧ a'.token = a.token := by
  induction ms generalizing c with
  | nil => exact ⟨a', found', rfl, rfl⟩
  | cons m ms ih =>
    obtain ⟨first, rest⟩ := List.forall_mem_cons.mp work
    obtain ⟨b, found, gate, token⟩ := @ih (c.next m) rest found'
    cases made : c.system.move m with
    | none =>
      rw [next_of_refused made] at found
      exact ⟨b, found, gate, token⟩
    | some s =>
      rw [next_of_made made] at found
      obtain ⟨a, found, gate', token'⟩ := System.worker_work first made found
      exact ⟨a, found, gate.trans gate', token.trans token'⟩

end Chronicle

lemma System.Staffs.runFrom {κ : Type} {c : Chronicle κ} {g : GateId} {w : WorkerId}
    {ms : List (Move κ)} (staffs : c.system.Staffs w g) (work : ∀ m ∈ ms, m.isWork = true) :
    (c.runFrom ms).system.Staffs w g := by
  intro v a' found'
  obtain ⟨a, found, gate, -⟩ := Chronicle.worker_runFrom work found'
  rw [gate]
  exact staffs v a found

namespace Chronicle

variable {κ : Type} {c : Chronicle κ} {g : GateId} {w : WorkerId}

/-- A worker staffs the gate that it serves. -/
lemma Sound.staffs_of_found (h : Sound c) {a : Worker κ}
    (found : c.system.workers.find? w = some a) : c.system.Staffs w a.gate := by
  intro v b found'
  refine ⟨h.worker_unique found found', ?_⟩
  rintro rfl
  cases found.symm.trans found'
  rfl

/-- A gate that nobody serves is staffed by a worker that is still to come. -/
lemma Sound.exists_staffs (h : Sound c) (g : GateId) : ∃ w, c.system.Staffs w g := by
  cases served : c.system.server g with
  | none =>
    refine ⟨c.system.nextWorker, fun v a found => iff_of_false ?_ ?_⟩
    · exact System.server_eq_none served found
    · exact Nat.ne_of_lt (h.worker_lt found)
  | some a =>
    obtain ⟨⟨w, found⟩, rfl⟩ := System.server_eq_some served
    exact ⟨w, h.staffs_of_found found⟩

end Chronicle

/-! ## The moves of a schedule -/

/-- The moves of the worker `w` of the gate `g` that do this. -/
def Deed.moves {κ : Type} (d : Deed κ) (g : GateId) (w : WorkerId) : List (Move κ) :=
  d.change.toList.map (fun c => .gate g (.change c)) ++ [.worker w d.work]

namespace Chronicle

variable {κ : Type}

/-- Everything that was done at a gate in a run. -/
def history (ms : List (Move κ)) (g : GateId) : List (Input κ) := inputs {} g ms

/-- Every one of the moves can be made when it comes to it. -/
def Makes (c : Chronicle κ) : List (Move κ) → Prop
  | [] => True
  | m :: ms => (c.system.move m).isSome = true ∧ (c.next m).Makes ms

lemma history_append (ms ms' : List (Move κ)) (g : GateId) :
    history (ms ++ ms') g = history ms g ++ (run ms).inputs g ms' :=
  inputs_append g ms ms'

/-- The station of a gate goes on from where it was. -/
lemma station_run_append {ms : List (Move κ)} {g : GateId}
    (old : g < (run ms).system.fabric.nextGate) (ms' : List (Move κ)) :
    (run (ms ++ ms')).system.station g =
      ((run ms).system.station g).run ((run ms).inputs g ms') := by
  rw [run_append]
  exact (station_runFrom (run_sound ms) old ms').1

lemma makes_append {c : Chronicle κ} {ms ms' : List (Move κ)} (makes : c.Makes ms)
    (makes' : (c.runFrom ms).Makes ms') : c.Makes (ms ++ ms') := by
  induction ms generalizing c with
  | nil => exact makes'
  | cons m ms ih => exact ⟨makes.1, ih makes.2 makes'⟩

end Chronicle

namespace Conduct

variable {κ : Type} (p : Conduct κ)

/-- The moves of a worker whose turn it is after a run. -/
def step (ms : List (Move κ)) (w : WorkerId) : List (Move κ) :=
  let s := (Chronicle.run ms).system
  match s.workers.find? w with
  | none => []
  | some a =>
    (p.turn a.gate (Chronicle.history ms a.gate) (s.station a.gate)).toList.flatMap
      (·.moves a.gate w)

/-- The moves after a run that workers make, one after the other. -/
def schedule (ms : List (Move κ)) : List WorkerId → List (Move κ)
  | [] => []
  | w :: ws => p.step ms w ++ schedule (ms ++ p.step ms w) ws

/-- After the run each worker is idle or suspended, or has ended. -/
def isSettled (ms : List (Move κ)) : Bool :=
  let s := (Chronicle.run ms).system
  s.workers.keys.all fun w => (s.workers.find? w).all fun a =>
    p.rests a.gate (Chronicle.history ms a.gate) (s.station a.gate)

end Conduct

/-! ## A schedule at a gate -/

lemma Deed.isWork_moves {κ : Type} (d : Deed κ) (g : GateId) (w : WorkerId) :
    ∀ m ∈ d.moves g w, m.isWork = true := by
  obtain ⟨change, work⟩ := d
  cases change <;> simp [moves, Move.isWork]

namespace Chronicle

variable {κ : Type} {c : Chronicle κ} {w : WorkerId} {a : Worker κ}

/-- What a worker does is done at its gate. -/
lemma inputs_deed (found : c.system.workers.find? w = some a) (d : Deed κ) (g : GateId) :
    c.inputs g (d.moves a.gate w) = if a.gate = g then d.inputs else [] := by
  obtain ⟨change, work⟩ := d
  cases change with
  | none =>
    by_cases own : a.gate = g <;>
      simp [Deed.moves, Deed.inputs, inputs, System.input?, found, own]
  | some x =>
    have found' : (c.next (.gate a.gate (.change x))).system.workers.find? w = some a := found
    by_cases own : a.gate = g
    · subst own
      simp [Deed.moves, Deed.inputs, inputs, System.input?, found',
        System.gateInput]
    · simp [Deed.moves, inputs, System.input?, found', own]

/-- A worker can do what can be done at its station. -/
lemma Sound.isSome_move_worker (h : Sound c) (found : c.system.workers.find? w = some a)
    {gate : Gate} {b : Shift κ} (st : c.system.station a.gate = ⟨some gate, some b⟩)
    {m : WorkerMove κ} (works : (b.work gate a.phase m).isSome = true) :
    (c.system.move (.worker w m)).isSome = true := by
  obtain ⟨gate', there, st'⟩ := h.station_of_found found
  cases st.symm.trans st'
  have does := System.moveWorker_work found there m
  simp only [System.move, found, Option.bind_some]
  cases made : c.system.moveWorker w a a.phase m with
  | some s => rfl
  | none =>
    rw [made] at does
    rw [System.refused_of_rel does] at works
    cases works

/-- A worker whose turn it is can do what it does. -/
lemma Sound.makes_deed (h : Sound c) (found : c.system.workers.find? w = some a) {p : Conduct κ}
    {past : List (Input κ)} {d : Deed κ}
    (turn : p.turn a.gate past (c.system.station a.gate) = some d) :
    c.Makes (d.moves a.gate w) := by
  obtain ⟨gate, -, st⟩ := h.station_of_found found
  rw [st] at turn
  have works := Conduct.turn_works turn
  obtain ⟨change, work⟩ := d
  cases change with
  | none => exact ⟨h.isSome_move_worker found st works, trivial⟩
  | some x =>
    have changed := h.station_gate a.gate (.change x)
    rw [st] at changed
    have found' : (c.next (.gate a.gate (.change x))).system.workers.find? w = some a := found
    exact ⟨rfl, (h.passes_next _).sound.isSome_move_worker found' changed works, trivial⟩

end Chronicle

namespace Conduct

open Chronicle

variable {κ : Type} {p : Conduct κ} {ms : List (Move κ)} {g : GateId} {w : WorkerId}

lemma isWork_step (p : Conduct κ) (ms : List (Move κ)) (w : WorkerId) :
    ∀ m ∈ p.step ms w, m.isWork = true := by
  simp only [step]
  split
  · intro m mem
    cases mem
  · intro m mem
    obtain ⟨d, -, mem⟩ := List.mem_flatMap.mp mem
    exact d.isWork_moves _ _ m mem

/-- Where the worker is gone, nobody has a turn at the gate. -/
lemma turn_of_gone (staffs : (run ms).system.Staffs w g)
    (gone : (run ms).system.workers.find? w = none) (past : List (Input κ)) :
    p.turn g past ((run ms).system.station g) = none := by
  rw [System.station, staffs.server_eq_none gone]
  cases (run ms).system.fabric.gates.find? g <;> rfl

/-- The moves of a worker are its next deed. -/
lemma step_eq (staffs : (run ms).system.Staffs w g) :
    p.step ms w =
      (p.turn g (history ms g) ((run ms).system.station g)).toList.flatMap (·.moves g w) := by
  cases found : (run ms).system.workers.find? w with
  | none =>
    simp only [step, found, turn_of_gone staffs found]
    rfl
  | some a =>
    obtain rfl := (staffs w a found).mpr rfl
    simp only [step, found]

/-- The next deed of a worker is done at its gate. -/
lemma inputs_step (staffs : (run ms).system.Staffs w g) :
    (run ms).inputs g (p.step ms w) =
      (p.turn g (history ms g) ((run ms).system.station g)).toList.flatMap Deed.inputs := by
  rw [step_eq staffs]
  cases turn : p.turn g (history ms g) ((run ms).system.station g) with
  | none => rfl
  | some d =>
    cases found : (run ms).system.workers.find? w with
    | none =>
      rw [turn_of_gone staffs found] at turn
      cases turn
    | some a =>
      obtain rfl := (staffs w a found).mpr rfl
      simp only [Option.toList_some, List.flatMap_singleton]
      rw [inputs_deed found, if_pos rfl]

/-- Nothing is done at a gate when another worker has its turn. -/
lemma inputs_step_of_ne (staffs : (run ms).system.Staffs w g) {v : WorkerId} (ne : v ≠ w) :
    (run ms).inputs g (p.step ms v) = [] := by
  simp only [step]
  split
  · rfl
  · next a found =>
    have other : a.gate ≠ g := fun own => ne ((staffs v a found).mp own)
    cases p.turn a.gate (history ms a.gate) ((run ms).system.station a.gate) with
    | none => rfl
    | some d =>
      simp only [Option.toList_some, List.flatMap_singleton]
      rw [inputs_deed found, if_neg other]

/-- After the turn of another worker a gate is as it was, and what was done there. -/
lemma unmoved_step_of_ne (staffs : (run ms).system.Staffs w g)
    (old : g < (run ms).system.fabric.nextGate) {v : WorkerId} (ne : v ≠ w) :
    history (ms ++ p.step ms v) g = history ms g ∧
      (run (ms ++ p.step ms v)).system.station g = (run ms).system.station g := by
  rw [history_append, station_run_append old, inputs_step_of_ne staffs ne]
  exact ⟨List.append_nil _, rfl⟩

/-- The deeds of a worker go on from what its next deed leads to. -/
lemma deeds_step (staffs : (run ms).system.Staffs w g)
    (old : g < (run ms).system.fabric.nextGate) (n : Nat) :
    p.deeds g (n + 1) (history ms g) ((run ms).system.station g) =
      (p.turn g (history ms g) ((run ms).system.station g)).toList ++
        p.deeds g n (history (ms ++ p.step ms w) g)
          ((run (ms ++ p.step ms w)).system.station g) := by
  rw [history_append, station_run_append old, inputs_step staffs, deeds]
  cases turn : p.turn g (history ms g) ((run ms).system.station g) with
  | none =>
    have rests := turn_eq_none_iff.mp turn
    simp only [Option.toList_none, List.flatMap_nil, List.append_nil, List.nil_append]
    exact (deeds_of_rests rests n).symm
  | some d => simp only [Option.toList_some, List.flatMap_singleton, List.singleton_append]

lemma nextGate_run_append {xs : List (Move κ)} (work : ∀ m ∈ xs, m.isWork = true) :
    (run (ms ++ xs)).system.fabric.nextGate = (run ms).system.fabric.nextGate := by
  rw [run_append]
  exact congrArg (·.fabric.nextGate) (frame_runFrom work)

lemma staffs_run_append (staffs : (run ms).system.Staffs w g) {xs : List (Move κ)}
    (work : ∀ m ∈ xs, m.isWork = true) : (run (ms ++ xs)).system.Staffs w g := by
  rw [run_append]
  exact staffs.runFrom work

/-- A gate sees as many deeds of its worker as there are turns for it in a schedule. -/
theorem inputs_schedule (staffs : (run ms).system.Staffs w g)
    (old : g < (run ms).system.fabric.nextGate) (ws : List WorkerId) :
    (run ms).inputs g (p.schedule ms ws) =
      (p.deeds g (ws.count w) (history ms g) ((run ms).system.station g)).flatMap Deed.inputs := by
  induction ws generalizing ms with
  | nil => rfl
  | cons v ws ih =>
    have work := p.isWork_step ms v
    have old' := old
    rw [← nextGate_run_append work] at old'
    rw [schedule, inputs_append, ← run_append, ih (staffs_run_append staffs work) old']
    by_cases same : v = w
    · subst same
      rw [inputs_step staffs, List.count_cons_self, deeds_step staffs old, List.flatMap_append]
    · obtain ⟨history, station⟩ := unmoved_step_of_ne (p := p) staffs old same
      rw [inputs_step_of_ne staffs same, List.count_cons_of_ne same, history, station,
        List.nil_append]

/-- So many turns of one worker are as many of its deeds. -/
theorem schedule_replicate (staffs : (run ms).system.Staffs w g)
    (old : g < (run ms).system.fabric.nextGate) (n : Nat) :
    p.schedule ms (List.replicate n w) =
      (p.deeds g n (history ms g) ((run ms).system.station g)).flatMap (·.moves g w) := by
  induction n generalizing ms with
  | zero => rfl
  | succ n ih =>
    have work := p.isWork_step ms w
    have old' := old
    rw [← nextGate_run_append work] at old'
    rw [List.replicate_succ, schedule, ih (staffs_run_append staffs work) old',
      deeds_step staffs old, List.flatMap_append, step_eq staffs]

/-! ## Whole schedules -/

lemma schedule_append (p : Conduct κ) (ms : List (Move κ)) (ws ws' : List WorkerId) :
    p.schedule ms (ws ++ ws') =
      p.schedule ms ws ++ p.schedule (ms ++ p.schedule ms ws) ws' := by
  induction ws generalizing ms with
  | nil =>
    rw [schedule, List.append_nil]
    rfl
  | cons w ws ih => simp only [List.cons_append, schedule, ih, List.append_assoc]

lemma isWork_schedule (p : Conduct κ) (ms : List (Move κ)) (ws : List WorkerId) :
    ∀ m ∈ p.schedule ms ws, m.isWork = true := by
  induction ws generalizing ms with
  | nil =>
    rw [schedule]
    exact List.forall_mem_nil _
  | cons w ws ih =>
    rw [schedule, List.forall_mem_append]
    exact ⟨p.isWork_step ms w, ih _⟩

/-- A worker whose turn it is can make its moves. -/
lemma makes_step (p : Conduct κ) (ms : List (Move κ)) (w : WorkerId) :
    (run ms).Makes (p.step ms w) := by
  cases found : (run ms).system.workers.find? w with
  | none =>
    simp only [step, found]
    trivial
  | some a =>
    rw [step_eq ((run_sound ms).staffs_of_found found)]
    cases turn : p.turn a.gate (history ms a.gate) ((run ms).system.station a.gate) with
    | none => trivial
    | some d =>
      rw [Option.toList_some, List.flatMap_singleton]
      exact (run_sound ms).makes_deed found turn

/-- Every move of a schedule is made. -/
theorem makes_schedule (p : Conduct κ) (ms : List (Move κ)) (ws : List WorkerId) :
    (run ms).Makes (p.schedule ms ws) := by
  induction ws generalizing ms with
  | nil => trivial
  | cons w ws ih =>
    have later := ih (ms ++ p.step ms w)
    rw [run_append] at later
    rw [schedule]
    exact makes_append (p.makes_step ms w) later

/-- Where every worker is settled, there is nothing left to do at any gate. -/
lemma rests_of_isSettled (settled : p.isSettled ms = true) (g : GateId) :
    p.rests g (history ms g) ((run ms).system.station g) = true := by
  cases served : (run ms).system.server g with
  | none =>
    rw [System.station, served]
    cases (run ms).system.fabric.gates.find? g <;> rfl
  | some a =>
    obtain ⟨⟨w, found⟩, rfl⟩ := System.server_eq_some served
    have all := List.all_eq_true.mp settled w (Table.mem_keys_of_find? found)
    simpa only [found, Option.all_some] using all

end Conduct

end EventGates
