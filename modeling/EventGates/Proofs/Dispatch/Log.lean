import EventGates.Proofs.Dispatch.Locality
import EventGates.Proofs.Dispatch.Occasions

/-!
# The log of a run

Whatever is published in a run is put down in its log, with the gate that it is about and the bus that
it got to. Each move makes one report at most (`System.report?`), and the fabric after the move tells
just that (`Sound.tells_move`), so the buses hold what the log says (`run_logs`). What the log says of a
gate is what was reported at its station (`at?_reportsFrom`).
-/

namespace EventGates

/-- Something that was published. -/
structure Report where
  /-- The gate that it is about and what happened there. What is published from elsewhere is about no
  gate's queue or dispatcher. -/
  source : Option (GateId × Occasion)
  notice : Notice
  /-- The bus that it got to. -/
  reached : Option BusId
  seq : Nat

namespace Report

/-- The record that was published. -/
def record (r : Report) : Diagnostic := { r.notice.finding with seq := r.seq }

/-- What happened at a gate. -/
def at? (r : Report) (g : GateId) : Option Occasion :=
  r.source.bind fun (x, o) => if x = g then some o else none

def isAbout (r : Report) (g : GateId) : Bool := (r.at? g).isSome

end Report

/-- The report that is made of a notice. -/
def Fabric.report (f : Fabric) (source : Option (GateId × Occasion)) (n : Notice) : Report where
  source := source
  notice := n
  reached := n.bus.filter f.buses.contains
  seq := f.records

namespace System

variable {κ : Type}

/-- The gate that a move is about. -/
def subject? (s : System κ) : Move κ → Option GateId
  | .gate g _ => some g
  | .worker w _ => (s.workers.find? w).map (·.gate)
  | _ => none

/-- What happens at a gate in a move, if it is reported. -/
def occasion? (s : System κ) (g : GateId) (m : Move κ) : Option Occasion :=
  (s.input? g m).bind (s.station g).occasion?

/-- What is reported about a gate. -/
def reportAt? (s : System κ) (g : GateId) (m : Move κ) : Option Report :=
  (s.fabric.gates.find? g).bind fun gate =>
    (s.occasion? g m).map fun o => s.fabric.report (some (g, o)) (o.notice gate)

/-- The report that a move makes. -/
def report? (s : System κ) : Move κ → Option Report
  | .side (.publish bus finding) => some (s.fabric.report none ⟨bus, finding⟩)
  | m => (s.subject? m).bind fun g => s.reportAt? g m

variable {s : System κ} {m : Move κ} {r : Report}

/-- A report about a gate that is there. -/
lemma reportAt?_eq_some {g : GateId} (made : s.reportAt? g m = some r) :
    ∃ gate o, s.fabric.gates.find? g = some gate ∧ s.occasion? g m = some o ∧
      r = s.fabric.report (some (g, o)) (o.notice gate) := by
  simp only [reportAt?, Option.bind_eq_some_iff, Option.map_eq_some_iff] at made
  obtain ⟨gate, there, o, happened, rfl⟩ := made
  exact ⟨gate, o, there, happened, rfl⟩

/-- A report is published from elsewhere, or it is about the gate that the move is about. -/
lemma report?_eq_some (made : s.report? m = some r) :
    (∃ bus finding, m = .side (.publish bus finding) ∧
        r = s.fabric.report none ⟨bus, finding⟩) ∨
      ∃ g, s.subject? m = some g ∧ s.reportAt? g m = some r := by
  simp only [report?] at made
  split at made
  · cases made
    exact .inl ⟨_, _, rfl, rfl⟩
  · exact .inr (Option.bind_eq_some_iff.mp made)

/-- A report is made when its notice is told. -/
lemma report?_eq (made : s.report? m = some r) : r = s.fabric.report r.source r.notice := by
  obtain ⟨bus, finding, -, rfl⟩ | ⟨g, -, made⟩ := report?_eq_some made
  · rfl
  · obtain ⟨gate, o, -, -, rfl⟩ := reportAt?_eq_some made
    rfl

end System

namespace Chronicle

variable {κ : Type}

/-- The reports that moves make, in order. -/
def reportsFrom (c : Chronicle κ) : List (Move κ) → List Report
  | [] => []
  | m :: ms => (c.system.report? m).toList ++ (c.next m).reportsFrom ms

/-- The reports that a run makes, in order. -/
def reports (ms : List (Move κ)) : List Report := reportsFrom {} ms

lemma reportsFrom_append (c : Chronicle κ) (ms ms' : List (Move κ)) :
    c.reportsFrom (ms ++ ms') = c.reportsFrom ms ++ (c.runFrom ms).reportsFrom ms' := by
  induction ms generalizing c with
  | nil => rfl
  | cons m ms ih =>
    rw [List.cons_append, reportsFrom, ih, reportsFrom, List.append_assoc]
    rfl

/-- A report was made at some moment. -/
lemma mem_reportsFrom {c : Chronicle κ} {ms : List (Move κ)} {r : Report} :
    r ∈ c.reportsFrom ms ↔
      ∃ past m, past ++ [m] <+: ms ∧ (c.runFrom past).system.report? m = some r := by
  induction ms generalizing c with
  | nil => simp [reportsFrom]
  | cons m ms ih =>
    rw [reportsFrom, List.mem_append, Option.mem_toList, ih]
    constructor
    · rintro (first | ⟨past, m', part, made⟩)
      · exact ⟨[], m, ⟨ms, rfl⟩, first⟩
      · exact ⟨m :: past, m', List.cons_prefix_cons.mpr ⟨rfl, part⟩, made⟩
    · rintro ⟨past, m', part, made⟩
      cases past with
      | nil =>
        obtain ⟨rfl, -⟩ := List.cons_prefix_cons.mp part
        exact .inl made
      | cons m'' past =>
        obtain ⟨rfl, rest⟩ := List.cons_prefix_cons.mp part
        exact .inr ⟨past, m', rest, made⟩

end Chronicle

/-! ## What moves have told -/

namespace System

variable {κ : Type} {s s' : System κ} {w : WorkerId} {a : Worker κ} {gate : Gate}

/-- A worker that ends has told how many events it left. -/
lemma tells_finish (there : s.fabric.gates.find? a.gate = some gate) :
    s.fabric.Tells (s.finish w a).fabric (some ((Occasion.stopped gate.queue.length).notice gate)) := by
  have left : s.fabric.Tells (s.endDelivery a).fabric none ∧
      (s.endDelivery a).fabric.gates.find? a.gate = some (a.phase.leave gate) := by
    cases phase : a.phase with
    | delivering d =>
      simp only [endDelivery, phase, onFabric, Phase.leave]
      exact ⟨s.fabric.tells_updateGate a.gate _,
        by rw [Fabric.find?_updateGate, if_pos rfl, there]; rfl⟩
    | _ =>
      simp only [endDelivery, phase, Phase.leave]
      exact ⟨.refl _, there⟩
  have same : (a.phase.leave gate).farewell = (Occasion.stopped gate.queue.length).notice gate := by
    cases a.phase <;> rfl
  have told := (s.endDelivery a).fabric.tells_endDispatch a.gate left.2
  rw [same] at told
  exact told.after left.1

/-- A worker has its notice told. -/
lemma tells_moveWorker (there : s.fabric.gates.find? a.gate = some gate) {m : WorkerMove κ}
    (made : s.moveWorker w a a.phase m = some s') :
    s.fabric.Tells s'.fabric (((s.shift a).occasion? gate m).map (·.notice gate)) := by
  have received : s.receive w a = some s' → s.fabric.Tells s'.fabric none := by
    intro taken
    simp only [receive, Option.map_eq_some_iff, Prod.exists] at taken
    obtain ⟨e, f, taken, rfl⟩ := taken
    exact s.fabric.tells_pop a.gate taken
  have phase : (s.shift a).phase = a.phase := rfl
  -- one case for each line of `moveWorker`, in its order
  simp only [moveWorker] at made
  split at made
  case h_1 unstarted =>
    split at made
    · cases made
    · next stays =>
      cases made
      have stays : ¬(s.shift a).aborted = true := stays
      simp only [Shift.occasion?, phase, unstarted, if_neg stays]
      exact s.fabric.tells_diagnose a.gate there _ _ _
  case h_2 | h_4 =>
    split at made
    · cases made
    · exact received made
  case h_3 =>
    split at made
    · cases made
    · cases made
      exact .refl _
  case h_5 =>
    split at made
    · cases made
    · cases made
      exact s.fabric.tells_updateGate a.gate _
  case h_9 calling =>
    cases made
    have counted : (s.fabric.updateGate a.gate Gate.countPanic).gates.find? a.gate =
        some gate.countPanic := by
      rw [Fabric.find?_updateGate, if_pos rfl, there]
      rfl
    simp only [Shift.occasion?, phase, calling]
    exact (Fabric.tells_diagnose _ a.gate counted _ _ _).after (s.fabric.tells_updateGate a.gate _)
  case h_10 =>
    cases made
    exact s.fabric.tells_updateGate a.gate _
  case h_11 =>
    split at made
    · next may =>
      cases made
      have may : (s.shift a).mayStop = true := may
      simp only [Shift.occasion?, if_pos may]
      exact tells_finish there
    · cases made
  case h_13 => cases made
  all_goals
    cases made
    exact .refl _

/-- What is done to a gate has its notice told. -/
lemma tells_moveGate {g : GateId} (there : s.fabric.gates.find? g = some gate) {m : GateMove}
    (made : s.moveGate g m = some s') :
    s.fabric.Tells s'.fabric (((s.station g).occasion? (s.gateInput m)).map (·.notice gate)) := by
  have here : (s.station g).gate = some gate := there
  simp only [Station.occasion?, here]
  cases m with
  | offer e =>
    cases made
    simp only [gateInput, ← Admission.notice?_eq]
    exact s.fabric.tells_offer g there e
  | enter e =>
    cases made
    simp only [gateInput, ← Admission.notice?_eq]
    exact s.fabric.tells_enter g there e
  | change c =>
    cases made
    exact s.fabric.tells_changeListeners g c
  | handOut =>
    simp only [moveGate, Option.map_eq_some_iff] at made
    obtain ⟨f, out, rfl⟩ := made
    exact s.fabric.tells_handOut g out
  | engage t =>
    simp only [moveGate] at made
    split at made
    · cases made
      exact .refl _
    · cases made
  | release =>
    simp only [moveGate] at made
    split at made
    · next held =>
      cases made
      rw [isHeld_eq] at held
      obtain ⟨gate', st, out⟩ := Station.eq_of_isHeld held
      have same : gate' = gate := by
        rw [st] at here
        exact Option.some.inj here
      subst same
      simp only [gateInput, st, if_pos out]
      exact s.fabric.tells_endDispatch g there
    · cases made

/-- Nothing is told of what is done to a gate that is gone. -/
lemma tells_moveGate_of_gone {g : GateId} (gone : s.fabric.gates.find? g = none) {m : GateMove}
    (made : s.moveGate g m = some s') : s.fabric.Tells s'.fabric none := by
  have free : s.isHeld g = false := by simp only [isHeld, gone, Option.any_none, Bool.false_and]
  cases m with
  | offer e =>
    cases made
    simp only [onFabric, Fabric.offer, gone]
    exact .refl _
  | enter e =>
    cases made
    simp only [onFabric, Fabric.enter, gone]
    exact .refl _
  | change c =>
    cases made
    exact s.fabric.tells_changeListeners g c
  | handOut =>
    simp only [moveGate, Option.map_eq_some_iff] at made
    obtain ⟨f, out, rfl⟩ := made
    exact s.fabric.tells_handOut g out
  | engage t =>
    simp only [moveGate, free] at made
    cases made
  | release =>
    simp only [moveGate, free] at made
    cases made

/-- What is done elsewhere tells nothing, unless it is a record that is published. -/
lemma tells_moveSide (s : System κ) {m : SideMove} (bus : ∀ capacity, m ≠ .addBus capacity) :
    s.fabric.Tells (s.moveSide m).fabric ((s.report? (.side m)).map (·.notice)) := by
  cases m with
  | addBus capacity => exact absurd rfl (bus capacity)
  | publish b finding => exact s.fabric.tells_publish ⟨b, finding⟩
  | link a b =>
    simp only [moveSide, onFabric]
    split
    · exact .refl _
    · next made =>
      obtain ⟨links, rfl⟩ := Fabric.link_eq_ok made
      exact .of_eq rfl rfl rfl
  | unlink a b =>
    simp only [moveSide, onFabric, Fabric.unlink]
    split
    · exact .refl _
    · exact .of_eq rfl rfl rfl
  | register t path h =>
    simp only [moveSide, register]
    cases (s.endpoints t).register path h <;> exact .refl _
  | _ => exact .of_eq rfl rfl rfl

end System

namespace Chronicle

variable {κ : Type} {c : Chronicle κ}

/-- What happens in a move of a worker is what happens at its gate. -/
lemma Sound.occasion?_worker (h : Sound c) {w : WorkerId} {a : Worker κ} {gate : Gate}
    (found : c.system.workers.find? w = some a)
    (there : c.system.fabric.gates.find? a.gate = some gate) (m : WorkerMove κ) :
    c.system.occasion? a.gate (.worker w m) = (c.system.shift a).occasion? gate m := by
  obtain ⟨gate', there', st⟩ := h.station_of_found found
  cases there.symm.trans there'
  simp only [System.occasion?, System.input?, found, Option.any_some, decide_true, if_true,
    Option.bind_some, st, Station.occasion?]

/-- A move tells what it reports. -/
lemma Sound.tells_move (h : Sound c) {m : Move κ} {s : System κ} (made : c.system.move m = some s)
    (bus : ∀ capacity, m ≠ .side (.addBus capacity)) :
    c.system.fabric.Tells s.fabric ((c.system.report? m).map (·.notice)) := by
  cases m with
  | create name capacity bus =>
    cases made
    exact .of_eq rfl rfl rfl
  | remove g =>
    simp only [System.move] at made
    split at made
    · cases made
    · cases made
      exact .of_eq rfl rfl rfl
  | gate g m =>
    cases there : c.system.fabric.gates.find? g with
    | none =>
      have unheard : c.system.report? (.gate g m) = none := by
        simp only [System.report?, System.subject?, Option.bind_some, System.reportAt?, there,
          Option.bind_none]
      rw [unheard]
      exact System.tells_moveGate_of_gone there made
    | some gate =>
      have told := System.tells_moveGate there made
      simp only [System.report?, System.subject?, Option.bind_some, System.reportAt?, there,
        System.occasion?, System.input?, if_true, Option.map_map]
      exact told
  | worker w m =>
    simp only [System.move, Option.bind_eq_some_iff] at made
    obtain ⟨a, found, made⟩ := made
    obtain ⟨gate, there, -⟩ := h.station_of_found found
    have told := System.tells_moveWorker there made
    simp only [System.report?, System.subject?, found, Option.map_some, Option.bind_some,
      System.reportAt?, there, h.occasion?_worker found there, Option.map_map]
    exact told
  | cancel t =>
    cases made
    exact .refl _
  | side m =>
    cases made
    exact c.system.tells_moveSide fun capacity same => bus capacity (congrArg Move.side same)

/-- A move that cannot be made reports nothing. -/
lemma Sound.report?_of_refused (h : Sound c) {m : Move κ} (refused : c.system.move m = none) :
    c.system.report? m = none := by
  cases m with
  | gate g m =>
    suffices quiet : c.system.occasion? g (.gate g m) = none by
      simp only [System.report?, System.subject?, Option.bind_some, System.reportAt?, quiet,
        Option.map_none, Option.bind_fun_none]
    simp only [System.occasion?, System.input?, if_true, Option.bind_some, Station.occasion?]
    cases there : (c.system.station g).gate with
    | none => rfl
    | some gate =>
      cases m with
      | release =>
        simp only [System.move, System.moveGate, ite_eq_right_iff, reduceCtorEq, imp_false,
          System.isHeld_eq, Station.isHeld, there, Option.any_some] at refused
        cases worker : (c.system.station g).worker with
        | some a => rfl
        | none =>
          have back : ¬gate.handedOut = true := by simpa [worker] using refused
          simp only [System.gateInput, if_neg back]
      | offer e => cases refused
      | enter e => cases refused
      | _ => rfl
  | worker w m =>
    cases found : c.system.workers.find? w with
    | none =>
      simp only [System.report?, System.subject?, found, Option.map_none, Option.bind_none]
    | some a =>
      obtain ⟨gate, there, -⟩ := h.station_of_found found
      simp only [System.move, found, Option.bind_some] at refused
      have does := System.moveWorker_work found there m
      rw [refused] at does
      have quiet : (c.system.shift a).occasion? gate m = none :=
        Shift.occasion?_of_refused (System.refused_of_rel does)
      simp only [System.report?, System.subject?, found, Option.map_some, Option.bind_some,
        System.reportAt?, there, h.occasion?_worker found there, quiet, Option.map_none]
  | side m => cases refused
  | _ => rfl

end Chronicle

/-! ## The log and the buses -/

/-- The buses of a fabric hold what the log says. -/
structure Fabric.Logs (f : Fabric) (rs : List Report) : Prop where
  published : ∀ b, f.published b = (rs.filter (·.reached = some b)).map (·.record)
  records : f.records = rs.length
  seqs : rs.map (·.seq) = List.range rs.length
  newBus : ∀ b, f.nextBus ≤ b → f.buses.contains b = false

namespace Fabric.Logs

variable {f f' : Fabric} {rs : List Report}

/-- Nothing is told. -/
lemma quiet (h : f.Logs rs) (told : f.Tells f' none) : f'.Logs rs where
  published b := by
    rw [told.published, h.published]
    exact List.append_nil _
  records := told.records.trans h.records
  seqs := h.seqs
  newBus b new := by
    rw [told.contains]
    exact h.newBus b (told.nextBus ▸ new)

/-- A notice is told. -/
lemma tell (h : f.Logs rs) (source : Option (GateId × Occasion)) {n : Notice}
    (told : f.Tells f' (some n)) : f'.Logs (rs ++ [f.report source n]) where
  published b := by
    have heard : (f.report source n).reached = some b ↔ n.bus = some b ∧ f.buses.contains b = true :=
      Option.filter_eq_some_iff
    rw [told.published, h.published, List.filter_append, List.map_append]
    simp only [List.filter_cons, List.filter_nil, decide_eq_true_eq, heard, added]
    split <;> rfl
  records := by
    rw [told.records, h.records, List.length_append]
    rfl
  seqs := by
    rw [List.map_append, h.seqs, List.length_append, List.length_singleton, List.range_succ,
      ← h.records]
    rfl
  newBus b new := by
    rw [told.contains]
    exact h.newBus b (told.nextBus ▸ new)

/-- A bus is made, on which there is nothing. -/
lemma addBus (h : f.Logs rs) (capacity : Nat) : (f.addBus capacity).1.Logs rs where
  published b := by
    rw [← h.published]
    simp only [Fabric.published, Fabric.addBus, Table.find?_insert]
    split
    · next new =>
      have absent := h.newBus b (Nat.le_of_eq new.symm)
      rw [Table.contains, Option.isSome_eq_false_iff, Option.isNone_iff_eq_none] at absent
      rw [absent]
      rfl
    · rfl
  records := h.records
  seqs := h.seqs
  newBus b new := by
    have later : f.nextBus < b := new
    rw [Table.contains]
    simp only [Fabric.addBus, Table.find?_insert, if_neg (Nat.ne_of_gt later)]
    exact h.newBus b (Nat.le_of_lt later)

end Fabric.Logs

namespace Chronicle

variable {κ : Type} {c : Chronicle κ}

/-- After a move the log says what the move reports besides. -/
lemma Sound.logs_next (h : Sound c) {rs : List Report} (logs : c.system.fabric.Logs rs)
    (m : Move κ) : (c.next m).system.fabric.Logs (rs ++ (c.system.report? m).toList) := by
  cases made : c.system.move m with
  | none =>
    rw [next_of_refused made, h.report?_of_refused made, Option.toList_none, List.append_nil]
    exact logs
  | some s =>
    rw [next_of_made made]
    by_cases bus : ∃ capacity, m = .side (.addBus capacity)
    · obtain ⟨capacity, rfl⟩ := bus
      cases made
      exact (List.append_nil rs).symm ▸ logs.addBus capacity
    · have told := h.tells_move made fun capacity same => bus ⟨capacity, same⟩
      cases reported : c.system.report? m with
      | none =>
        rw [reported] at told
        exact (List.append_nil rs).symm ▸ logs.quiet told
      | some r =>
        rw [reported] at told
        have same : r = c.system.fabric.report r.source r.notice := System.report?_eq reported
        rw [same]
        exact logs.tell r.source told

/-- The buses hold what the log of the run says. -/
lemma run_logs (ms : List (Move κ)) : (run ms).system.fabric.Logs (reports ms) := by
  induction ms using List.reverseRecOn with
  | nil => exact ⟨fun _ => rfl, rfl, rfl, fun _ _ => rfl⟩
  | append_singleton ms m ih =>
    have logs := (run_sound ms).logs_next ih m
    rw [run_concat, reports, reportsFrom_append, reportsFrom, reportsFrom, List.append_nil]
    exact logs

end Chronicle

/-! ## The log and a gate -/

namespace System

variable {κ : Type} {s : System κ} {g x : GateId}

/-- What is reported about a gate that is there is what happened there. -/
lemma report?_at_eq_some {r : Report} {m : Move κ} {o : Occasion} (made : s.report? m = some r)
    (about : r.at? g = some o) :
    ∃ gate, s.fabric.gates.find? g = some gate ∧ s.occasion? g m = some o ∧
      r = s.fabric.report (some (g, o)) (o.notice gate) := by
  obtain ⟨bus, finding, -, rfl⟩ | ⟨x, -, made⟩ := report?_eq_some made
  · cases about
  · obtain ⟨gate, o', there, happened, rfl⟩ := reportAt?_eq_some made
    simp only [Report.at?, Fabric.report, Option.bind_some, Option.ite_none_right_eq_some,
      Option.some.injEq] at about
    obtain ⟨rfl, rfl⟩ := about
    exact ⟨gate, there, happened, rfl⟩

/-- What is reported about a gate is what happened there. -/
lemma at?_reportAt? (s : System κ) (g : GateId) (m : Move κ) :
    (s.reportAt? g m).bind (·.at? g) = s.occasion? g m := by
  cases there : s.fabric.gates.find? g with
  | none =>
    have quiet : (s.station g).occasion? = fun _ => none := by
      funext i
      have gone : (s.station g).gate = none := there
      rw [Station.occasion?, gone]
    simp only [reportAt?, there, Option.bind_none, occasion?, quiet, Option.bind_fun_none]
  | some gate =>
    simp only [reportAt?, there, Option.bind_some, Option.bind_map]
    cases s.occasion? g m with
    | none => rfl
    | some o => exact if_pos rfl

/-- What is reported about another gate did not happen there. -/
lemma at?_reportAt?_of_ne (ne : x ≠ g) (m : Move κ) : (s.reportAt? x m).bind (·.at? g) = none := by
  cases made : s.reportAt? x m with
  | none => rfl
  | some r =>
    obtain ⟨gate, o, -, -, rfl⟩ := reportAt?_eq_some made
    exact if_neg ne

/-- What happens at a gate is what is reported about it. -/
lemma at?_report? (s : System κ) (g : GateId) (m : Move κ) :
    (s.report? m).bind (·.at? g) = s.occasion? g m := by
  cases m with
  | gate x m =>
    by_cases same : x = g
    · subst same
      exact s.at?_reportAt? x _
    · have apart : s.occasion? g (.gate x m) = none := by simp [occasion?, input?, same]
      rw [apart]
      exact at?_reportAt?_of_ne same _
  | worker w m =>
    cases found : s.workers.find? w with
    | none => simp [report?, subject?, occasion?, input?, found]
    | some a =>
      simp only [report?, subject?, found, Option.map_some, Option.bind_some]
      by_cases same : a.gate = g
      · subst same
        exact s.at?_reportAt? a.gate _
      · have apart : s.occasion? g (.worker w m) = none := by
          simp [occasion?, input?, found, same]
        rw [apart]
        exact at?_reportAt?_of_ne same _
  | remove x =>
    simp only [occasion?, input?]
    split
    · exact (s.station g).occasion?_remove.symm
    · rfl
  | cancel t =>
    simp only [occasion?, input?]
    split
    · exact (s.station g).occasion?_cancel.symm
    · rfl
  | create name capacity bus => rfl
  | side m =>
    cases m <;> rfl

end System

namespace Chronicle

variable {κ : Type} {c : Chronicle κ} {g : GateId}

/-- What the log says of a gate is what was reported at its station. -/
lemma at?_reportsFrom (h : Sound c) (old : g < c.system.fabric.nextGate) (ms : List (Move κ)) :
    (c.reportsFrom ms).filterMap (·.at? g) =
      (c.system.station g).occasions (c.inputs g ms) := by
  induction ms generalizing c with
  | nil => rfl
  | cons m ms ih =>
    have later := ih (h.passes_next m).sound (Nat.lt_of_lt_of_le old (nextGate_next h m))
    have now : (c.system.report? m).toList.filterMap (·.at? g) =
        (c.system.occasion? g m).toList := by
      rw [← c.system.at?_report? g m]
      cases c.system.report? m with
      | none => rfl
      | some r =>
        simp only [Option.toList_some, List.filterMap_cons, List.filterMap_nil, Option.bind_some]
        cases r.at? g <;> rfl
    rw [reportsFrom, List.filterMap_append, now, later, inputs]
    cases input : c.system.input? g m with
    | none =>
      rw [h.station_elsewhere old input, System.occasion?, input]
      rfl
    | some i =>
      rw [h.station_here input, System.occasion?, input]
      rfl

end Chronicle

end EventGates
