import EventGates.Proofs.Dispatch.Reports
import EventGates.Proofs.Dispatch.Schedules

/-!
# Workers of different gates commute

What the workers do at a gate is a matter of how many turns its own worker has (`inputs_schedule`), so
it does not matter in which order workers of different gates have their turns. Runs that come to the
same at each gate leave the same system with the same records, but for the order in which different
gates had theirs (`coincide_of_agree`). The main theorem is `run_commutes`: so many turns of two
workers come to the same in either order, and so do any two schedules after which every worker is
idle or suspended, or has ended.
-/

namespace EventGates

/-- The report without its number. -/
def Report.unnumbered (r : Report) : Report := { r with seq := 0 }

/-- The buses of fabrics that agree but for gates and records are the same. -/
lemma Fabric.contains_of_frame {f f' : Fabric} (same : f'.frame = f.frame) (b : BusId) :
    f'.buses.contains b = f.buses.contains b := by
  have cleared := congrArg (·.buses.contains b) same
  simpa only [frame, Table.contains, Table.find?_map, Option.isSome_map] using cleared

namespace Chronicle

variable {κ : Type}

/-- What was reported about a gate in a run, in order and without the numbers. -/
def diagnostics (ms : List (Move κ)) (g : GateId) : List Report :=
  ((reports ms).map .unnumbered).filter (·.isAbout g)

/-- Two runs leave the same system, after the same callbacks and with the same records of each gate,
but for the numbers of records. -/
structure Coincide (ms ms' : List (Move κ)) : Prop where
  gates : ∀ g, (run ms).system.fabric.gates.find? g = (run ms').system.fabric.gates.find? g
  workers : ∀ w, (run ms).system.workers.find? w = (run ms').system.workers.find? w
  frame : (run ms).system.frame = (run ms').system.frame
  calls : ∀ g < (run ms).system.fabric.nextGate,
    ((run ms).ledgers g).calls = ((run ms').ledgers g).calls
  diagnostics : ∀ g, diagnostics ms g = diagnostics ms' g
  records : (run ms).system.fabric.records = (run ms').system.fabric.records
  /-- A bus has the same records, in whatever order. -/
  published : ∀ b, (((run ms).system.fabric.published b).map (·.toFinding)).Perm
    (((run ms').system.fabric.published b).map (·.toFinding))

/-- Two lists of moves of workers that come to the same at each gate, after a run. -/
structure AgreeAtGates (ms xs ys : List (Move κ)) : Prop where
  work : ∀ m ∈ xs, m.isWork = true
  work' : ∀ m ∈ ys, m.isWork = true
  inputs : ∀ g < (run ms).system.fabric.nextGate, (run ms).inputs g xs = (run ms).inputs g ys

/-! ## What workers report -/

variable {ms xs ys : List (Move κ)} {g : GateId}

/-- A gate that is there when workers have moved was there before. -/
lemma there_of_work (work : ∀ m ∈ xs, m.isWork = true) {gate' : Gate}
    (there : (run (ms ++ xs)).system.fabric.gates.find? g = some gate') :
    ∃ gate, (run ms).system.fabric.gates.find? g = some gate ∧ gate.Keeps gate' := by
  have old := (run_sound _).gate_lt there
  rw [Conduct.nextGate_run_append work] at old
  cases before : (run ms).system.fabric.gates.find? g with
  | some gate =>
    rw [run_append] at there
    exact ⟨gate, rfl, keeps_runFrom (run_sound ms) before xs there⟩
  | none =>
    have gone : ((run ms).system.station g).run ((run ms).inputs g xs) =
        (run ms).system.station g := Station.run_of_gone before _
    rw [← station_run_append old] at gone
    cases there.symm.trans ((congrArg Station.gate gone).trans before)

/-- What workers report about a gate is told by what happened, and by the gate as it was before. -/
lemma unnumbered_of_work (work : ∀ m ∈ xs, m.isWork = true) {r : Report} {o : Occasion}
    (mem : r ∈ (run ms).reportsFrom xs) (about : r.at? g = some o) :
    ∃ gate, (run ms).system.fabric.gates.find? g = some gate ∧
      r.unnumbered = ((run ms).system.fabric.report (some (g, o)) (o.notice gate)).unnumbered := by
  obtain ⟨past, m, part, made⟩ := mem_reportsFrom.mp mem
  have work' : ∀ m ∈ past, m.isWork = true := fun m mem =>
    work m (part.subset (List.mem_append_left _ mem))
  rw [← run_append] at made
  obtain ⟨gate', there', -, rfl⟩ := System.report?_at_eq_some made about
  obtain ⟨gate, there, keeps⟩ := there_of_work work' there'
  have same : (run (ms ++ past)).system.frame = (run ms).system.frame := by
    rw [run_append]
    exact frame_runFrom work'
  have buses := funext (Fabric.contains_of_frame (congrArg System.fabric same))
  refine ⟨gate, there, ?_⟩
  simp only [Report.unnumbered, Fabric.report, Occasion.notice, keeps.name, keeps.bus, buses]

/-- Workers report about gates only. -/
lemma source_of_work (work : ∀ m ∈ xs, m.isWork = true) {r : Report}
    (mem : r ∈ (run ms).reportsFrom xs) : ∃ g o, r.at? g = some o := by
  obtain ⟨past, m, part, made⟩ := mem_reportsFrom.mp mem
  have worked := work m (part.subset (List.mem_append_right _ (List.mem_singleton_self m)))
  obtain ⟨bus, finding, rfl, -⟩ | ⟨g, -, made⟩ := System.report?_eq_some made
  · cases worked
  · obtain ⟨gate, o, -, -, rfl⟩ := System.reportAt?_eq_some made
    exact ⟨g, o, if_pos rfl⟩

/-- What workers report about a gate that is there is what they do there. -/
lemma about_of_there (work : ∀ m ∈ xs, m.isWork = true) {gate : Gate}
    (there : (run ms).system.fabric.gates.find? g = some gate) :
    (((run ms).reportsFrom xs).filter (·.isAbout g)).map Report.unnumbered =
      (((run ms).system.station g).occasions ((run ms).inputs g xs)).map fun o =>
        ((run ms).system.fabric.report (some (g, o)) (o.notice gate)).unnumbered := by
  rw [← at?_reportsFrom (run_sound ms) ((run_sound ms).gate_lt there)]
  refine map_about fun r mem o about => ?_
  obtain ⟨gate', here, same⟩ := unnumbered_of_work work mem about
  cases there.symm.trans here
  exact same

/-- Workers report nothing about a gate that is gone. -/
lemma about_of_gone (work : ∀ m ∈ xs, m.isWork = true)
    (gone : (run ms).system.fabric.gates.find? g = none) :
    ((run ms).reportsFrom xs).filter (·.isAbout g) = [] := by
  rw [List.filter_eq_nil_iff]
  intro r mem about
  obtain ⟨o, about⟩ := Option.isSome_iff_exists.mp about
  obtain ⟨gate, here, -⟩ := unnumbered_of_work work mem about
  cases gone.symm.trans here

/-- The log of a run goes on with what is reported afterwards. -/
lemma unnumbered_append (ms xs : List (Move κ)) :
    (reports (ms ++ xs)).map Report.unnumbered =
      (reports ms).map .unnumbered ++ ((run ms).reportsFrom xs).map .unnumbered := by
  rw [reports, reportsFrom_append, List.map_append]
  rfl

/-- Reports that are the same about each gate are the same up to their order. -/
lemma perm_of_about {rs rs' : List Report} (about : ∀ r ∈ rs, ∃ g, r.isAbout g = true)
    (about' : ∀ r ∈ rs', ∃ g, r.isAbout g = true)
    (same : ∀ g, rs.filter (·.isAbout g) = rs'.filter (·.isAbout g)) : rs.Perm rs' := by
  classical
  rw [List.perm_iff_count]
  intro r
  by_cases own : ∃ g, r.isAbout g = true
  · obtain ⟨g, own⟩ := own
    have kept : ∀ rs : List Report, (rs.filter (·.isAbout g)).count r = rs.count r :=
      fun _ => List.count_filter own
    rw [← kept rs, same g, kept rs']
  · rw [List.count_eq_zero.mpr fun mem => own (about r mem),
      List.count_eq_zero.mpr fun mem => own (about' r mem)]

/-- What is on a bus is what was reported there. -/
lemma published_eq (ms : List (Move κ)) (b : BusId) :
    ((run ms).system.fabric.published b).map (·.toFinding) =
      (((reports ms).map Report.unnumbered).filter (·.reached = some b)).map (·.notice.finding) := by
  rw [(run_logs ms).published b, List.map_map, List.filter_map, List.map_map]
  rfl

/-! ## Runs that come to the same at each gate -/

namespace AgreeAtGates

lemma symm (h : AgreeAtGates ms xs ys) : AgreeAtGates ms ys xs :=
  ⟨h.work', h.work, fun g old => (h.inputs g old).symm⟩

lemma station (h : AgreeAtGates ms xs ys) (old : g < (run ms).system.fabric.nextGate) :
    (run (ms ++ xs)).system.station g = (run (ms ++ ys)).system.station g := by
  rw [station_run_append old, station_run_append old, h.inputs g old]

lemma gate (h : AgreeAtGates ms xs ys) (g : GateId) :
    (run (ms ++ xs)).system.fabric.gates.find? g =
      (run (ms ++ ys)).system.fabric.gates.find? g := by
  by_cases old : g < (run ms).system.fabric.nextGate
  · exact congrArg Station.gate (h.station old)
  · have new := Nat.le_of_not_lt old
    rw [(run_sound (ms ++ xs)).newGate g ((Conduct.nextGate_run_append h.work).le.trans new),
      (run_sound (ms ++ ys)).newGate g ((Conduct.nextGate_run_append h.work').le.trans new)]

/-- What has become of a worker is seen at its gate. -/
lemma worker (h : AgreeAtGates ms xs ys) {w : WorkerId} {a : Worker κ}
    (found : (run (ms ++ xs)).system.workers.find? w = some a) :
    (run (ms ++ ys)).system.workers.find? w = some a := by
  have server := (run_sound (ms ++ xs)).server_eq found rfl
  obtain ⟨gate, there, -⟩ := (run_sound (ms ++ xs)).station_of_found found
  have old := (run_sound (ms ++ xs)).gate_lt there
  rw [Conduct.nextGate_run_append h.work] at old
  have seen := congrArg Station.worker (h.station old)
  simp only [System.station, server, Option.map_some] at seen
  obtain ⟨b, server', shift⟩ := Option.map_eq_some_iff.mp seen.symm
  obtain ⟨⟨v, found'⟩, own⟩ := System.server_eq_some server'
  -- before, both were the one worker of the gate
  obtain ⟨a', before, gate, token⟩ := worker_runFrom h.work (run_append ms xs ▸ found)
  obtain ⟨b', before', gate', token'⟩ := worker_runFrom h.work' (run_append ms ys ▸ found')
  obtain rfl := (run_sound ms).worker_unique before before' (gate'.symm.trans (own.trans gate))
  cases before.symm.trans before'
  have same : b = a := by
    obtain ⟨_, _, _, _⟩ := a
    obtain ⟨_, _, _, _⟩ := b
    simp only [System.shift, Shift.mk.injEq] at shift
    obtain ⟨rfl, -, rfl⟩ := shift
    cases own
    cases token'.trans token.symm
    rfl
  rw [found', same]

/-- The same is reported about each gate. -/
lemma about (h : AgreeAtGates ms xs ys) (g : GateId) :
    (((run ms).reportsFrom xs).map Report.unnumbered).filter (·.isAbout g) =
      (((run ms).reportsFrom ys).map Report.unnumbered).filter (·.isAbout g) := by
  rw [List.filter_map, List.filter_map]
  show (((run ms).reportsFrom xs).filter (·.isAbout g)).map _ =
    (((run ms).reportsFrom ys).filter (·.isAbout g)).map _
  cases there : (run ms).system.fabric.gates.find? g with
  | none => rw [about_of_gone h.work there, about_of_gone h.work' there]
  | some gate =>
    rw [about_of_there h.work there, about_of_there h.work' there,
      h.inputs g ((run_sound ms).gate_lt there)]

/-- The same is reported, in whatever order. -/
lemma reports_perm (h : AgreeAtGates ms xs ys) :
    ((reports (ms ++ xs)).map Report.unnumbered).Perm
      ((reports (ms ++ ys)).map Report.unnumbered) := by
  have named : ∀ {zs : List (Move κ)}, (∀ m ∈ zs, m.isWork = true) →
      ∀ r ∈ ((run ms).reportsFrom zs).map Report.unnumbered, ∃ g, r.isAbout g = true := by
    intro zs work r mem
    obtain ⟨r, reported, rfl⟩ := List.mem_map.mp mem
    obtain ⟨g, o, about⟩ := source_of_work work reported
    exact ⟨g, Option.isSome_of_eq_some about⟩
  rw [unnumbered_append, unnumbered_append]
  exact (perm_of_about (named h.work) (named h.work') h.about).append_left _

end AgreeAtGates

/-- Workers that do the same at each gate leave the same system. -/
theorem coincide_of_agree (h : AgreeAtGates ms xs ys) : Coincide (ms ++ xs) (ms ++ ys) where
  gates := h.gate
  workers w := Option.ext fun _ => ⟨h.worker, h.symm.worker⟩
  frame := by
    rw [run_append, run_append, frame_runFrom h.work, frame_runFrom h.work']
  calls g old := by
    rw [Conduct.nextGate_run_append h.work] at old
    rw [run_append, run_append, (station_runFrom (run_sound ms) old xs).2,
      (station_runFrom (run_sound ms) old ys).2, h.inputs g old]
  diagnostics g := by
    rw [diagnostics, diagnostics, unnumbered_append, unnumbered_append, List.filter_append,
      List.filter_append, h.about]
  records := by
    rw [(run_logs _).records, (run_logs _).records]
    simpa only [List.length_map] using h.reports_perm.length_eq
  published b := by
    rw [published_eq, published_eq]
    exact (h.reports_perm.filter _).map _

/-! ## Schedules -/

variable {p : Conduct κ}

/-- Schedules in which each worker has as many turns leave the same system. -/
lemma coincide_of_count {ws ws' : List WorkerId} (counts : ∀ w, ws.count w = ws'.count w) :
    Coincide (ms ++ p.schedule ms ws) (ms ++ p.schedule ms ws') := by
  refine coincide_of_agree ⟨p.isWork_schedule ms ws, p.isWork_schedule ms ws', fun g old => ?_⟩
  obtain ⟨w, staffs⟩ := (run_sound ms).exists_staffs g
  rw [Conduct.inputs_schedule staffs old, Conduct.inputs_schedule staffs old, counts]

/-- Where a schedule has left every worker settled, more turns at a gate make no difference. -/
lemma deeds_of_isSettled {ws : List WorkerId} {w : WorkerId}
    (settled : p.isSettled (ms ++ p.schedule ms ws) = true) (staffs : (run ms).system.Staffs w g)
    (old : g < (run ms).system.fabric.nextGate) {n : Nat} (le : ws.count w ≤ n) :
    p.deeds g n (history ms g) ((run ms).system.station g) =
      p.deeds g (ws.count w) (history ms g) ((run ms).system.station g) := by
  have rests := Conduct.rests_of_isSettled settled g
  rw [history_append, station_run_append old, Conduct.inputs_schedule staffs old] at rests
  exact Conduct.deeds_of_le rests le

/-- After any two schedules that leave every worker settled, the system is the same. -/
lemma coincide_of_isSettled {ws ws' : List WorkerId}
    (settled : p.isSettled (ms ++ p.schedule ms ws) = true)
    (settled' : p.isSettled (ms ++ p.schedule ms ws') = true) :
    Coincide (ms ++ p.schedule ms ws) (ms ++ p.schedule ms ws') := by
  refine coincide_of_agree ⟨p.isWork_schedule ms ws, p.isWork_schedule ms ws', fun g old => ?_⟩
  obtain ⟨w, staffs⟩ := (run_sound ms).exists_staffs g
  rw [Conduct.inputs_schedule staffs old, Conduct.inputs_schedule staffs old]
  obtain le | le := Nat.le_total (ws.count w) (ws'.count w)
  · rw [deeds_of_isSettled settled staffs old le]
  · rw [deeds_of_isSettled settled' staffs old le]

/-- A worker does the same after the turns of another worker. -/
lemma schedule_replicate_of_ne {v w : WorkerId} {a : Worker κ}
    (found : (run ms).system.workers.find? w = some a) (ne : v ≠ w) (n m : Nat) :
    p.schedule (ms ++ p.schedule ms (List.replicate n v)) (List.replicate m w) =
      p.schedule ms (List.replicate m w) := by
  have work := p.isWork_schedule ms (List.replicate n v)
  have staffs := (run_sound ms).staffs_of_found found
  obtain ⟨gate, there, -⟩ := (run_sound ms).station_of_found found
  have old := (run_sound ms).gate_lt there
  have unmoved : (run ms).inputs a.gate (p.schedule ms (List.replicate n v)) = [] := by
    rw [Conduct.inputs_schedule staffs old, List.count_replicate, if_neg (by simpa using ne)]
    rfl
  rw [Conduct.schedule_replicate (Conduct.staffs_run_append staffs work)
      ((Conduct.nextGate_run_append work).symm ▸ old),
    Conduct.schedule_replicate staffs old, history_append, station_run_append old, unmoved,
    List.append_nil]
  rfl

/-- Workers of different gates commute. A schedule lets the workers have turns, in which they and their
callbacks do something at their own gates only; each move of it can be made. Turns of two workers that
serve different gates are the same moves in either order, and leave the same system; and so do any two
schedules after which every worker is idle or suspended, or has ended. -/
theorem run_commutes (p : Conduct κ) (ms : List (Move κ)) :
    (∀ ws, (run ms).Makes (p.schedule ms ws)) ∧
      (∀ v w a b, (run ms).system.workers.find? v = some a →
        (run ms).system.workers.find? w = some b → a.gate ≠ b.gate → ∀ n m,
        let xs := p.schedule ms (List.replicate n v)
        let ys := p.schedule ms (List.replicate m w)
        p.schedule (ms ++ xs) (List.replicate m w) = ys ∧
          p.schedule (ms ++ ys) (List.replicate n v) = xs ∧
          Coincide (ms ++ xs ++ ys) (ms ++ ys ++ xs)) ∧
      ∀ ws ws', p.isSettled (ms ++ p.schedule ms ws) = true →
        p.isSettled (ms ++ p.schedule ms ws') = true →
        Coincide (ms ++ p.schedule ms ws) (ms ++ p.schedule ms ws') := by
  refine ⟨p.makes_schedule ms, ?_, fun ws ws' => coincide_of_isSettled⟩
  intro v w a b found found' apart n m xs ys
  have ne : v ≠ w := by
    rintro rfl
    cases found.symm.trans found'
    exact apart rfl
  have second : p.schedule (ms ++ xs) (List.replicate m w) = ys :=
    schedule_replicate_of_ne found' ne n m
  have second' : p.schedule (ms ++ ys) (List.replicate n v) = xs :=
    schedule_replicate_of_ne found ne.symm m n
  refine ⟨second, second', ?_⟩
  have first := p.schedule_append ms (List.replicate n v) (List.replicate m w)
  have first' := p.schedule_append ms (List.replicate m w) (List.replicate n v)
  rw [second] at first
  rw [second'] at first'
  rw [List.append_assoc, List.append_assoc, ← first, ← first']
  exact coincide_of_count fun w => by rw [List.count_append, List.count_append, Nat.add_comm]

end Chronicle

/-- Every listener clears its gate and then, at the first gate, panics; at any other it is suspended. -/
def Conduct.clearing : Conduct Bool where
  begin _ _ _ _ _ := true
  next
    | _, _, _, true => some (.change .clear false)
    | 0, _, _, false => some (.panicked "lost")
    | _, _, _, false => none
  asleep clears := !clears
  yields _ _ := false
  suspends {g past gate k} none := by
    cases k with
    | true => cases none
    | false => rfl

namespace Chronicle

/-- Two gates share a bus and a listener and are linked. One worker comes to wait for an event, the other
has its callback suspended; the records are in another order when the workers take turns. -/
theorem run_commutes_idle_and_suspended :
    let e (n : Nat) : Event := { seq := n, payload := .addItem { sourceItemUid := "lamp" } }
    let ms : List (Move Bool) :=
      [.side (.addBus 8), .create "desk" 2 (some 0), .create "shelf" 1 (some 0), .side (.link 0 1),
        .gate 0 (.change (.add 1)), .gate 1 (.change (.add 1)), .gate 0 .handOut, .gate 1 .handOut,
        .gate 0 (.engage 0), .gate 1 (.engage 0), .gate 0 (.offer (e 0)), .gate 1 (.offer (e 1))]
    let ws : List WorkerId := List.replicate 8 0 ++ List.replicate 5 1
    let ws' : List WorkerId := (List.replicate 8 [1, 0]).flatten
    let p := Conduct.clearing
    let kinds (ms : List (Move Bool)) :=
      ((run ms).system.fabric.published 0).map fun d => (d.gate, d.kind)
    (∃ a b, (run ms).system.workers.find? 0 = some a ∧ (run ms).system.workers.find? 1 = some b ∧
        a.gate ≠ b.gate ∧
        Coincide (ms ++ p.schedule ms (List.replicate 6 0) ++
            p.schedule ms (List.replicate 2 1))
          (ms ++ p.schedule ms (List.replicate 2 1) ++
            p.schedule ms (List.replicate 6 0))) ∧
      p.isSettled (ms ++ p.schedule ms ws) = true ∧
      p.isSettled (ms ++ p.schedule ms ws') = true ∧
      Coincide (ms ++ p.schedule ms ws) (ms ++ p.schedule ms ws') ∧
      kinds (ms ++ p.schedule ms ws) =
        [(some "desk", .dispatchStarted), (some "desk", .listenerPanicked),
          (some "shelf", .dispatchStarted)] ∧
      kinds (ms ++ p.schedule ms ws') =
        [(some "shelf", .dispatchStarted), (some "desk", .dispatchStarted),
          (some "desk", .listenerPanicked)] := by
  intro e ms ws ws' p kinds
  have gates : ((run ms).system.workers.find? 0).map (·.gate) = some 0 ∧
      ((run ms).system.workers.find? 1).map (·.gate) = some 1 := by decide +kernel
  obtain ⟨a, found, own⟩ := Option.map_eq_some_iff.mp gates.1
  obtain ⟨b, found', own'⟩ := Option.map_eq_some_iff.mp gates.2
  have apart : a.gate ≠ b.gate := by
    rw [own, own']
    decide
  have settled : p.isSettled (ms ++ p.schedule ms ws) = true := by decide +kernel
  have settled' : p.isSettled (ms ++ p.schedule ms ws') = true := by decide +kernel
  obtain ⟨-, turns, schedules⟩ := run_commutes p ms
  refine ⟨⟨a, b, found, found', apart, (turns 0 1 a b found found' apart 6 2).2.2⟩, settled, settled',
    schedules ws ws' settled settled', ?_, ?_⟩ <;> decide +kernel

end Chronicle

end EventGates
