import EventGates.Proofs.Dispatch.Log

/-!
# What is reported of a gate

The log of a run says what happened at each gate (`Befalls`), and nothing else. Its entries about a gate
agree with the counters of the gate and with what the dispatcher is at, since those at its station do
(`Station.Tallies.run`). The main theorem is `run_reports`.
-/

namespace EventGates

/-! ## What happened -/

/-- Something happens at a gate in a move. -/
inductive System.Befalls {κ : Type} (s : System κ) (g : GateId) (gate : Gate) :
    Move κ → Occasion → Prop where
  | overflow {e : Event} :
    gate.running = true → gate.capacity ≤ gate.queue.length →
    Befalls s g gate (.gate g (.offer e)) (.overflow e)
  /-- The event was offered while the gate was running. -/
  | late {e : Event} :
    gate.capacity ≤ gate.queue.length → Befalls s g gate (.gate g (.enter e)) (.overflow e)
  | idle {e : Event} :
    gate.running = false → Befalls s g gate (.gate g (.offer e)) (.idle e)
  | started {w : WorkerId} {a : Worker κ} :
    s.workers.find? w = some a → a.gate = g → a.phase = .unstarted → a.aborted = false →
    Befalls s g gate (.worker w .begin) .started
  | panicked {w : WorkerId} {a : Worker κ} {e : Event} {k : κ} {xs : List ListenerId}
    {message : String} :
    s.workers.find? w = some a → a.gate = g → a.phase = .delivering ⟨e, some k, xs⟩ →
    Befalls s g gate (.worker w (.panicked message)) (.panicked e message)
  | stopped {w : WorkerId} {a : Worker κ} :
    s.workers.find? w = some a → a.gate = g → s.mayStop a = true →
    Befalls s g gate (.worker w .stop) (.stopped gate.queue.length)
  /-- A dispatcher that is not at work is dropped. -/
  | released :
    s.isHeld g = true → Befalls s g gate (.gate g .release) (.stopped gate.queue.length)

namespace Chronicle

variable {κ : Type} {c : Chronicle κ} {g : GateId} {gate : Gate} {m : Move κ} {o : Occasion}

/-- What is reported about an event that was offered. -/
lemma occasion?_offer (there : c.system.fabric.gates.find? g = some gate) (e : Event) :
    c.system.occasion? g (.gate g (.offer e)) = (gate.offer e).2.occasion? e ∧
      c.system.occasion? g (.gate g (.enter e)) = (gate.push e).2.occasion? e := by
  simp [System.occasion?, System.input?, System.gateInput, System.station, Station.occasion?, there]

/-- What is reported when a dispatcher is dropped. -/
lemma occasion?_release (there : c.system.fabric.gates.find? g = some gate) :
    c.system.occasion? g (.gate g .release) =
      if c.system.isHeld g then some (.stopped gate.queue.length) else none := by
  have here : (c.system.station g).gate = some gate := there
  simp only [System.occasion?, System.input?, if_true, Option.bind_some, System.gateInput,
    Station.occasion?, here, System.isHeld_eq, Station.isHeld, Option.any_some]
  cases (c.system.station g).worker with
  | none => simp
  | some a => simp

/-- What is reported is what happens. -/
lemma Sound.befalls_of_occasion? (h : Sound c) (there : c.system.fabric.gates.find? g = some gate)
    (happened : c.system.occasion? g m = some o) : c.system.Befalls g gate m o := by
  cases m with
  | gate x m =>
    have same : x = g := by
      by_contra ne
      simp [System.occasion?, System.input?, ne] at happened
    subst same
    cases m with
    | offer e =>
      rw [(occasion?_offer there e).1] at happened
      obtain ⟨running, offer⟩ | ⟨stands, offer⟩ := gate.offer_cases e
      · obtain ⟨_, push⟩ | ⟨full, push⟩ := gate.push_cases e
        · rw [offer, push] at happened
          cases happened
        · rw [offer, push] at happened
          cases happened
          exact .overflow running full
      · rw [offer] at happened
        cases happened
        exact .idle stands
    | enter e =>
      rw [(occasion?_offer there e).2] at happened
      obtain ⟨_, push⟩ | ⟨full, push⟩ := gate.push_cases e
      · rw [push] at happened
        cases happened
      · rw [push] at happened
        cases happened
        exact .late full
    | release =>
      rw [occasion?_release there, Option.ite_none_right_eq_some] at happened
      obtain ⟨held, happened⟩ := happened
      cases happened
      exact .released held
    | _ => simp [System.occasion?, System.input?, System.gateInput, System.station,
        Station.occasion?, there] at happened
  | worker w m =>
    cases found : c.system.workers.find? w with
    | none => simp [System.occasion?, System.input?, found] at happened
    | some a =>
      have own : a.gate = g := by
        by_contra ne
        simp [System.occasion?, System.input?, found, ne] at happened
      subst own
      rw [h.occasion?_worker found there] at happened
      have phase : (c.system.shift a).phase = a.phase := rfl
      cases m with
      | begin =>
        simp only [Shift.occasion?, phase] at happened
        split at happened
        · next unstarted =>
          split at happened
          · cases happened
          · next stays =>
            cases happened
            exact .started found rfl unstarted (eq_false_of_ne_true stays)
        · cases happened
      | panicked message =>
        simp only [Shift.occasion?, phase] at happened
        split at happened
        · next calling =>
          cases happened
          exact .panicked found rfl calling
        · cases happened
      | stop =>
        simp only [Shift.occasion?, Option.ite_none_right_eq_some] at happened
        obtain ⟨may, happened⟩ := happened
        cases happened
        exact .stopped found rfl may
      | _ => cases happened
  | remove x =>
    simp only [System.occasion?, System.input?] at happened
    split at happened
    · cases (Station.occasion?_remove _).symm.trans happened
    · cases happened
  | cancel t =>
    simp only [System.occasion?, System.input?] at happened
    split at happened
    · cases (Station.occasion?_cancel _).symm.trans happened
    · cases happened
  | create name capacity bus => cases happened
  | side m => cases happened

/-- What is reported about a gate is what happens there. -/
lemma Sound.occasion?_eq_some_iff (h : Sound c)
    (there : c.system.fabric.gates.find? g = some gate) :
    c.system.occasion? g m = some o ↔ c.system.Befalls g gate m o := by
  refine ⟨h.befalls_of_occasion? there, ?_⟩
  intro happens
  cases happens with
  | @overflow e running full =>
    obtain ⟨_, offer⟩ | ⟨stands, _⟩ := gate.offer_cases e
    · obtain ⟨free, _⟩ | ⟨_, push⟩ := gate.push_cases e
      · omega
      · rw [(occasion?_offer there e).1, offer, push]
        rfl
    · rw [running] at stands
      cases stands
  | @late e full =>
    obtain ⟨free, _⟩ | ⟨_, push⟩ := gate.push_cases e
    · omega
    · rw [(occasion?_offer there e).2, push]
      rfl
  | @idle e stands =>
    obtain ⟨running, _⟩ | ⟨_, offer⟩ := gate.offer_cases e
    · rw [running] at stands
      cases stands
    · rw [(occasion?_offer there e).1, offer]
      rfl
  | @started w a found own phase stays =>
    subst own
    have phase : (c.system.shift a).phase = .unstarted := phase
    have stays : ¬(c.system.shift a).aborted = true := by simpa [System.shift] using stays
    rw [h.occasion?_worker found there]
    simp only [Shift.occasion?, phase, if_neg stays]
  | @panicked w a e k xs message found own phase =>
    subst own
    have phase : (c.system.shift a).phase = .delivering ⟨e, some k, xs⟩ := phase
    rw [h.occasion?_worker found there]
    simp only [Shift.occasion?, phase]
  | @stopped w a found own may =>
    subst own
    rw [h.occasion?_worker found there]
    exact if_pos may
  | released held => rw [occasion?_release there, if_pos held]

/-- A bus that is there stays there. -/
lemma contains_next (h : Sound c) {b : BusId} (there : c.system.fabric.buses.contains b = true)
    (m : Move κ) : (c.next m).system.fabric.buses.contains b = true := by
  cases made : c.system.move m with
  | none =>
    rw [next_of_refused made]
    exact there
  | some s =>
    rw [next_of_made made]
    by_cases bus : ∃ capacity, m = .side (.addBus capacity)
    · obtain ⟨capacity, rfl⟩ := bus
      cases made
      show ((c.system.fabric.buses.insert _ _).find? b).isSome = true
      rw [Table.find?_insert]
      split
      · rfl
      · exact there
    · have told := h.tells_move made fun capacity same => bus ⟨capacity, same⟩
      exact (told.contains b).trans there

lemma contains_runFrom (h : Sound c) {b : BusId}
    (there : c.system.fabric.buses.contains b = true) (ms : List (Move κ)) :
    (c.runFrom ms).system.fabric.buses.contains b = true := by
  induction ms generalizing c with
  | nil => exact there
  | cons m ms ih => exact ih (h.passes_next m).sound (contains_next h there m)

/-- Nothing was reported about a gate that is still to be made. -/
lemma at?_of_mem_reports {ms : List (Move κ)} {r : Report} (mem : r ∈ reports ms) :
    r.at? (run ms).system.fabric.nextGate = none := by
  cases about : r.at? (run ms).system.fabric.nextGate with
  | none => rfl
  | some o =>
    obtain ⟨past, m, ⟨rest, rfl⟩, made⟩ := mem_reportsFrom.mp mem
    obtain ⟨gate, there, -⟩ := System.report?_at_eq_some made about
    have old := (grows_run past ([m] ++ rest) ((run_sound past).gate_lt there)).2
    rw [← List.append_assoc] at old
    exact absurd old (Nat.lt_irrefl _)

/-- What reports about a gate have in common with what happened there. -/
lemma map_about {β : Type} {rs : List Report} {f : Report → β} {f' : Occasion → β}
    (same : ∀ r ∈ rs, ∀ o, r.at? g = some o → f r = f' o) :
    (rs.filter (·.isAbout g)).map f = (rs.filterMap (·.at? g)).map f' := by
  induction rs with
  | nil => rfl
  | cons r rs ih =>
    have rest := ih fun r' mem => same r' (List.mem_cons_of_mem r mem)
    simp only [List.filter_cons, List.filterMap_cons, Report.isAbout]
    cases about : r.at? g with
    | none => exact rest
    | some o => exact congrArg₂ List.cons (same r List.mem_cons_self o about) rest

/-- What happens at a gate is reported. -/
lemma report?_of_occasion? (there : c.system.fabric.gates.find? g = some gate)
    (happened : c.system.occasion? g m = some o) :
    c.system.report? m = some (c.system.fabric.report (some (g, o)) (o.notice gate)) := by
  have about := c.system.at?_report? g m
  rw [happened, Option.bind_eq_some_iff] at about
  obtain ⟨r, made, about⟩ := about
  obtain ⟨gate', there', happened', rfl⟩ := System.report?_at_eq_some made about
  cases there.symm.trans there'
  rw [made]

/-- A gate keeps its name and its bus. -/
lemma keeps_runFrom (h : Sound c) {gate' : Gate} (there : c.system.fabric.gates.find? g = some gate)
    (ms : List (Move κ)) (there' : (c.runFrom ms).system.fabric.gates.find? g = some gate') :
    gate.Keeps gate' := by
  have station := (station_runFrom h (h.gate_lt there) ms).1
  have here : (c.system.station g).gate = some gate := there
  have later : ((c.system.station g).run (c.inputs g ms)).gate = some gate' := by
    rw [← station]
    exact there'
  exact Station.run_keeps here later

/-- A gate that keeps its name and its bus always reports in the same way. -/
lemma report_eq_of_there {ms : List (Move κ)} {gate' : Gate} {b : BusId}
    (there : (run ms).system.fabric.gates.find? g = some gate) (bus : gate.bus = some b)
    (contains : (run ms).system.fabric.buses.contains b = true) {past : List (Move κ)}
    (there' : (run (ms ++ past)).system.fabric.gates.find? g = some gate') (o : Occasion) :
    (run (ms ++ past)).system.fabric.report (some (g, o)) (o.notice gate') =
      ⟨some (g, o), ⟨some b, o.finding gate.name⟩, some b,
        (run (ms ++ past)).system.fabric.records⟩ := by
  rw [run_append] at there' ⊢
  have keeps := keeps_runFrom (run_sound ms) there past there'
  have got : (some b).filter ((run ms).runFrom past).system.fabric.buses.contains = some b :=
    Option.filter_eq_some_iff.mpr ⟨rfl, contains_runFrom (run_sound ms) contains past⟩
  simp only [Fabric.report, Occasion.notice, keeps.name, keeps.bus, bus, got]

/-- What is reported about a gate is tallied at its station. -/
lemma tallies_run_append {ms : List (Move κ)} {kinds : List DiagnosticKind}
    (old : g < (run ms).system.fabric.nextGate)
    (tallies : ((run ms).system.station g).Tallies kinds) (ms' : List (Move κ)) :
    ((run (ms ++ ms')).system.station g).Tallies
      (kinds ++ (((run ms).reportsFrom ms').filter (·.isAbout g)).map (·.record.kind)) := by
  have same : (((run ms).reportsFrom ms').filter (·.isAbout g)).map (·.record.kind) =
      (((run ms).system.station g).occasions ((run ms).inputs g ms')).map (·.kind) := by
    rw [← at?_reportsFrom (run_sound ms) old]
    refine map_about fun r mem o about => ?_
    obtain ⟨past, m, -, reported⟩ := mem_reportsFrom.mp mem
    obtain ⟨_, -, -, rfl⟩ := System.report?_at_eq_some reported about
    rfl
  rw [run_append, (station_runFrom (run_sound ms) old ms').1, same]
  exact tallies.run _

/-- All that is reported about a gate is reported after it was made. -/
lemma about_create (before after : List (Move κ)) (name : String) (capacity : Nat)
    (bus : Option BusId) :
    (reports (before ++ [.create name capacity bus] ++ after)).filter
        (·.isAbout (run before).system.fabric.nextGate) =
      ((run (before ++ [.create name capacity bus])).reportsFrom after).filter
        (·.isAbout (run before).system.fabric.nextGate) := by
  have earlier : (reports before).filter (·.isAbout (run before).system.fabric.nextGate) = [] := by
    rw [List.filter_eq_nil_iff]
    intro r mem
    rw [Report.isAbout, at?_of_mem_reports mem]
    exact Bool.false_ne_true
  have quiet : reports (before ++ [.create name capacity bus]) = reports before := by
    rw [reports, reportsFrom_append]
    exact List.append_nil _
  rw [reports, reportsFrom_append, List.filter_append]
  show (reports (before ++ [.create name capacity bus])).filter _ ++ _ = _
  rw [quiet, earlier, List.nil_append]
  rfl

/-- What was reported about each gate that was built with a bus agrees with its counters, and with what
its dispatcher is at. Each report names the gate, and the event if there is one, and got to the bus;
and there is one for each drop, each panic and each beginning and end of dispatch, which says how many
events the queue held then. On every bus are the reports that got to it, in the order of their
numbers. -/
theorem run_reports (before after : List (Move κ)) (name : String) (capacity : Nat) {b : BusId}
    (there : (run before).system.fabric.buses.contains b = true) :
    let g := (run before).system.fabric.nextGate
    let made := before ++ [.create name capacity (some b)]
    let f := (run (made ++ after)).system.fabric
    let rs := reports (made ++ after)
    let own := rs.filter (·.isAbout g)
    let kinds := own.map (·.record.kind)
    (∀ gate, f.gates.find? g = some gate → gate.counters.Agree kinds) ∧
      (Episodes (kinds.filter (·.isLifecycle)) ∨
        (∃ gate, f.gates.find? g = some gate ∧ gate.handedOut = true) ∧
          ∃ word, Episodes word ∧ kinds.filter (·.isLifecycle) = word ++ [.dispatchStarted]) ∧
      (∀ r, r ∈ own ↔ ∃ past m gate o,
        let s := (run (made ++ past)).system
        past ++ [m] <+: after ∧ s.fabric.gates.find? g = some gate ∧ s.Befalls g gate m o ∧
          r = ⟨some (g, o), ⟨some b, o.finding name⟩, some b, s.fabric.records⟩) ∧
      (∀ b', f.published b' = (rs.filter (·.reached = some b')).map (·.record)) ∧
      rs.Pairwise fun r r' => r.seq < r'.seq := by
  intro g made f rs own kinds
  have sound := run_sound made
  have logs := run_logs (made ++ after)
  have station : (run made).system.station g =
      ⟨some { name, capacity, bus := some b }, none⟩ := by
    rw [run_concat]
    exact (run_sound before).station_create ..
  have here : (run made).system.fabric.gates.find? g = some { name, capacity, bus := some b } :=
    congrArg Station.gate station
  have bus : (run made).system.fabric.buses.contains b = true := by
    rw [run_append]
    exact contains_runFrom (run_sound before) there _
  have own_eq : own = ((run made).reportsFrom after).filter (·.isAbout g) := about_create ..
  have tallies : ((run (made ++ after)).system.station g).Tallies kinds := by
    have blank : ((run made).system.station g).Tallies [] := by
      rw [station]
      exact Station.tallies_blank name capacity (some b)
    have now := tallies_run_append (sound.gate_lt here) blank after
    rwa [List.nil_append, ← own_eq] at now
  refine ⟨tallies.counters, ?_, ?_, logs.published,
    List.pairwise_map.mp (logs.seqs ▸ List.pairwise_lt_range)⟩
  · cases work : ((run (made ++ after)).system.station g).isAtWork with
    | false => exact .inl (tallies.ended work)
    | true =>
      obtain ⟨_, worker, -⟩ := (Option.any_eq_true _ _).mp work
      obtain ⟨a, served, -⟩ := Option.map_eq_some_iff.mp worker
      exact .inr ⟨(run_sound (made ++ after)).there_of_server served, tallies.begun work⟩
  · intro r
    rw [own_eq, List.mem_filter, mem_reportsFrom]
    constructor
    · rintro ⟨⟨past, m, part, reported⟩, about⟩
      obtain ⟨o, about⟩ := Option.isSome_iff_exists.mp about
      rw [← run_append] at reported
      obtain ⟨gate, found, happened, rfl⟩ := System.report?_at_eq_some reported about
      exact ⟨past, m, gate, o, part, found, (run_sound _).befalls_of_occasion? found happened,
        report_eq_of_there here rfl bus found o⟩
    · rintro ⟨past, m, gate, o, part, found, happens, rfl⟩
      have happened := ((run_sound _).occasion?_eq_some_iff found).mpr happens
      have reported := report?_of_occasion? found happened
      rw [report_eq_of_there here rfl bus found o] at reported
      refine ⟨⟨past, m, part, ?_⟩, by simp [Report.isAbout, Report.at?]⟩
      rw [← run_append]
      exact reported

/-- Two gates share a bus. The dispatcher of one is dropped before it starts; the next one is stopped
with an event in the queue, after a panic. -/
theorem run_reports_unstarted_then_stopped :
    let e (n : Nat) : Event := { seq := n, payload := .addItem { sourceItemUid := "lamp" } }
    let before : List (Move Unit) := [.side (.addBus 4), .create "shelf" 1 (some 0)]
    let after : List (Move Unit) :=
      [.gate 1 (.change (.add 1)), .gate 0 (.offer (e 0)), .gate 1 (.offer (e 1)), .gate 1 .handOut,
        .gate 1 .release, .gate 1 .handOut, .gate 1 (.engage 0), .worker 0 .begin,
        .gate 1 (.offer (e 2)), .worker 0 .take, .worker 0 .deliver, .worker 0 (.call ()),
        .gate 1 (.offer (e 3)), .gate 1 (.offer (e 4)), .worker 0 (.panicked "lost"),
        .worker 0 .complete, .cancel 0, .worker 0 .stop]
    let ms := before ++ [.create "desk" 1 (some 0)] ++ after
    ((run ms).system.fabric.published 0).map (fun d => (d.gate, d.kind, d.reason)) =
        [(some "shelf", .gateIdle, none), (some "desk", .gateIdle, none),
          (some "desk", .dispatchStopped, some "discarded=0"), (some "desk", .dispatchStarted, none),
          (some "desk", .queueOverflow, none), (some "desk", .listenerPanicked, some "lost"),
          (some "desk", .dispatchStopped, some "discarded=1")] ∧
      ∃ gate, (run ms).system.fabric.gates.find? 1 = some gate ∧
        gate.counters.Agree
          [.gateIdle, .dispatchStopped, .dispatchStarted, .queueOverflow, .listenerPanicked,
            .dispatchStopped] := by
  intro e before after ms
  have there : (run before).system.fabric.buses.contains 0 = true := by decide +kernel
  have present : ((run ms).system.fabric.gates.find? 1).isSome = true := by decide +kernel
  have kinds : ((reports ms).filter (·.isAbout 1)).map (·.record.kind) =
      [.gateIdle, .dispatchStopped, .dispatchStarted, .queueOverflow, .listenerPanicked,
        .dispatchStopped] := by decide +kernel
  have number : (run before).system.fabric.nextGate = 1 := by decide +kernel
  obtain ⟨gate, found⟩ := Option.isSome_iff_exists.mp present
  obtain ⟨agrees, -, -, published, -⟩ := run_reports before after "desk" 1 there
  have whole : before ++ [.create "desk" 1 (some 0)] ++ after = ms := rfl
  rw [number, whole] at agrees
  refine ⟨?_, gate, found, ?_⟩
  · rw [published]
    decide +kernel
  · rw [← kinds]
    exact agrees gate found

end Chronicle

end EventGates
