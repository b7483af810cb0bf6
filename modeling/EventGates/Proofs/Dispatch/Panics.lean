import EventGates.Proofs.Dispatch.Calm
import EventGates.Proofs.Dispatch.Growth
import EventGates.Proofs.Dispatch.Outcries

/-!
# Panics do not spread

Two runs that differ only in which callbacks panic, and with which messages, make the same callbacks
for the same events and lead to the same gates, queues, links and listeners. What differs is the
count of panics at each gate and, on each bus, the records about panics: one for each callback that
panicked, in the order of the callbacks. The main theorem is `run_isolates_panics`.

That everything else is the same comes from `run_calm`. What the panics themselves leave behind is
told by `outcries`, the records about panics that a run makes. They fit the counts and buses
(`Fabric.Told`) and, by the steps at each desk, the callbacks in the ledger (`Marked`).
-/

namespace EventGates

namespace Chronicle

variable {κ : Type}

/-- The record about a panic that is made in a move. -/
def outcry? (c : Chronicle κ) : Move κ → Option Outcry
  | .worker w (.panicked message) =>
    (c.system.workers.find? w).bind fun a =>
      match a.phase with
      | .delivering ⟨e, some _, _⟩ =>
        (c.system.fabric.gates.find? a.gate).map fun gate =>
          .about c.system.fabric a.gate gate ((c.ledgers a.gate).calls.length - 1) e message
      | _ => none
  | .side (.publish bus finding) =>
    if finding.kind = .listenerPanicked then some (.elsewhere c.system.fabric bus finding) else none
  | _ => none

/-- The records about panics that are made in moves, in order. -/
def outcriesFrom (c : Chronicle κ) : List (Move κ) → List Outcry
  | [] => []
  | m :: ms => (c.outcry? m).toList ++ outcriesFrom (c.next m) ms

/-- The records about panics that a run makes, in order. -/
def outcries (ms : List (Move κ)) : List Outcry := outcriesFrom {} ms

lemma outcriesFrom_concat (c : Chronicle κ) (ms : List (Move κ)) (m : Move κ) :
    c.outcriesFrom (ms ++ [m]) = c.outcriesFrom ms ++ ((c.runFrom ms).outcry? m).toList := by
  induction ms generalizing c with
  | nil => exact List.append_nil _
  | cons n ms ih => simp only [List.cons_append, outcriesFrom, ih, List.append_assoc]; rfl

lemma outcries_concat (ms : List (Move κ)) (m : Move κ) :
    outcries (ms ++ [m]) = outcries ms ++ ((run ms).outcry? m).toList :=
  outcriesFrom_concat {} ms m

/-- A record about a panic was made at some moment of the run. -/
lemma outcry_of_mem {ms : List (Move κ)} {o : Outcry} (ho : o ∈ outcries ms) :
    ∃ before m, before ++ [m] <+: ms ∧ (run before).outcry? m = some o := by
  induction ms using List.reverseRecOn with
  | nil => cases ho
  | append_singleton ms m ih =>
    rw [outcries_concat, List.mem_append, Option.mem_toList] at ho
    cases ho with
    | inl earlier =>
      obtain ⟨before, n, part, made⟩ := ih earlier
      exact ⟨before, n, concat_prefix part m, made⟩
    | inr last => exact ⟨ms, m, List.prefix_refl _, last⟩

/-- A record that is made at some moment of the run is one of them. -/
lemma mem_outcries {ms before : List (Move κ)} {m : Move κ} {o : Outcry}
    (part : before ++ [m] <+: ms) (made : (run before).outcry? m = some o) : o ∈ outcries ms := by
  obtain ⟨after, rfl⟩ := part
  induction after using List.reverseRecOn with
  | nil =>
    rw [List.append_nil, outcries_concat, made]
    exact List.mem_append_right _ (List.mem_singleton_self o)
  | append_singleton after n ih =>
    rw [← List.append_assoc, outcries_concat]
    exact List.mem_append_left _ ih

end Chronicle

/-! ## Callbacks under way -/

/-- A callback is under way in this phase. -/
def Phase.isCalling {κ : Type} : Phase κ → Bool
  | .delivering d => d.callback.isSome
  | _ => false

namespace Desk

variable {κ : Type} {d d' : Desk κ}

/-- A callback is under way. -/
def isCalling (d : Desk κ) : Bool := d.worker.any fun entry => entry.2.isCalling

/-- How many callbacks are over. -/
def settled (d : Desk κ) : Nat := d.ledger.calls.length - d.isCalling.toNat

/-- The callback under way is the last one in the ledger. -/
def Named (d : Desk κ) : Prop :=
  ∀ w e k xs, d.worker = some (w, .delivering ⟨e, some k, xs⟩) →
    ∃ x, d.ledger.calls.getLast? = some ⟨x, e⟩

lemma calls_offered (l : Ledger) (e : Event) (admission : Admission) :
    (l.offered e admission).calls = l.calls := by
  cases admission with
  | accepted => rfl
  | overflow => rfl
  | idle => rfl

lemma Step.named (step : d.Step d') (h : d.Named) : d'.Named := by
  cases step with
  | stay => exact h
  | offer e =>
    intro w e' k xs worker
    rw [calls_offered]
    exact h w e' k xs worker
  | enter e =>
    intro w e' k xs worker
    rw [calls_offered]
    exact h w e' k xs worker
  | remove _ => exact h
  | change c => exact h
  | handOut _ => exact h
  | @call gate w l e x xs k =>
    rintro _ _ _ _ ⟨⟩
    exact ⟨x, List.getLast?_concat⟩
  | @proceed gate w l e xs k callback =>
    rintro _ _ _ _ ⟨⟩
    exact h w e k xs rfl
  | _ =>
    intro _ _ _ _ worker
    cases worker

/-- A callback that begins is put down. -/
lemma Step.calls_lt (step : d.Step d') (before : d.isCalling = false)
    (after : d'.isCalling = true) : d.ledger.calls.length < d'.ledger.calls.length := by
  cases step with
  | stay => simp_all
  | call k => simp [Ledger.called]
  | offer e => exact absurd after (by simp_all [isCalling])
  | enter e => exact absurd after (by simp_all [isCalling])
  | remove _ => exact absurd after (by simp_all [isCalling])
  | change c => exact absurd after (by simp_all [isCalling])
  | handOut _ => exact absurd after (by simp_all [isCalling])
  | proceed callback => cases before
  | _ => cases after

/-- Callbacks that are over stay so. -/
lemma Step.settled_le (step : d.Step d') (grows : d.ledger.Grows d'.ledger) : d.settled ≤ d'.settled := by
  have calls := grows.calls.length_le
  simp only [settled]
  cases before : d.isCalling with
  | true =>
    cases d'.isCalling <;> simp only [Bool.toNat_true, Bool.toNat_false] <;> omega
  | false =>
    cases after : d'.isCalling with
    | true =>
      have more := step.calls_lt before after
      simp only [Bool.toNat_true, Bool.toNat_false]
      omega
    | false =>
      simp only [Bool.toNat_false]
      omega

end Desk

namespace Chronicle

variable {κ : Type} {c : Chronicle κ} {os : List Outcry}

/-- The callbacks that panicked are over, and are named in order. -/
structure Marked (c : Chronicle κ) (os : List Outcry) : Prop where
  old : ∀ g, c.system.fabric.nextGate ≤ g → Outcry.callsOf os g = []
  settled : ∀ g d, c.Shows g d → ∀ i ∈ Outcry.callsOf os g, i < d.settled
  ascending : ∀ g, (Outcry.callsOf os g).Pairwise (· < ·)

/-- A move after which nothing is to be added. -/
lemma Marked.keep (h : Marked c os) (sound : Sound c) (m : Move κ) : Marked (c.next m) os := by
  refine ⟨?_, ?_, h.ascending⟩
  · intro g new
    exact h.old g (Nat.le_trans (nextGate_next sound m) new)
  · intro g d' shows' i hi
    have old : g < c.system.fabric.nextGate := by
      by_contra new
      rw [h.old g (Nat.le_of_not_lt new)] at hi
      cases hi
    obtain ⟨d, shows, _⟩ := sound.desk g
    obtain ⟨d'', shows'', step⟩ := (sound.passes_next m).step g d shows
    cases shows'.unique shows''
    have grows : d.ledger.Grows d'.ledger := by
      rw [← shows.ledger, ← shows'.ledger]
      exact grows_next old m
    exact Nat.lt_of_lt_of_le (h.settled g d shows i hi) (step.settled_le grows)

/-- What a panic leads to. -/
lemma next_panicked {w : WorkerId} {a : Worker κ} {e : Event} {k : κ} {xs : List ListenerId}
    (found : c.system.workers.find? w = some a) (phase : a.phase = .delivering ⟨e, some k, xs⟩)
    (message : String) :
    c.next (.worker w (.panicked message)) =
      { c with system := c.system.panicked w a ⟨e, some k, xs⟩ message } := by
  have made : c.system.move (.worker w (.panicked message)) =
      some (c.system.panicked w a ⟨e, some k, xs⟩ message) := by
    simp only [System.move, found, Option.bind_some, phase]
    rfl
  have ledgers : c.noted (.worker w (.panicked message)) = c.ledgers := by
    simp only [noted, found]
    cases there : c.system.fabric.gates.find? a.gate with
    | none => exact entry_of_none there _
    | some gate =>
      rw [entry_of_some there, phase]
      exact Function.update_eq_self _ _
  simp only [next, made, ledgers]

/-- A callback panics. -/
lemma Marked.panicked (h : Marked c os) (sound : Sound c) {w : WorkerId} {a : Worker κ} {e : Event}
    {k : κ} {xs : List ListenerId} (found : c.system.workers.find? w = some a)
    (phase : a.phase = .delivering ⟨e, some k, xs⟩) {gate : Gate}
    (there : c.system.fabric.gates.find? a.gate = some gate)
    (called : (c.ledgers a.gate).calls ≠ []) (message : String) :
    Marked (c.next (.worker w (.panicked message)))
      (os ++
        [.about c.system.fabric a.gate gate ((c.ledgers a.gate).calls.length - 1) e message]) := by
  have kept := h.keep sound (.worker w (.panicked message))
  have old := sound.gate_lt there
  have last : 0 < (c.ledgers a.gate).calls.length := List.length_pos_of_ne_nil called
  refine ⟨?_, ?_, ?_⟩
  · intro g new
    have other : a.gate ≠ g :=
      Nat.ne_of_lt (Nat.lt_of_lt_of_le old (Nat.le_trans (nextGate_next sound _) new))
    rw [Outcry.callsOf_append, Outcry.callsOf_about, if_neg other, kept.old g new]
    rfl
  · intro g d' shows' i hi
    rw [Outcry.callsOf_append, Outcry.callsOf_about, List.mem_append] at hi
    cases hi with
    | inl before => exact kept.settled g d' shows' i before
    | inr new =>
      by_cases here : a.gate = g
      · subst here
        rw [if_pos rfl, List.mem_singleton] at new
        subst new
        rw [next_panicked found phase] at shows'
        have worker : d'.worker = some (w, .delivering ⟨e, none, xs⟩) := by
          refine (shows'.worker w _).mpr ⟨{ a with phase := .delivering ⟨e, none, xs⟩ }, ?_, rfl, rfl⟩
          simp [System.panicked, System.setPhase, System.onFabric, found]
        have rest : d'.isCalling = false := by
          rw [Desk.isCalling, worker]
          rfl
        rw [Desk.settled, ← shows'.ledger, rest]
        exact Nat.sub_lt last Nat.one_pos
      · rw [if_neg here] at new
        cases new
  · intro g
    rw [Outcry.callsOf_append, Outcry.callsOf_about]
    by_cases here : a.gate = g
    · subst here
      obtain ⟨d, shows, _⟩ := sound.desk a.gate
      have calling : d.isCalling = true := by
        rw [Desk.isCalling, (shows.worker w a.phase).mpr ⟨a, found, rfl, rfl⟩, phase]
        rfl
      rw [if_pos rfl, List.pairwise_append]
      refine ⟨h.ascending a.gate, List.pairwise_singleton _ _, ?_⟩
      intro i hi j hj
      rw [List.mem_singleton.mp hj]
      have settled := h.settled a.gate d shows i hi
      rw [Desk.settled, ← shows.ledger, calling] at settled
      exact settled
    · rw [if_neg here, List.append_nil]
      exact h.ascending g

/-! ## Runs -/

/-- A record about a panic is about a callback, or it is published from elsewhere. -/
lemma outcry?_eq_some {m : Move κ} {o : Outcry} (cry : c.outcry? m = some o) :
    (∃ w message a e k xs gate,
      m = .worker w (.panicked message) ∧ c.system.workers.find? w = some a ∧
        a.phase = .delivering ⟨e, some k, xs⟩ ∧ c.system.fabric.gates.find? a.gate = some gate ∧
        o = .about c.system.fabric a.gate gate ((c.ledgers a.gate).calls.length - 1) e message) ∨
      ∃ bus finding, m = .side (.publish bus finding) ∧ finding.kind = .listenerPanicked ∧
        o = .elsewhere c.system.fabric bus finding := by
  simp only [outcry?] at cry
  split at cry
  · next w message =>
    simp only [Option.bind_eq_some_iff] at cry
    obtain ⟨a, found, cry⟩ := cry
    split at cry
    · next e k xs phase =>
      simp only [Option.map_eq_some_iff] at cry
      obtain ⟨gate, there, rfl⟩ := cry
      exact .inl ⟨w, message, a, e, k, xs, gate, rfl, found, phase, there, rfl⟩
    · cases cry
  · next bus finding =>
    split at cry
    · next panicked =>
      cases cry
      exact .inr ⟨bus, finding, rfl, panicked, rfl⟩
    · cases cry
  · cases cry

/-- A callback that panics is cried out. -/
lemma outcry?_panicked (sound : Sound c) {w : WorkerId} {a : Worker κ} {e : Event} {k : κ}
    {xs : List ListenerId} (found : c.system.workers.find? w = some a)
    (phase : a.phase = .delivering ⟨e, some k, xs⟩) (message : String) :
    ∃ gate, c.system.fabric.gates.find? a.gate = some gate ∧
      c.outcry? (.worker w (.panicked message)) =
        some (.about c.system.fabric a.gate gate ((c.ledgers a.gate).calls.length - 1) e
          message) := by
  obtain ⟨d, shows, served⟩ := sound.desk a.gate
  have worker := (shows.worker w a.phase).mpr ⟨a, found, rfl, rfl⟩
  obtain ⟨gate, there, _⟩ := served (by rw [worker]; rfl)
  refine ⟨gate, shows.gate.trans there, ?_⟩
  simp only [outcry?, found, Option.bind_some, phase, shows.gate.trans there, Option.map_some]

/-- A move that makes no record about a panic. -/
lemma told_of_none (sound : Sound c) (told : c.system.fabric.Told os) (marked : c.Marked os)
    {m : Move κ} (none : c.outcry? m = none) : (c.next m).system.fabric.Told os := by
  simp only [next]
  split
  · exact told
  · next s made =>
    cases m with
    | create name capacity bus =>
      cases made
      exact told.addGate (marked.old _ (Nat.le_refl _)) name capacity bus
    | remove g =>
      simp only [System.move] at made
      split at made
      · cases made
      · cases made
        exact told.silent (c.system.fabric.silent_removeGate g)
    | gate g m => exact told.silent (System.silent_moveGate made)
    | worker w m =>
      simp only [System.move, Option.bind_eq_some_iff] at made
      obtain ⟨a, found, made⟩ := made
      refine told.silent (System.silent_moveWorker ?_ made)
      rintro message rfl
      -- only a callback that is under way can panic
      simp only [System.moveWorker] at made
      split at made
      case h_9 e k xs _ phase _ =>
        obtain ⟨_, _, cry⟩ := outcry?_panicked sound found phase message
        rw [none] at cry
        cases cry
      all_goals simp_all
    | cancel t =>
      cases made
      exact told
    | side m =>
      cases made
      cases m with
      | addBus capacity => exact told.addBus capacity
      | publish bus finding =>
        refine told.silent (c.system.silent_moveSide (by rintro _ ⟨⟩) ?_)
        rintro _ _ ⟨⟩ panicked
        simp only [outcry?, if_pos panicked] at none
        cases none
      | _ => exact told.silent (c.system.silent_moveSide (by rintro _ ⟨⟩) (by rintro _ _ ⟨⟩))

/-- The callback under way at a gate is the last one in its ledger. -/
lemma run_named (ms : List (Move κ)) {g : GateId} {d : Desk κ} (shows : (run ms).Shows g d) :
    d.Named :=
  run_desk (fun _ _ _ _ => nofun) (fun _ _ _ h step => step.named h) ms shows

/-- The last callback of a gate where one is under way. -/
lemma run_calls_of_calling (ms : List (Move κ)) {w : WorkerId} {a : Worker κ} {e : Event} {k : κ}
    {xs : List ListenerId} (found : (run ms).system.workers.find? w = some a)
    (phase : a.phase = .delivering ⟨e, some k, xs⟩) :
    ∃ x, ((run ms).ledgers a.gate).calls.getLast? = some ⟨x, e⟩ := by
  obtain ⟨d, shows, _⟩ := (run_sound ms).desk a.gate
  have worker := (shows.worker w a.phase).mpr ⟨a, found, rfl, rfl⟩
  rw [phase] at worker
  rw [shows.ledger]
  exact run_named ms shows w e k xs worker

/-- Every run tells of its panics. -/
lemma run_told (ms : List (Move κ)) :
    (run ms).system.fabric.Told (outcries ms) ∧ (run ms).Marked (outcries ms) := by
  induction ms using List.reverseRecOn with
  | nil =>
    refine ⟨⟨nofun, fun _ => rfl, fun _ _ => rfl⟩, fun _ _ => rfl, ?_, fun _ => .nil⟩
    intro g d _ i hi
    cases hi
  | append_singleton ms m ih =>
    obtain ⟨told, marked⟩ := ih
    have sound := run_sound ms
    rw [run_concat, outcries_concat]
    cases cry : (run ms).outcry? m with
    | none =>
      rw [Option.toList_none, List.append_nil]
      exact ⟨told_of_none sound told marked cry, marked.keep sound m⟩
    | some o =>
      rw [Option.toList_some]
      obtain ⟨w, message, a, e, k, xs, gate, rfl, found, phase, there, rfl⟩ |
        ⟨bus, finding, rfl, panicked, rfl⟩ := outcry?_eq_some cry
      · obtain ⟨x, last⟩ := run_calls_of_calling ms found phase
        have called : ((run ms).ledgers a.gate).calls ≠ [] := by
          intro empty
          rw [empty] at last
          cases last
        refine ⟨?_, marked.panicked sound found phase there called message⟩
        rw [next_panicked found phase]
        exact told.panicked there _ e message
      · have kept := marked.keep sound (.side (.publish bus finding))
        have calls : ∀ g, Outcry.callsOf
            (outcries ms ++ [.elsewhere (run ms).system.fabric bus finding]) g =
            Outcry.callsOf (outcries ms) g := by
          intro g
          rw [Outcry.callsOf_append, Outcry.callsOf_elsewhere, List.append_nil]
        refine ⟨told.publish rfl panicked ?_ rfl rfl, ⟨?_, ?_, ?_⟩⟩
        · intro g n counted
          rw [calls]
          exact told.gates g n counted
        · intro g new
          rw [calls]
          exact kept.old g new
        · intro g d shows i hi
          rw [calls] at hi
          exact kept.settled g d shows i hi
        · intro g
          rw [calls]
          exact kept.ascending g

/-- At a moment of a run a worker makes a callback: it is that of the gate `g` with the number `i`. -/
structure Calls (before : List (Move κ)) (w : WorkerId) (g : GateId) (i : Nat) (call : Call) :
    Prop where
  worker : ∃ a k xs, (run before).system.workers.find? w = some a ∧ a.gate = g ∧
    a.phase = .delivering ⟨call.event, some k, xs⟩
  last : ((run before).ledgers g).calls.length = i + 1
  call : ((run before).ledgers g).calls[i]? = some call

/-- The callback of a worker that makes one. -/
lemma run_calls (before : List (Move κ)) {w : WorkerId} {a : Worker κ} {e : Event} {k : κ}
    {xs : List ListenerId} (found : (run before).system.workers.find? w = some a)
    (phase : a.phase = .delivering ⟨e, some k, xs⟩) :
    ∃ x, Calls before w a.gate (((run before).ledgers a.gate).calls.length - 1) ⟨x, e⟩ := by
  obtain ⟨x, last⟩ := run_calls_of_calling before found phase
  refine ⟨x, ⟨a, k, xs, found, rfl, phase⟩, ?_, ?_⟩
  · have called : ((run before).ledgers a.gate).calls ≠ [] := by
      intro empty
      rw [empty] at last
      cases last
    exact (Nat.succ_pred_eq_of_pos (List.length_pos_of_ne_nil called)).symm
  · rw [← List.getLast?_eq_getElem?]
    exact last

/-- The records about callbacks are about those that panicked. -/
lemma mem_outcries_iff {ms : List (Move κ)} {o : Outcry} {g : GateId} {i : Nat} :
    o ∈ outcries ms ∧ o.source = some (g, i) ↔
      ∃ before w message gate call,
        before ++ [.worker w (.panicked message)] <+: ms ∧ Calls before w g i call ∧
          (run before).system.fabric.gates.find? g = some gate ∧
          o = .about (run before).system.fabric g gate i call.event message := by
  constructor
  · rintro ⟨ho, source⟩
    obtain ⟨before, m, part, cry⟩ := outcry_of_mem ho
    obtain ⟨w, message, a, e, k, xs, gate, rfl, found, phase, there, rfl⟩ |
      ⟨bus, finding, rfl, panicked, rfl⟩ := outcry?_eq_some cry
    · cases source
      obtain ⟨x, calls⟩ := run_calls before found phase
      exact ⟨before, w, message, gate, ⟨x, e⟩, part, calls, there, rfl⟩
    · cases source
  · rintro ⟨before, w, message, gate, call, part, calls, there, rfl⟩
    obtain ⟨a, k, xs, found, rfl, phase⟩ := calls.worker
    obtain ⟨gate', there', cry⟩ := outcry?_panicked (run_sound before) found phase message
    cases there.symm.trans there'
    rw [calls.last] at cry
    exact ⟨mem_outcries part cry, rfl⟩

/-- Two runs that differ only in which callbacks panic are at every moment alike, but for what panics
leave behind. In each, a gate counts the callbacks that panicked; a bus has one record about each of
them whose gate publishes there, in their order; and the records are about exactly the callbacks that
panicked, which are named in the order in which the gate made them. -/
theorem run_isolates_panics {ms ms' : List (Move κ)}
    (same : ms.map Move.calm = ms'.map Move.calm) :
    (∀ n,
      (run (ms.take n)).ledgers = (run (ms'.take n)).ledgers ∧
        (run (ms.take n)).system.calm = (run (ms'.take n)).system.calm) ∧
      ∀ rs ∈ [ms, ms'],
        (∀ g gate, (run rs).system.fabric.gates.find? g = some gate →
          gate.counters.listenerPanics = (Outcry.callsOf (outcries rs) g).length) ∧
        (∀ b bus, (run rs).system.fabric.buses.find? b = some bus →
          (bus.published.filter (·.kind = .listenerPanicked)).map (·.toFinding) =
            Outcry.findingsOn (outcries rs) b) ∧
        (∀ g, (Outcry.callsOf (outcries rs) g).Pairwise (· < ·)) ∧
        ∀ o g i, o ∈ outcries rs ∧ o.source = some (g, i) ↔
          ∃ before w message gate call,
            before ++ [.worker w (.panicked message)] <+: rs ∧ Calls before w g i call ∧
              (run before).system.fabric.gates.find? g = some gate ∧
              o = .about (run before).system.fabric g gate i call.event message := by
  constructor
  · intro n
    have calm : (run (ms.take n)).calm = (run (ms'.take n)).calm := by
      rw [run_calm, run_calm (ms'.take n), List.map_take, List.map_take, same]
    have ledgers : (run (ms.take n)).calm.ledgers = (run (ms'.take n)).calm.ledgers := by rw [calm]
    exact ⟨ledgers, congrArg Chronicle.system calm⟩
  · intro rs _
    obtain ⟨told, marked⟩ := run_told rs
    refine ⟨?_, ?_, marked.ascending, fun _ _ _ => mem_outcries_iff⟩
    · intro g gate there
      exact told.gates g _ (congrArg _ there)
    · intro b bus there
      have records := told.buses b
      rw [Fabric.panicsOn, there] at records
      exact records

/-- The first listener of a gate removes itself and panics, the second panics on the next event, which
waited meanwhile; both gates of the bus are the same as if the callbacks had returned. -/
theorem run_isolates_panics_while_staging :
    let e (n : Nat) : Event := { seq := n, payload := .addItem { sourceItemUid := "lamp" } }
    let ms (first second : WorkerMove Unit) : List (Move Unit) :=
      [.side (.addBus 4), .create "desk" 4 (some 0), .create "shelf" 4 (some 0),
        .gate 0 (.change (.add 1)), .gate 0 (.change (.add 2)), .gate 0 .handOut,
        .gate 0 (.engage 0), .gate 0 (.offer (e 0)), .gate 0 (.offer (e 1)), .worker 0 .begin,
        .worker 0 .take, .worker 0 .deliver, .worker 0 (.call ()), .gate 0 (.change (.remove 1)),
        .gate 1 (.offer (e 2)), .worker 0 first, .worker 0 (.call ()), .worker 0 .returned,
        .worker 0 .complete, .worker 0 .take, .worker 0 .deliver, .worker 0 (.call ()),
        .worker 0 second, .worker 0 .complete]
    let quiet := ms .returned .returned
    let loud := ms (.panicked "lost") (.panicked "late")
    quiet.map Move.calm = loud.map Move.calm ∧
      (((run loud).ledgers 0).calls.map fun c => (c.listener, c.event.seq)) =
        [(1, 0), (2, 0), (2, 1)] ∧
      Outcry.callsOf (outcries loud) 0 = [0, 2] ∧
      ((Outcry.findingsOn (outcries loud) 0).map (·.reason)) = [some "lost", some "late"] ∧
      (run quiet).ledgers = (run loud).ledgers ∧
      (run quiet).system.calm = (run loud).system.calm := by
  intro e ms quiet loud
  have same : quiet.map Move.calm = loud.map Move.calm := rfl
  refine ⟨same, by decide +kernel, by decide +kernel, by decide +kernel, ?_⟩
  obtain ⟨alike, _⟩ := run_isolates_panics same
  exact alike quiet.length

end Chronicle

end EventGates
