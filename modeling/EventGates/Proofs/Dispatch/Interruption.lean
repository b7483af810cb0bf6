import EventGates.Proofs.Dispatch.Accounting
import EventGates.Proofs.Dispatch.Courses
import EventGates.Proofs.Dispatch.Growth
import EventGates.Proofs.Dispatch.Polling

/-!
# Interrupted deliveries

A delivery that is over either called every listener that was live when it began, or was broken off
because its worker was made to stop: before the first callback, or while a callback was suspended.
Wherever a worker ends, it leaves its gate in order: staged changes are made (`Registry.Settles`), the
queue is empty and the gate closed, and the event that it had is never delivered again. Once its token is
cancelled it takes no further event. The main theorem `run_interrupts` says so of every run in which
workers are polled.

That nothing is staged outside a delivery is the invariant `Desk.Orderly`.
-/

namespace EventGates

/-! ## Registries of gates -/

/-- The end of a delivery makes no change where nothing is staged. -/
lemma Registry.endDelivery_of_resting {r : Registry ListenerId} (rest : r.delivering = false)
    (adds : r.pendingAdds = []) (removes : r.pendingRemoves = []) : r.endDelivery = r := by
  obtain ⟨live, delivering, pendingAdds, pendingRemoves⟩ := r
  subst rest adds removes
  simp [endDelivery]

/-- An event is being delivered in this phase. -/
def Phase.isDelivering {κ : Type} : Phase κ → Bool
  | .delivering _ => true
  | _ => false

namespace Desk

variable {κ : Type} {d d' : Desk κ} {gate : Gate}

/-- The worker at the desk delivers an event. -/
def isDelivering (d : Desk κ) : Bool := d.worker.any fun entry => entry.2.isDelivering

/-- The registry is one that changes and deliveries lead to, and is in a delivery if the worker is. -/
structure Orderly (d : Desk κ) : Prop where
  reachable : ∀ gate, d.gate = some gate → gate.registry.Reachable
  delivering : ∀ gate, d.gate = some gate → gate.registry.delivering = d.isDelivering

/-- Outside a delivery nothing is staged. -/
lemma Orderly.resting (h : d.Orderly) (there : d.gate = some gate) (rest : d.isDelivering = false) :
    gate.registry.delivering = false ∧ gate.registry.pendingAdds = [] ∧
      gate.registry.pendingRemoves = [] := by
  have delivering := (h.delivering gate there).trans rest
  exact ⟨delivering, (h.reachable gate there).nothing_staged delivering⟩

lemma Orderly.keep (h : d.Orderly) {gate' : Gate} {worker : Option (WorkerId × Phase κ)}
    {l : Ledger} (there : d.gate = some gate) (registry : gate'.registry = gate.registry)
    (phase : d.isDelivering = worker.any (·.2.isDelivering)) :
    Orderly ⟨some gate', worker, l⟩ := by
  refine ⟨?_, ?_⟩
  · rintro _ ⟨⟩
    rw [registry]
    exact h.reachable gate there
  · rintro _ ⟨⟩
    rw [registry]
    exact (h.delivering gate there).trans phase

lemma Step.orderly (step : d.Step d') (h : d.Orderly) : d'.Orderly := by
  cases step with
  | stay => exact h
  | create name capacity bus =>
    refine ⟨?_, ?_⟩
    · rintro _ ⟨⟩
      exact .new
    · rintro _ ⟨⟩
      rfl
  | remove _ => exact ⟨nofun, nofun⟩
  | offer e => exact h.keep rfl (Gate.registry_offer _ e) rfl
  | enter e => exact h.keep rfl (Gate.registry_push _ e) rfl
  | change c =>
    refine ⟨?_, ?_⟩
    · rintro _ ⟨⟩
      exact (h.reachable _ rfl).change c
    · rintro _ ⟨⟩
      exact (Registry.delivering_change _ c).trans (h.delivering _ rfl)
  | handOut out =>
    obtain ⟨_, rfl⟩ := Gate.handOut_eq_some out
    exact h.keep rfl rfl rfl
  | release _ => exact h.keep rfl rfl rfl
  | engage w _ => exact h.keep rfl rfl rfl
  | begin => exact h.keep rfl rfl rfl
  | rest => exact h.keep rfl rfl rfl
  | @take gate gate' w phase l e free taken =>
    obtain ⟨_, _, rfl⟩ := Gate.pop_eq_some taken
    refine h.keep rfl rfl ?_
    cases phase with
    | delivering d => cases free
    | _ => rfl
  | deliver =>
    refine ⟨?_, ?_⟩
    · rintro _ ⟨⟩
      exact (h.reachable _ rfl).beginDelivery (h.delivering _ rfl)
    · rintro _ ⟨⟩
      rfl
  | call k => exact h.keep rfl rfl rfl
  | proceed callback => exact h.keep rfl rfl rfl
  | panicked => exact h.keep rfl rfl rfl
  | complete =>
    refine ⟨?_, ?_⟩
    · rintro _ ⟨⟩
      exact (h.reachable _ rfl).endDelivery (h.delivering _ rfl)
    · rintro _ ⟨⟩
      rfl
  | @stop gate w phase l _ =>
    cases phase with
    | delivering d =>
      refine ⟨?_, ?_⟩
      · rintro _ ⟨⟩
        exact (h.reachable _ rfl).endDelivery (h.delivering _ rfl)
      · rintro _ ⟨⟩
        rfl
    | _ => exact h.keep rfl rfl rfl

/-- What becomes of a gate when its worker stops is the same wherever that is. -/
lemma Orderly.leave (h : d.Orderly) (there : d.gate = some gate) {w : WorkerId} {phase : Phase κ}
    (worker : d.worker = some (w, phase)) :
    phase.leave gate = { gate with registry := gate.registry.endDelivery } := by
  cases phase with
  | delivering d => rfl
  | _ =>
    have rest : d.isDelivering = false := by
      rw [isDelivering, worker]
      rfl
    obtain ⟨delivering, adds, removes⟩ := h.resting there rest
    rw [Registry.endDelivery_of_resting delivering adds removes]
    rfl

end Desk

namespace Chronicle

variable {κ : Type}

lemma run_orderly (ms : List (Move κ)) {g : GateId} {d : Desk κ} (shows : (run ms).Shows g d) :
    d.Orderly :=
  run_desk ⟨nofun, nofun⟩ (fun _ _ _ h step => step.orderly h) ms shows

/-! ## Workers that stop -/

/-- The entry of a delivery names it. -/
lemma run_passages_unique (ms : List (Move κ)) {g : GateId} {p q : Passage}
    (hp : p ∈ ((run ms).ledgers g).passages) (hq : q ∈ ((run ms).ledgers g).passages)
    (same : q.entry = p.entry) : q = p := by
  obtain ⟨d, shows, _⟩ := (run_sound ms).desk g
  have ascending := (run_recorded ms shows).history.ascending
  rw [← shows.ledger] at ascending
  by_contra ne
  obtain ⟨i, hi, rfl⟩ := List.mem_iff_getElem.mp hp
  obtain ⟨j, hj, rfl⟩ := List.mem_iff_getElem.mp hq
  rw [List.pairwise_iff_getElem] at ascending
  obtain less | rfl | more := Nat.lt_trichotomy i j
  · exact absurd (ascending i j hi hj less) (by omega)
  · exact ne rfl
  · exact absurd (ascending j i hj hi more) (by omega)

/-- A worker that stops leaves its gate in order, and the event that it had is over for good. -/
lemma run_ended (before after : List (Move κ)) {w : WorkerId} {a : Worker κ} {s : System κ}
    (found : (run before).system.workers.find? w = some a)
    (made : (run before).system.move (.worker w .stop) = some s) :
    ∃ gate, (run before).system.fabric.gates.find? a.gate = some gate ∧
      s.fabric.gates.find? a.gate =
        some { gate with
          registry := gate.registry.endDelivery, running := false, queue := []
          handedOut := false } ∧
      s.workers.find? w = none ∧
      ∀ p, ((run before).ledgers a.gate).current = some p →
        let l := (run (before ++ [.worker w .stop] ++ after)).ledgers a.gate
        p ∈ l.finished ∧ ∀ q ∈ l.passages, q.entry = p.entry → q = p := by
  have moved : run (before ++ [.worker w .stop]) =
      { system := s, ledgers := (run before).noted (.worker w .stop) } := by
    rw [run_concat, next_of_made made]
  simp only [System.move, found, Option.bind_some] at made
  obtain ⟨-, rfl⟩ := System.moveWorker_stop_eq_some made
  obtain ⟨d, shows, served⟩ := (run_sound before).desk a.gate
  have worker := (shows.worker w a.phase).mpr ⟨a, found, rfl, rfl⟩
  obtain ⟨gate, here, _⟩ := served (by rw [worker]; rfl)
  have there := shows.gate.trans here
  have turns := System.turns_finish w there
  refine ⟨gate, there, ?_, ?_, ?_⟩
  · rw [turns.gates, if_pos rfl, (run_orderly before shows).leave here worker]
    rfl
  · rw [turns.workers, if_pos rfl]
  · intro p current l
    have old : a.gate < (run (before ++ [.worker w .stop])).system.fabric.nextGate := by
      rw [run_concat]
      exact Nat.lt_of_lt_of_le ((run_sound before).gate_lt there)
        (nextGate_next (run_sound before) _)
    have past : p ∈ ((run (before ++ [.worker w .stop])).ledgers a.gate).finished := by
      rw [moved]
      simp only [noted, found, entry_of_some there, Function.update_self, WorkerMove.note,
        Ledger.ended]
      exact Ledger.mem_passages.mpr (.inr current)
    have still : p ∈ l.finished := (grows_run _ after old).1.finished.mem past
    exact ⟨still, fun q hq => run_passages_unique _ (Ledger.mem_passages.mpr (.inl still)) hq⟩

end Chronicle

/-! ## Workers whose tokens are cancelled -/

/-- Events leave the queue when somebody takes them or lets go of it. -/
lemma GateMove.gone_note (gate : Gate) (l : Ledger) {m : GateMove} (given : m ≠ .handOut)
    (dropped : m ≠ .release) : (m.note gate l).gone = l.gone := by
  cases m with
  | offer e =>
    simp only [note]
    cases (gate.offer e).2 <;> rfl
  | enter e =>
    simp only [note]
    cases (gate.push e).2 <;> rfl
  | handOut => exact absurd rfl given
  | release => exact absurd rfl dropped
  | _ => rfl

namespace Chronicle

variable {κ : Type}

section Cancelled

variable {c : Chronicle κ} {g : GateId} {w : WorkerId} {t : TokenId}

/-- A token that is cancelled stays so. -/
lemma isCancelled_next (cancelled : c.system.isCancelled t = true) (m : Move κ) :
    (c.next m).system.isCancelled t = true := by
  simp only [next]
  split
  · exact cancelled
  · next s made =>
    cases m with
    | remove g =>
      simp only [System.move] at made
      split at made
      · cases made
      · cases made
        exact cancelled
    | gate g m =>
      obtain ⟨f, rfl, _⟩ | ⟨t', _, _, rfl⟩ := System.moveGate_cases made
      · exact cancelled
      · exact cancelled
    | worker w m =>
      simp only [System.move, Option.bind_eq_some_iff] at made
      obtain ⟨a, _, made⟩ := made
      rw [System.isCancelled, (System.moveWorker_cases made).1.1]
      exact cancelled
    | cancel t' =>
      cases made
      rw [System.isCancelled_iff] at cancelled ⊢
      exact List.mem_cons_of_mem t' cancelled
    | side m =>
      cases made
      rw [System.isCancelled, System.cancelled_moveSide]
      exact cancelled
    | create name capacity bus =>
      cases made
      exact cancelled

/-- A worker whose token is cancelled takes no event, and neither does anyone else while it is
there. -/
lemma gone_next (h : Sound c) {m : Move κ} {a a' : Worker κ}
    (found : c.system.workers.find? w = some a) (own : a.gate = g)
    (cancelled : c.system.isCancelled a.token = true)
    (found' : (c.next m).system.workers.find? w = some a') :
    ((c.next m).ledgers g).gone = (c.ledgers g).gone := by
  obtain ⟨d, shows, served⟩ := h.desk g
  have worker := (shows.worker w a.phase).mpr ⟨a, found, own, rfl⟩
  obtain ⟨gate, here, out⟩ := served (by rw [worker]; rfl)
  have there := shows.gate.trans here
  have grows := (grows_next (h.gate_lt there) m).gone
  have entry := entry_next c m g
  generalize (c.next m).ledgers g = l at entry grows
  cases entry with
  | same => rfl
  | blank => exact (List.prefix_nil.mp grows).symm
  | @gate gate' m there' made =>
    cases there.symm.trans there'
    cases m with
    | handOut =>
      -- the queue is with the worker
      obtain ⟨s, made⟩ := Option.isSome_iff_exists.mp made
      simp only [System.moveGate, Option.map_eq_some_iff] at made
      obtain ⟨f, handed, -⟩ := made
      obtain ⟨gate', _, found, moved, -⟩ := Fabric.handOut_eq_some handed
      cases there.symm.trans found
      rw [(Gate.handOut_eq_some moved).1] at out
      cases out
    | release =>
      simp only [System.moveGate] at made
      split at made
      · next held => exact absurd own ((System.isHeld_elim held).2 w a found)
      · cases made
    | _ => exact GateMove.gone_note _ _ (by rintro ⟨⟩) (by rintro ⟨⟩)
  | @worker gate' v b m found_b own_b _ made =>
    have same : v = w := by
      have other := (shows.worker v b.phase).mpr ⟨b, found_b, own_b, rfl⟩
      exact (Prod.mk.inj (Option.some.inj (other.symm.trans worker))).1
    subst same
    cases found.symm.trans found_b
    obtain ⟨s, made⟩ := Option.isSome_iff_exists.mp made
    cases m with
    | take =>
      simp only [System.moveWorker] at made
      split at made
      all_goals simp_all [System.isStopping]
    | stop =>
      have moved : c.next (.worker v .stop) =
          { system := s, ledgers := c.noted (.worker v .stop) } := by
        apply next_of_made
        simp only [System.move, found, Option.bind_some, made]
      obtain ⟨-, rfl⟩ := System.moveWorker_stop_eq_some made
      rw [moved, System.workers_finish, Table.find?_erase, if_pos rfl] at found'
      cases found'
    | call k =>
      obtain same | ⟨x, e, called⟩ := WorkerMove.note_call gate' (c.ledgers g) a.phase k
      · rw [same]
      · rw [called]
        rfl
    | _ => rfl

end Cancelled

/-- From the moment when its token is cancelled, a worker takes no event any more. -/
lemma run_gone (before after : List (Move κ)) {w : WorkerId} {a a' : Worker κ}
    (found : (run before).system.workers.find? w = some a)
    (cancelled : (run before).system.isCancelled a.token = true)
    (found' : (run (before ++ after)).system.workers.find? w = some a') :
    ((run (before ++ after)).ledgers a.gate).gone = ((run before).ledgers a.gate).gone := by
  have kept : (run (before ++ after)).system.isCancelled a.token = true ∧
      w < (run (before ++ after)).system.nextWorker ∧
      ∀ b, (run (before ++ after)).system.workers.find? w = some b →
        b.gate = a.gate ∧ b.token = a.token ∧
        ((run (before ++ after)).ledgers a.gate).gone = ((run before).ledgers a.gate).gone := by
    clear found'
    induction after using List.reverseRecOn with
    | nil =>
      rw [List.append_nil]
      refine ⟨cancelled, (run_sound before).worker_lt found, ?_⟩
      intro b again
      cases found.symm.trans again
      exact ⟨rfl, rfl, rfl⟩
    | append_singleton after m ih =>
      obtain ⟨cancelled, old, ih⟩ := ih
      have sound := run_sound (before ++ after)
      rw [← List.append_assoc, run_concat]
      refine ⟨isCancelled_next cancelled m, Nat.lt_of_lt_of_le old (nextWorker_next sound m), ?_⟩
      intro b' there'
      obtain ⟨b, there, gate, token, -⟩ | ⟨new, -⟩ := worker_next there'
      · obtain ⟨own, same, gone⟩ := ih b there
        refine ⟨gate.trans own, token.trans same, ?_⟩
        rw [← gone]
        exact gone_next sound there own (same ▸ cancelled) there'
      · exact absurd new (Nat.ne_of_lt old)
  exact (kept.2.2 a' found').2.2

/-! ## Deliveries that are broken off -/

/-- A gate counts the deliveries that ran to their end. -/
lemma run_delivered (ms : List (Move κ)) {g : GateId} {gate : Gate}
    (there : (run ms).system.fabric.gates.find? g = some gate) :
    gate.counters.delivered = ((run ms).ledgers g).finished.countP (·.completed) := by
  obtain ⟨d, shows, _⟩ := (run_sound ms).desk g
  have accounted : d.Accounted :=
    run_desk (fun _ => nofun) (fun _ _ _ h step => step.accounted h) ms shows
  rw [shows.ledger]
  exact (accounted gate (shows.gate.symm.trans there)).delivered.symm

/-- A delivery that is being made when its worker stops has not begun, or is in a callback. -/
lemma run_current_of_stop (before : List (Move κ)) {w : WorkerId} {a : Worker κ} {s : System κ}
    {p : Passage} (found : (run before).system.workers.find? w = some a)
    (made : (run before).system.moveWorker w a a.phase .stop = some s)
    (current : ((run before).ledgers a.gate).current = some p) :
    p.completed = false ∧
      (a.phase = .holding p.event ∧ p.snapshot = none ∧ p.called = [] ∨
        ∃ k xs, a.phase = .delivering ⟨p.event, some k, xs⟩ ∧
          p.snapshot = some (p.called ++ xs)) := by
  have waiting := System.isWaiting_of_mayStop (System.moveWorker_stop_eq_some made).1
  obtain ⟨d, shows, _⟩ := (run_sound before).desk a.gate
  have fits := (run_recorded before shows).fits
  rw [(shows.worker w a.phase).mpr ⟨a, found, rfl, rfl⟩, ← shows.ledger, current] at fits
  cases phase : a.phase with
  | holding e =>
    simp only [Option.map_some, phase] at fits
    obtain ⟨n, same⟩ := fits
    cases same
    exact ⟨rfl, .inl ⟨rfl, rfl, rfl⟩⟩
  | delivering delivery =>
    obtain ⟨e, callback, xs⟩ := delivery
    simp only [Option.map_some, phase] at fits
    obtain ⟨n, called, same⟩ := fits
    cases same
    rw [phase] at waiting
    obtain ⟨k, rfl⟩ := Option.isSome_iff_exists.mp waiting
    exact ⟨rfl, .inr ⟨k, xs, rfl, rfl⟩⟩
  | _ =>
    -- a worker that has no event delivers none
    simp only [Option.map_some, phase] at fits
    cases fits

/-- A delivery that is over and did not call every listener was broken off when its worker was made to
stop, before the first callback or while a callback was suspended. -/
lemma run_suspended (asleep : κ → Bool) (is : List (Instant κ)) {p : Passage}
    (finished : p ∈ ((run (Polling.run asleep is).moves).ledgers g).finished)
    (incomplete : p.completed = false) :
    ∃ before w a, before ++ [.worker w .stop] <+: (Polling.run asleep is).moves ∧
      (run before).system.workers.find? w = some a ∧ a.gate = g ∧
      (run before).system.isStopping a = true ∧ ((run before).ledgers g).current = some p ∧
      (a.phase = .holding p.event ∧ p.snapshot = none ∧ p.called = [] ∨
        ∃ k xs, a.phase = .delivering ⟨p.event, some k, xs⟩ ∧ asleep k = true ∧
          p.snapshot = some (p.called ++ xs)) := by
  obtain whole | ⟨before, w, a, s, part, found, rfl, made, current⟩ := run_broken _ finished
  · rw [incomplete] at whole
    cases whole
  · refine ⟨before, w, a, part, found, rfl, isStopping_of_stop made, current, ?_⟩
    obtain ⟨-, first | ⟨k, xs, phase, snapshot⟩⟩ := run_current_of_stop before found made current
    · exact .inl first
    · exact .inr ⟨k, xs, phase, Polling.run_heeds asleep is part found phase, snapshot⟩

/-- Deliveries and their interruptions, in every run in which workers are polled. The listeners that
are called are the first ones of those that were live, and a gate counts exactly the deliveries that
called them all. Any other delivery that is over was broken off when its worker was made to stop,
before the first callback or while a callback was suspended; so one that began and none of whose
callbacks was ever suspended called all of them, whatever was cancelled meanwhile. A worker whose
token is cancelled takes no further event. When a worker ends, staged changes are made and nothing is
being delivered, the gate does not run and its queue is empty, and the event that was being delivered is
over for good. -/
theorem run_interrupts (asleep : κ → Bool) (is : List (Instant κ)) (g : GateId) :
    let ms := (Polling.run asleep is).moves
    let l := (run ms).ledgers g
    l.calls = l.passages.flatMap Passage.calls ∧
    (∀ p ∈ l.passages, p.called <+: p.snapshot.getD []) ∧
    (∀ gate, (run ms).system.fabric.gates.find? g = some gate →
      gate.counters.delivered = l.finished.countP (·.completed)) ∧
    (∀ p ∈ l.finished, p.completed = true → p.snapshot = some p.called) ∧
    (∀ p ∈ l.finished, p.completed = false →
      ∃ before w a, before ++ [.worker w .stop] <+: ms ∧
        (run before).system.workers.find? w = some a ∧ a.gate = g ∧
        (run before).system.isStopping a = true ∧ ((run before).ledgers g).current = some p ∧
        (a.phase = .holding p.event ∧ p.snapshot = none ∧ p.called = [] ∨
          ∃ k xs, a.phase = .delivering ⟨p.event, some k, xs⟩ ∧ asleep k = true ∧
            p.snapshot = some (p.called ++ xs))) ∧
    (∀ p ∈ l.finished, p.snapshot ≠ none →
      (∀ before w a e k xs, before <+: ms → (run before).system.workers.find? w = some a →
        a.gate = g → (∃ q, ((run before).ledgers g).current = some q ∧ q.entry = p.entry) →
        a.phase = .delivering ⟨e, some k, xs⟩ → asleep k = false) →
      p.completed = true) ∧
    (∀ before after w a a', before ++ after <+: ms →
      (run before).system.workers.find? w = some a → a.gate = g →
      (run before).system.isCancelled a.token = true →
      (run (before ++ after)).system.workers.find? w = some a' →
      ((run (before ++ after)).ledgers g).gone = ((run before).ledgers g).gone) ∧
    ∀ before w a s, before ++ [.worker w .stop] <+: ms →
      (run before).system.workers.find? w = some a → a.gate = g →
      (run before).system.move (.worker w .stop) = some s →
      ∃ gate, (run before).system.fabric.gates.find? g = some gate ∧
        s.fabric.gates.find? g =
          some { gate with
            registry := gate.registry.endDelivery, running := false, queue := []
            handedOut := false } ∧
        gate.registry.Settles gate.registry.endDelivery ∧
        s.workers.find? w = none ∧
        ∀ p, ((run before).ledgers g).current = some p →
          p ∈ l.finished ∧ ∀ q ∈ l.passages, q.entry = p.entry → q = p := by
  intro ms l
  obtain ⟨d, shows, _⟩ := (run_sound ms).desk g
  have history := (run_recorded ms shows).history
  rw [← shows.ledger] at history
  have member : ∀ p ∈ l.finished, p ∈ l.passages := fun p hp => Ledger.mem_passages.mpr (.inl hp)
  refine ⟨history.made, fun p hp => (history.proper p hp).called, fun _ => run_delivered ms,
    fun p hp => (history.proper p (member p hp)).whole, fun _ => run_suspended asleep is, ?_, ?_, ?_⟩
  · intro p hp begun awake
    cases whole : p.completed with
    | true => rfl
    | false =>
      obtain ⟨before, w, a, part, found, own, -, current, ⟨-, none, -⟩ | ⟨k, xs, phase, sleeps, -⟩⟩ :=
        run_suspended asleep is hp whole
      · exact absurd none begun
      · rw [awake before w a _ k xs ((List.prefix_append _ _).trans part) found own
          ⟨p, current, rfl⟩ phase] at sleeps
        cases sleeps
  · rintro before after w a a' - found rfl cancelled found'
    exact run_gone before after found cancelled found'
  · rintro before w a s part found rfl moved
    obtain ⟨after, rest⟩ := part
    obtain ⟨gate, there, left, gone, once⟩ := run_ended before after found moved
    rw [rest] at once
    exact ⟨gate, there, left, gate.registry.settles_endDelivery, gone, once⟩

/-- An event for the lamp. -/
def lampEvent (n : Nat) : Event := { seq := n, payload := .addItem { sourceItemUid := "lamp" } }

/-- The first of three callbacks cancels the token of its worker, adds a listener twice, removes itself and
returns at once. The second one is suspended. -/
def suspendedDelivery : List (Instant Bool) :=
  ([.create "desk" 4 none, .gate 0 (.change (.add 1)), .gate 0 (.change (.add 2)),
      .gate 0 (.change (.add 3)), .gate 0 .handOut, .gate 0 (.engage 0),
      .gate 0 (.offer (lampEvent 0)), .gate 0 (.offer (lampEvent 1))].map .move) ++
    [.poll 0] ++
    ([.worker 0 .begin, .worker 0 .take, .worker 0 .deliver, .worker 0 (.call false), .cancel 0,
      .gate 0 (.change (.add 4)), .gate 0 (.change (.remove 1)), .gate 0 (.change (.add 4)),
      .worker 0 .stop, .worker 0 .returned, .worker 0 (.call true), .worker 0 .stop].map .move) ++
    [.pend 0]

/-- The worker that was cancelled ends in the second callback, so the third listener is left out. The added
listener is there then, and the removed one is not. -/
theorem run_interrupts_while_suspended :
    let before := (Polling.run id suspendedDelivery).moves
    let c := run (Polling.run id (suspendedDelivery ++ [.move (.worker 0 .stop)])).moves
    ((run before).system.fabric.gates.find? 0).map (·.registry) =
        some ⟨[1, 2, 3], true, [4, 4], [1]⟩ ∧
      (c.ledgers 0).finished.map (fun p => (p.event.seq, p.snapshot, p.called, p.completed)) =
        [(0, some [1, 2, 3], [1, 2], false)] ∧
      (c.ledgers 0).gone.map (·.seq) = [0, 1] ∧ (c.ledgers 0).discardedAtEnd = 1 ∧
      ∃ gate, c.system.fabric.gates.find? 0 = some gate ∧
        gate.registry.live = [2, 3, 4] ∧ gate.registry.delivering = false ∧
        gate.running = false ∧ gate.queue = [] := by
  intro before c
  have allowed : (Polling.run id suspendedDelivery).allows (.worker 0 .stop) = true := by
    decide +kernel
  have moves : (Polling.run id (suspendedDelivery ++ [.move (.worker 0 .stop)])).moves =
      before ++ [.worker 0 .stop] := by
    rw [Polling.run_concat, Polling.next, if_pos allowed]
  have staged : ((run before).system.fabric.gates.find? 0).map (·.registry) =
      some ⟨[1, 2, 3], true, [4, 4], [1]⟩ := by decide +kernel
  have served : ((run before).system.workers.find? 0).map (·.gate) = some 0 := by decide +kernel
  have stops : ((run before).system.move (.worker 0 .stop)).isSome = true := by decide +kernel
  obtain ⟨a, found, own⟩ := Option.map_eq_some_iff.mp served
  obtain ⟨s, made⟩ := Option.isSome_iff_exists.mp stops
  obtain ⟨-, -, -, -, -, -, -, ends⟩ :=
    run_interrupts id (suspendedDelivery ++ [.move (.worker 0 .stop)]) 0
  obtain ⟨gate, there, left, settles, -⟩ :=
    ends before 0 a s (moves ▸ List.prefix_refl _) found own made
  have last : c.system = s := by
    simp only [c, moves, run_concat, next_of_made made]
  have registry : gate.registry = ⟨[1, 2, 3], true, [4, 4], [1]⟩ := by
    rw [there] at staged
    exact Option.some.inj staged
  have live : gate.registry.endDelivery.live = [2, 3, 4] := by
    rw [settles.live, registry]
    decide
  exact ⟨staged, by decide +kernel, by decide +kernel, by decide +kernel, _, last ▸ left, live,
    settles.resting, rfl, rfl⟩

end Chronicle

end EventGates
