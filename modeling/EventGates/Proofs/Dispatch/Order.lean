import EventGates.Proofs.Dispatch.History
import Mathlib.Data.List.Nodup

/-!
# Deliveries are in order and exact

The workers of a gate deliver the accepted events in the order of acceptance. A delivery calls the
listeners that are live when it begins, each once and in the order in which they were added, and all
of them unless its worker is made to stop meanwhile; what callbacks do to the listeners, to the queue
and to the worker makes no difference. The main theorem `run_delivers` says so of every run, and what
follows for a single listener: it sees a part of the accepted events, in order; no event twice; and
every event delivered to the end, if it stays.

Most of it holds of every history. What a delivery begins with and why it breaks off is to be read off
the run instead, from the entries that moves make in a ledger.
-/

namespace EventGates

/-- The events for which a listener was called, in order. -/
def Ledger.seenBy (l : Ledger) (x : ListenerId) : List Event :=
  (l.calls.filter (·.listener = x)).map (·.event)

/-- The deliveries to single listeners, by entry and listener. -/
def Ledger.deliveries (l : Ledger) : List (Nat × ListenerId) :=
  l.passages.flatMap fun p => p.called.map fun x => (p.entry, x)

/-! ## What histories say about listeners -/

/-- A delivery calls nobody twice. -/
lemma Passage.Proper.nodup_called {p : Passage} (h : p.Proper) : p.called.Nodup :=
  h.nodup.sublist h.called.sublist

/-- A delivery lets a listener see its event once, or not at all. -/
lemma Passage.Proper.seen_sublist {p : Passage} (h : p.Proper) (x : ListenerId) :
    ((p.calls.filter (·.listener = x)).map (·.event)).Sublist [p.event] := by
  have once : p.called.count x ≤ 1 := List.nodup_iff_count_le_one.mp h.nodup_called x
  have seen : (p.calls.filter (·.listener = x)).map (·.event) =
      List.replicate (p.called.count x) p.event := by
    simp only [Passage.calls, List.filter_map, List.map_map]
    show ((p.called.filter (· = x)).map fun _ => p.event) = _
    rw [List.filter_eq, List.map_replicate]
  rw [seen]
  exact List.replicate_sublist_replicate p.event |>.mpr once

/-- Parts of single elements, one after the other, are a part of the elements. -/
lemma flatMap_sublist_map {α β : Type} {f : α → List β} {g : α → β} {xs : List α}
    (h : ∀ x ∈ xs, (f x).Sublist [g x]) : (xs.flatMap f).Sublist (xs.map g) := by
  induction xs with
  | nil => exact List.Sublist.slnil
  | cons x xs ih =>
    rw [List.flatMap_cons, List.map_cons, ← List.singleton_append]
    exact (h x List.mem_cons_self).append (ih fun y hy => h y (List.mem_cons_of_mem x hy))

namespace History

variable {accepted gone : List Event} {added : List ListenerId} {ps : List Passage}
  {calls : List Call}

/-- The events that were taken stand in the order of acceptance. -/
lemma map_event_sublist (ascending : ps.Pairwise fun p q => p.entry < q.entry)
    (event : ∀ p ∈ ps, accepted[p.entry]? = some p.event) (k : Nat)
    (from' : ∀ p ∈ ps, k ≤ p.entry) : (ps.map (·.event)).Sublist (accepted.drop k) := by
  induction ps generalizing k with
  | nil => exact List.nil_sublist _
  | cons p ps ih =>
    obtain ⟨after, rest⟩ := List.pairwise_cons.mp ascending
    obtain ⟨lt, here⟩ := List.getElem?_eq_some_iff.mp (event p List.mem_cons_self)
    have later := ih rest (fun q hq => event q (List.mem_cons_of_mem p hq)) (p.entry + 1)
      fun q hq => after q hq
    have split : accepted.drop p.entry = p.event :: accepted.drop (p.entry + 1) := by
      rw [List.drop_eq_getElem_cons lt, here]
    have sub : (p.event :: ps.map (·.event)).Sublist (accepted.drop p.entry) := by
      rw [split]
      exact later.cons_cons _
    exact sub.trans (List.drop_sublist_drop_left _ (from' p List.mem_cons_self))

/-- An entry that was taken is the accepted one of that number. -/
lemma accepted_entry (h : History accepted gone added ps calls) {p : Passage} (hp : p ∈ ps) :
    accepted[p.entry]? = some p.event := by
  obtain ⟨more, rfl⟩ := h.left
  have found := h.event p hp
  rw [List.getElem?_append_left (List.getElem?_eq_some_iff.mp found).1]
  exact found

/-- A listener sees accepted events, in order. -/
lemma seen_sublist (h : History accepted gone added ps calls) (x : ListenerId) :
    ((calls.filter (·.listener = x)).map (·.event)).Sublist accepted := by
  have parts : (calls.filter (·.listener = x)).map (·.event) =
      ps.flatMap fun p => (p.calls.filter (·.listener = x)).map (·.event) := by
    rw [h.made, List.filter_flatMap, List.map_flatMap]
  rw [parts]
  have seen := flatMap_sublist_map fun p hp => (h.proper p hp).seen_sublist x
  exact seen.trans
    (map_event_sublist h.ascending (fun p => h.accepted_entry) 0 fun p _ => Nat.zero_le _)

/-- No entry goes to a listener twice. -/
lemma nodup_deliveries (h : History accepted gone added ps calls) :
    (ps.flatMap fun p => p.called.map fun x => (p.entry, x)).Nodup := by
  rw [List.nodup_flatMap]
  constructor
  · intro p hp
    apply (h.proper p hp).nodup_called.map
    intro x y same
    exact (Prod.mk.inj same).2
  · apply h.ascending.imp
    intro p q lt
    simp only [Function.onFun, List.disjoint_left, List.mem_map]
    rintro _ ⟨x, _, rfl⟩ ⟨y, _, same⟩
    rw [(Prod.mk.inj same).1] at lt
    exact absurd lt (Nat.lt_irrefl _)

end History

/-! ## What entries do to deliveries -/

/-- A delivery in a ledger is over, or it is the current one. -/
lemma Ledger.mem_passages {l : Ledger} {p : Passage} :
    p ∈ l.passages ↔ p ∈ l.finished ∨ l.current = some p := by
  simp only [passages, List.mem_append, Option.mem_toList]

/-- What is done to a gate changes no delivery. -/
lemma GateMove.passages_note (gate : Gate) (l : Ledger) (m : GateMove) :
    (m.note gate l).passages = l.passages := by
  have offered : ∀ e admission, (l.offered e admission).passages = l.passages := by
    intro e admission
    cases admission with
    | accepted => rfl
    | overflow => rfl
    | idle => rfl
  cases m with
  | offer e => exact offered e _
  | enter e => exact offered e _
  | handOut => rfl
  | release => exact List.append_nil _
  | engage t => rfl
  | change c => rfl

/-- What is done to a gate ends no delivery, but for letting go of a dispatcher. -/
lemma GateMove.finished_note (gate : Gate) (l : Ledger) {m : GateMove} (other : m ≠ .release) :
    (m.note gate l).finished = l.finished := by
  have offered : ∀ e admission, (l.offered e admission).finished = l.finished := by
    intro e admission
    cases admission with
    | accepted => rfl
    | overflow => rfl
    | idle => rfl
  cases m with
  | offer e => exact offered e _
  | enter e => exact offered e _
  | release => exact absurd rfl other
  | handOut => rfl
  | engage t => rfl
  | change c => rfl

/-- A worker that calls a listener makes an entry about that, or none. -/
lemma WorkerMove.note_call {κ : Type} (gate : Gate) (l : Ledger) (phase : Phase κ) (k : κ) :
    (call k).note gate l phase = l ∨ ∃ x e, (call k).note gate l phase = l.called x e := by
  cases phase with
  | delivering d =>
    obtain ⟨e, callback, xs⟩ := d
    cases xs with
    | nil => exact .inl rfl
    | cons x xs => exact .inr ⟨x, e, rfl⟩
  | _ => exact .inl rfl

/-- The listeners that a delivery has to call are set when it begins. -/
lemma WorkerMove.snapshot_note {κ : Type} {gate : Gate} {l : Ledger} {phase : Phase κ}
    {m : WorkerMove κ} {p : Passage} {xs : List ListenerId} (hp : p ∈ (m.note gate l phase).passages)
    (set : p.snapshot = some xs) :
    (∃ q ∈ l.passages, q.entry = p.entry ∧ q.snapshot = some xs) ∨
      (m = .deliver ∧ gate.registry.live = xs ∧ ∃ q, l.current = some q ∧ q.entry = p.entry) := by
  have old : p ∈ l.passages → ∃ q ∈ l.passages, q.entry = p.entry ∧ q.snapshot = some xs :=
    fun hp => ⟨p, hp, rfl, set⟩
  cases m with
  | take =>
    simp only [note] at hp
    split at hp
    · exact .inl (old hp)
    · -- an event that is only taken has no listeners to call yet
      obtain hp | ⟨⟨⟩⟩ := Ledger.mem_passages.mp hp
      · exact .inl (old (Ledger.mem_passages.mpr (.inl hp)))
      · cases set
  | deliver =>
    obtain hp | hp := Ledger.mem_passages.mp hp
    · exact .inl (old (Ledger.mem_passages.mpr (.inl hp)))
    · simp only [note, Ledger.begun, Option.map_eq_some_iff] at hp
      obtain ⟨q, current, rfl⟩ := hp
      cases set
      exact .inr ⟨rfl, rfl, q, current, rfl⟩
  | call k =>
    obtain same | ⟨x, e, called⟩ := note_call gate l phase k
    · rw [same] at hp
      exact .inl (old hp)
    · rw [called] at hp
      obtain hp | hp := Ledger.mem_passages.mp hp
      · exact .inl (old (Ledger.mem_passages.mpr (.inl hp)))
      · simp only [Ledger.called, Option.map_eq_some_iff] at hp
        obtain ⟨q, current, rfl⟩ := hp
        exact .inl ⟨q, Ledger.mem_passages.mpr (.inr current), rfl, set⟩
  | complete =>
    simp only [note, Ledger.completed, Ledger.passages, List.mem_append, Option.mem_toList,
      Option.map_eq_some_iff] at hp
    obtain (hp | ⟨q, current, rfl⟩) | ⟨⟨⟩⟩ := hp
    · exact .inl (old (Ledger.mem_passages.mpr (.inl hp)))
    · exact .inl ⟨q, Ledger.mem_passages.mpr (.inr current), rfl, set⟩
  | stop =>
    obtain hp | ⟨⟨⟩⟩ := Ledger.mem_passages.mp hp
    exact .inl (old hp)
  | _ => exact .inl (old hp)

/-- A delivery is over when it is complete, or when the worker stops. -/
lemma WorkerMove.finished_note {κ : Type} {gate : Gate} {l : Ledger} {phase : Phase κ}
    {m : WorkerMove κ} {p : Passage} (hp : p ∈ (m.note gate l phase).finished) :
    p ∈ l.finished ∨ p.completed = true ∨ (m = .stop ∧ l.current = some p) := by
  cases m with
  | take =>
    simp only [note] at hp
    split at hp
    · exact .inl hp
    · exact .inl hp
  | call k =>
    obtain same | ⟨x, e, called⟩ := note_call gate l phase k
    · rw [same] at hp
      exact .inl hp
    · rw [called] at hp
      exact .inl hp
  | complete =>
    simp only [note, Ledger.completed, List.mem_append, Option.mem_toList,
      Option.map_eq_some_iff] at hp
    obtain hp | ⟨q, _, rfl⟩ := hp
    · exact .inl hp
    · exact .inr (.inl rfl)
  | stop =>
    obtain hp | current := Ledger.mem_passages.mp hp
    · exact .inl hp
    · exact .inr (.inr ⟨rfl, current⟩)
  | _ => exact .inl hp

/-! ## Where the ledgers come from -/

namespace Chronicle

variable {κ : Type}

/-- What becomes of the ledger of a gate in a move. -/
inductive Entry (c : Chronicle κ) (g : GateId) : Move κ → Ledger → Prop where
  | same {m : Move κ} : Entry c g m (c.ledgers g)
  | blank {m : Move κ} : Entry c g m {}
  | gate {gate : Gate} {m : GateMove} :
    c.system.fabric.gates.find? g = some gate →
    (c.system.moveGate g m).isSome = true →
    Entry c g (.gate g m) (m.note gate (c.ledgers g))
  | worker {gate : Gate} {w : WorkerId} {a : Worker κ} {m : WorkerMove κ} :
    c.system.workers.find? w = some a →
    a.gate = g →
    c.system.fabric.gates.find? g = some gate →
    (c.system.moveWorker w a a.phase m).isSome = true →
    Entry c g (.worker w m) (m.note gate (c.ledgers g) a.phase)

/-- The ledgers come from the entries that moves make. -/
lemma entry_next (c : Chronicle κ) (m : Move κ) (g : GateId) :
    Entry c g m ((c.next m).ledgers g) := by
  simp only [next]
  split
  · exact .same
  · next s made =>
    cases m with
    | create name capacity bus =>
      by_cases hg : g = c.system.fabric.nextGate
      · simp only [noted, hg, Function.update_self]
        exact .blank
      · simp only [noted, Function.update_of_ne hg]
        exact .same
    | gate g' m =>
      cases there : c.system.fabric.gates.find? g' with
      | none =>
        simp only [noted, entry_of_none there]
        exact .same
      | some gate =>
        by_cases hg : g = g'
        · subst hg
          simp only [noted, entry_of_some there, Function.update_self]
          exact .gate there (Option.isSome_of_eq_some made)
        · simp only [noted, entry_of_some there, Function.update_of_ne hg]
          exact .same
    | worker w m =>
      simp only [System.move, Option.bind_eq_some_iff] at made
      obtain ⟨a, found, made⟩ := made
      cases there : c.system.fabric.gates.find? a.gate with
      | none =>
        simp only [noted, found, entry_of_none there]
        exact .same
      | some gate =>
        by_cases hg : g = a.gate
        · simp only [noted, found, entry_of_some there, hg, Function.update_self]
          exact .worker found rfl there (Option.isSome_of_eq_some made)
        · simp only [noted, found, entry_of_some there, Function.update_of_ne hg]
          exact .same
    | _ => exact .same

/-! ## Runs -/

/-- After every run the records of a gate are in order. -/
lemma run_recorded (ms : List (Move κ)) {g : GateId} {d : Desk κ} (shows : (run ms).Shows g d) :
    d.Recorded :=
  run_desk Desk.recorded_blank (fun _ _ _ h step => step.recorded h) ms shows

/-- The live listeners of a gate that is there. -/
lemma listeners_of_some {s : System κ} {g : GateId} {gate : Gate}
    (there : s.fabric.gates.find? g = some gate) : s.listeners g = gate.registry.live := by
  simp only [System.listeners, there]

/-- A part of a run that ends in a move is one of every longer run. -/
lemma concat_prefix {before ms : List (Move κ)} {m : Move κ} (h : before ++ [m] <+: ms)
    (m' : Move κ) : before ++ [m] <+: ms ++ [m'] := h.trans (List.prefix_append _ _)

/-- What a delivery has to call are the live listeners at the moment when a worker began it. -/
lemma run_begun (ms : List (Move κ)) {g : GateId} {p : Passage} {xs : List ListenerId}
    (hp : p ∈ ((run ms).ledgers g).passages) (set : p.snapshot = some xs) :
    ∃ before w, before ++ [.worker w .deliver] <+: ms ∧
      (run before).system.listeners g = xs ∧
      ∃ q, ((run before).ledgers g).current = some q ∧ q.entry = p.entry := by
  induction ms using List.reverseRecOn generalizing p with
  | nil => cases hp
  | append_singleton ms m ih =>
    have later : ∀ q ∈ ((run ms).ledgers g).passages, q.entry = p.entry → q.snapshot = some xs →
        ∃ before w, before ++ [.worker w .deliver] <+: ms ++ [m] ∧
          (run before).system.listeners g = xs ∧
          ∃ q, ((run before).ledgers g).current = some q ∧ q.entry = p.entry := by
      intro q hq entry set
      obtain ⟨before, w, part, live, r, current, same⟩ := ih hq set
      exact ⟨before, w, concat_prefix part m, live, r, current, same.trans entry⟩
    rw [run_concat] at hp
    -- only the entry of the last move can be new
    have entry := entry_next (run ms) m g
    generalize ((run ms).next m).ledgers g = l at entry hp
    cases entry with
    | same => exact later p hp rfl set
    | blank => cases hp
    | gate _ _ =>
      rw [GateMove.passages_note] at hp
      exact later p hp rfl set
    | @worker gate w a m _ _ there _ =>
      obtain ⟨q, hq, entry, set⟩ | ⟨rfl, live, begun⟩ := WorkerMove.snapshot_note hp set
      · exact later q hq entry set
      · exact ⟨ms, w, List.prefix_refl _, (listeners_of_some there).trans live, begun⟩

/-- A dispatcher that is held delivers nothing. -/
lemma run_current_of_isHeld (ms : List (Move κ)) {g : GateId}
    (held : (run ms).system.isHeld g = true) : ((run ms).ledgers g).current = none := by
  obtain ⟨d, shows, _⟩ := (run_sound ms).desk g
  have fits := (run_recorded ms shows).fits
  rw [Sound.worker_of_isHeld shows held] at fits
  rw [shows.ledger]
  exact fits

/-- A worker that stops is made to: its token is cancelled, or it is dropped. -/
lemma isStopping_of_stop {s s' : System κ} {w : WorkerId} {a : Worker κ}
    (made : s.moveWorker w a a.phase .stop = some s') : s.isStopping a = true := by
  have may : s.mayStop a = true := by
    simp only [System.moveWorker] at made
    split at made
    · assumption
    · cases made
  simp only [System.mayStop] at may
  split at may
  · simp only [System.isStopping, may, Bool.true_or]
  · simp only [Bool.and_eq_true] at may
    exact may.2

/-- A delivery that is over is complete, or broke off when its worker stopped. -/
lemma run_broken (ms : List (Move κ)) {g : GateId} {p : Passage}
    (hp : p ∈ ((run ms).ledgers g).finished) :
    p.completed = true ∨
      ∃ before w a s, before ++ [.worker w .stop] <+: ms ∧
        (run before).system.workers.find? w = some a ∧ a.gate = g ∧
        (run before).system.moveWorker w a a.phase .stop = some s ∧
        ((run before).ledgers g).current = some p := by
  induction ms using List.reverseRecOn with
  | nil => cases hp
  | append_singleton ms m ih =>
    have later : p ∈ ((run ms).ledgers g).finished → p.completed = true ∨
        ∃ before w a s, before ++ [.worker w .stop] <+: ms ++ [m] ∧
          (run before).system.workers.find? w = some a ∧ a.gate = g ∧
          (run before).system.moveWorker w a a.phase .stop = some s ∧
          ((run before).ledgers g).current = some p := by
      intro hp
      obtain whole | ⟨before, w, a, s, part, rest⟩ := ih hp
      · exact .inl whole
      · exact .inr ⟨before, w, a, s, concat_prefix part m, rest⟩
    rw [run_concat] at hp
    have entry := entry_next (run ms) m g
    generalize ((run ms).next m).ledgers g = l at entry hp
    cases entry with
    | same => exact later hp
    | blank => cases hp
    | @gate gate m _ made =>
      by_cases release : m = .release
      · subst release
        -- whoever drops a dispatcher holds it, and then nothing is being delivered
        have held : (run ms).system.isHeld g = true := by
          simp only [System.moveGate] at made
          split at made
          · assumption
          · cases made
        obtain hp | current := Ledger.mem_passages.mp hp
        · exact later hp
        · rw [run_current_of_isHeld ms held] at current
          cases current
      · rw [GateMove.finished_note _ _ release] at hp
        exact later hp
    | @worker gate w a m found own _ made =>
      obtain hp | whole | ⟨rfl, current⟩ := WorkerMove.finished_note hp
      · exact later hp
      · exact .inl whole
      · obtain ⟨s, made⟩ := Option.isSome_iff_exists.mp made
        exact .inr ⟨ms, w, a, s, List.prefix_refl _, found, own, made, current⟩

/-- A delivery that is over is complete, or broke off when its worker was made to stop. -/
lemma run_finished (ms : List (Move κ)) {g : GateId} {p : Passage}
    (hp : p ∈ ((run ms).ledgers g).finished) :
    p.completed = true ∨
      ∃ before w a, before ++ [.worker w .stop] <+: ms ∧
        (run before).system.workers.find? w = some a ∧ a.gate = g ∧
        (run before).system.isStopping a = true ∧
        ((run before).ledgers g).current = some p := by
  obtain whole | ⟨before, w, a, s, part, found, own, made, current⟩ := run_broken ms hp
  · exact .inl whole
  · exact .inr ⟨before, w, a, part, found, own, isStopping_of_stop made, current⟩

/-- The callbacks of a gate in a run. They are made for the events that were taken, which are
accepted ones in the order of acceptance. A delivery calls, from the first on, the listeners that are
live when it begins, each once and in the order of their adds, and all of them if it is not broken off
because its worker is made to stop. So a listener sees a part of the accepted events in order, one
that stays sees every event whose delivery is complete, and none sees an entry twice. -/
theorem run_delivers (ms : List (Move κ)) (g : GateId) :
    let l := (run ms).ledgers g
    -- which events are delivered
    l.calls = l.passages.flatMap Passage.calls ∧
    l.passages.Pairwise (fun p q => p.entry < q.entry) ∧
    (∀ p ∈ l.passages, l.accepted[p.entry]? = some p.event) ∧
    -- which listeners are called
    (∀ p ∈ l.passages, ∀ xs, p.snapshot = some xs →
      xs.Nodup ∧ xs.Sublist l.added ∧
        ∃ before w, before ++ [.worker w .deliver] <+: ms ∧
          (run before).system.listeners g = xs ∧
          ∃ q, ((run before).ledgers g).current = some q ∧ q.entry = p.entry) ∧
    (∀ p ∈ l.passages, p.called <+: p.snapshot.getD []) ∧
    (∀ p ∈ l.passages, p.completed = true → p.snapshot = some p.called) ∧
    (∀ p ∈ l.finished, p.completed = false →
      ∃ before w a, before ++ [.worker w .stop] <+: ms ∧
        (run before).system.workers.find? w = some a ∧ a.gate = g ∧
        (run before).system.isStopping a = true ∧
        ((run before).ledgers g).current = some p) ∧
    -- what a listener sees
    (∀ x, (l.seenBy x).Sublist l.accepted) ∧
    (∀ x,
      (∀ before, before <+: ms → ((run before).ledgers g).passages ≠ [] →
        x ∈ (run before).system.listeners g) →
      ∀ p ∈ l.passages, p.completed = true → x ∈ p.called) ∧
    l.deliveries.Nodup := by
  intro l
  obtain ⟨d, shows, _⟩ := (run_sound ms).desk g
  have history := (run_recorded ms shows).history
  rw [← shows.ledger] at history
  refine ⟨history.made, history.ascending, fun p => history.accepted_entry, ?_,
    fun p hp => (history.proper p hp).called, fun p hp => (history.proper p hp).whole, ?_,
    history.seen_sublist, ?_, history.nodup_deliveries⟩
  · intro p hp xs set
    have nodup := (history.proper p hp).nodup
    have order := history.order p hp
    rw [set] at nodup order
    exact ⟨nodup, order, run_begun ms hp set⟩
  · intro p hp broken
    obtain whole | stopped := run_finished ms hp
    · rw [broken] at whole
      cases whole
    · exact stopped
  · intro x stays p hp complete
    have whole := (history.proper p hp).whole complete
    obtain ⟨before, w, part, live, q, current, _⟩ := run_begun ms hp whole
    rw [← live]
    apply stays before ((List.prefix_append _ _).trans part)
    intro empty
    have mem := Ledger.mem_passages.mpr (.inr current)
    rw [empty] at mem
    cases mem

/-- Listener 1 removes itself when it is called and adds listener 3, listener 2 panics, and the next
delivery is broken off; a second worker goes on with the event after it. -/
theorem run_delivers_across_restart :
    let e (n : Nat) : Event := { seq := n, payload := .addItem { sourceItemUid := "lamp" } }
    let ms : List (Move Unit) :=
      [.create "desk" 4 none, .gate 0 (.change (.add 1)), .gate 0 (.change (.add 2)),
        .gate 0 .handOut, .gate 0 (.engage 0), .gate 0 (.offer (e 0)), .gate 0 (.offer (e 1)),
        .worker 0 .begin, .worker 0 .take, .worker 0 .deliver, .worker 0 (.call ()),
        .gate 0 (.change (.remove 1)), .gate 0 (.change (.add 3)), .worker 0 .returned,
        .worker 0 (.call ()), .worker 0 (.panicked "lost"), .worker 0 .complete, .worker 0 .take,
        .worker 0 .deliver, .worker 0 (.call ()), .cancel 0, .worker 0 .stop, .gate 0 .handOut,
        .gate 0 (.engage 1), .gate 0 (.offer (e 2)), .worker 1 .begin, .worker 1 .take,
        .worker 1 .deliver, .worker 1 (.call ()), .worker 1 .returned, .worker 1 (.call ())]
    let l := (run ms).ledgers 0
    (l.calls.map fun c => (c.listener, c.event.seq)) = [(1, 0), (2, 0), (2, 1), (2, 2), (3, 2)] ∧
      (l.passages.map fun p => (p.entry, p.completed)) = [(0, true), (1, false), (2, false)] ∧
      (l.seenBy 2).map (·.seq) = [0, 1, 2] ∧ (l.seenBy 2).Sublist l.accepted := by
  intro e ms l
  refine ⟨by decide +kernel, by decide +kernel, by decide +kernel, ?_⟩
  obtain ⟨_, _, _, _, _, _, _, seen, _⟩ := run_delivers ms 0
  exact seen 2

end Chronicle

end EventGates
