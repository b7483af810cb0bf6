import EventGates.Proofs.Dispatch.Interruption
import EventGates.Proofs.Dispatch.Locality
import Mathlib.Data.List.Permutation

/-!
# Restarts

A dispatcher that is handed out finds its gate as it would be if it had just been made, with the name,
the capacity, the bus, the links and the live listeners that it has, but for its number and what it has
counted: nothing is queued, nothing is staged and nothing is being delivered. `Gate.build` makes such a
gate, and `run_restarts` says that from there on both go through the same, restarts included.

This rests on two things. However a dispatcher ends, it leaves nothing behind but the listeners
(`run_handOut`); and what becomes of a gate is a matter of its station and the inputs
(`station_runFrom`), whatever it counted (`Station.run_since`). That no earlier event is delivered is read
off the ledger, where a delivery has the number of events that left the queue before.
-/

namespace EventGates

/-- A new gate with the live listeners of this one. -/
def Gate.anew (gate : Gate) : Gate where
  name := gate.name
  capacity := gate.capacity
  bus := gate.bus
  registry := { live := gate.registry.live }

/-- The gate with its dispatcher handed out. -/
def Gate.opened (gate : Gate) : Gate := { gate with running := true, handedOut := true }

/-- The moves that make a gate like this one, under the number `n` and linked with the gates `ps`. -/
def Gate.build {κ : Type} (gate : Gate) (n : GateId) (ps : List GateId) : List (Move κ) :=
  [.create gate.name gate.capacity gate.bus] ++
    (gate.registry.live.map fun x => .gate n (.change (.add x))) ++
    ps.map fun p => .side (.link n p)

/-- A move by which the dispatcher of a gate ends: it is dropped before it is put to work, or its worker
stops. -/
inductive System.Ends {κ : Type} (s : System κ) (g : GateId) : Move κ → Prop where
  | dropped : Ends s g (.gate g .release)
  | stopped {w : WorkerId} {a : Worker κ} :
    s.workers.find? w = some a →
    a.gate = g →
    Ends s g (.worker w .stop)

/-! ## Listeners and links of a new gate -/

lemma Registry.changes_add {α : Type} [DecidableEq α] {xs : List α} (nodup : xs.Nodup) :
    Registry.changes {} (xs.map .add) = { live := xs } := by
  induction xs using List.reverseRecOn with
  | nil => rfl
  | append_singleton xs x ih =>
    obtain ⟨before, -, apart⟩ := List.nodup_append.mp nodup
    have new : x ∉ xs := fun mem => apart x mem x (List.mem_singleton_self x) rfl
    rw [List.map_append, Registry.changes, List.foldl_append]
    show Registry.change (Registry.changes {} (xs.map .add)) (.add x) = _
    rw [ih before, Registry.change_add_of_resting rfl, Registry.enlist, if_neg new]

lemma Links.entries_linkEach {l : Links} {n : GateId} (live : l.isLive n = true) {ps : List GateId}
    (others : ∀ p ∈ ps, p ≠ n ∧ l.isLive p = true) (nodup : (l.entries n ++ ps).Nodup) :
    (ps.foldl (fun l p => (l.link n p).1) l).entries n = l.entries n ++ ps ∧
      ∀ x, (ps.foldl (fun l p => (l.link n p).1) l).isLive x = l.isLive x := by
  induction ps generalizing l with
  | nil => exact ⟨(List.append_nil _).symm, fun _ => rfl⟩
  | cons p ps ih =>
    obtain ⟨ne, there⟩ := others p List.mem_cons_self
    have new : p ∉ l.entries n := by
      intro mem
      exact (List.nodup_append.mp nodup).2.2 p mem p List.mem_cons_self rfl
    have linked : (l.link n p).1.entries n = l.entries n ++ [p] :=
      (Links.entries_link ne.symm live there new n).trans (if_pos rfl)
    obtain ⟨entries, same⟩ := @ih (l.link n p).1 (by rw [Links.isLive_link, live])
      (fun q mem => by
        rw [Links.isLive_link]
        exact others q (List.mem_cons_of_mem p mem))
      (by rw [linked, List.append_assoc]; exact nodup)
    refine ⟨?_, fun x => (same x).trans (Links.isLive_link l n p x)⟩
    rw [List.foldl_cons, entries, linked, List.append_assoc]
    rfl

lemma Fabric.links_changeListeners (f : Fabric) (g : GateId) (c : Registry.Change ListenerId) :
    (f.changeListeners g c).links = f.links := by
  cases c with
  | add x =>
    simp only [changeListeners, addListener, changeRegistry]
    split <;> rfl
  | remove x =>
    simp only [changeListeners, removeListener, changeRegistry]
    split <;> rfl
  | clear => rfl

lemma Station.run_adds {κ : Type} (gate : Gate) (xs : List ListenerId) :
    Station.run (κ := κ) ⟨some gate, none⟩ (xs.map fun x => .change (.add x)) =
        ⟨some { gate with registry := gate.registry.changes (xs.map .add) }, none⟩ ∧
      Station.calls (κ := κ) ⟨some gate, none⟩ (xs.map fun x => .change (.add x)) = [] := by
  induction xs generalizing gate with
  | nil => exact ⟨rfl, rfl⟩
  | cons x xs ih => exact ih { gate with registry := gate.registry.change (.add x) }

namespace Chronicle

variable {κ : Type} {c : Chronicle κ} {g : GateId} {gate : Gate}

lemma inputs_adds (xs : List ListenerId) :
    c.inputs g (xs.map fun x => .gate g (.change (.add x))) = xs.map fun x => .change (.add x) := by
  induction xs generalizing c with
  | nil => rfl
  | cons x xs ih =>
    rw [List.map_cons, inputs, ih, System.input?, if_pos rfl]
    rfl

lemma inputs_links (ps : List GateId) :
    c.inputs g (ps.map fun p => .side (.link g p)) = [] := by
  induction ps generalizing c with
  | nil => rfl
  | cons p ps ih => exact ih

end Chronicle

/-! ## Deliveries from a moment on -/

/-- A delivery that is noted goes on with one that was, or has the number of the next event. -/
lemma WorkerMove.entry_note {κ : Type} {gate : Gate} {l : Ledger} {phase : Phase κ}
    {m : WorkerMove κ} {p : Passage} (hp : p ∈ (m.note gate l phase).passages) :
    (∃ q ∈ l.passages, q.entry = p.entry) ∨ l.gone.length ≤ p.entry := by
  have old : p ∈ l.passages → ∃ q ∈ l.passages, q.entry = p.entry := fun hp => ⟨p, hp, rfl⟩
  have revised : ∀ {f : Passage → Passage}, (∀ q, (f q).entry = q.entry) →
      p ∈ l.finished ∨ l.current.map f = some p → ∃ q ∈ l.passages, q.entry = p.entry := by
    intro f same hp
    obtain hp | hp := hp
    · exact old (Ledger.mem_passages.mpr (.inl hp))
    · obtain ⟨q, current, rfl⟩ := Option.map_eq_some_iff.mp hp
      exact ⟨q, Ledger.mem_passages.mpr (.inr current), (same q).symm⟩
  cases m with
  | take =>
    simp only [note] at hp
    split at hp
    · exact .inl (old hp)
    · obtain hp | ⟨⟨⟩⟩ := Ledger.mem_passages.mp hp
      · exact .inl (old (Ledger.mem_passages.mpr (.inl hp)))
      · exact .inr (Nat.le_refl _)
  | deliver => exact .inl (revised (fun _ => by rfl) (Ledger.mem_passages.mp hp))
  | call k =>
    obtain same | ⟨x, e, called⟩ := note_call gate l phase k
    · rw [same] at hp
      exact .inl (old hp)
    · rw [called] at hp
      exact .inl (revised (fun _ => by rfl) (Ledger.mem_passages.mp hp))
  | complete =>
    simp only [note, Ledger.completed, Ledger.passages, List.mem_append, Option.mem_toList] at hp
    obtain (hp | hp) | ⟨⟨⟩⟩ := hp
    · exact .inl (revised (f := id) (fun _ => rfl) (.inl hp))
    · exact .inl (revised (fun _ => by rfl) (.inr hp))
  | stop =>
    obtain hp | ⟨⟨⟩⟩ := Ledger.mem_passages.mp hp
    exact .inl (old hp)
  | _ => exact .inl (old hp)

namespace Chronicle

variable {κ : Type} {c : Chronicle κ} {g : GateId} {gate : Gate}

/-- From a moment on, deliveries begin with events that are still to be taken then. -/
lemma run_entries (ms after : List (Move κ)) (old : g < (run ms).system.fabric.nextGate)
    {p : Passage} (hp : p ∈ ((run (ms ++ after)).ledgers g).passages) :
    (∃ q ∈ ((run ms).ledgers g).passages, q.entry = p.entry) ∨
      ((run ms).ledgers g).gone.length ≤ p.entry := by
  induction after using List.reverseRecOn generalizing p with
  | nil =>
    rw [List.append_nil] at hp
    exact .inl ⟨p, hp, rfl⟩
  | append_singleton after m ih =>
    rw [← List.append_assoc, run_concat] at hp
    have grows := (grows_run ms after old).1
    have entry := entry_next (run (ms ++ after)) m g
    generalize ((run (ms ++ after)).next m).ledgers g = l at entry hp
    cases entry with
    | same => exact ih hp
    | blank => cases hp
    | @gate gate m _ _ =>
      rw [GateMove.passages_note] at hp
      exact ih hp
    | @worker gate w a m _ _ _ _ =>
      obtain ⟨q, hq, entry⟩ | later := WorkerMove.entry_note hp
      · rw [← entry]
        exact ih hq
      · exact .inr (Nat.le_trans grows.gone.length_le later)

/-- Where nobody serves a gate and nothing is queued, the deliveries so far are over, and those to come
are of events that are still to be accepted. -/
lemma run_later (ms after : List (Move κ)) (there : (run ms).system.fabric.gates.find? g = some gate)
    (free : (run ms).system.server g = none) (drained : gate.queue = []) :
    let before := (run ms).ledgers g
    let l := (run (ms ++ after)).ledgers g
    ∃ new, l.passages = before.passages ++ new ∧
      l.calls = before.calls ++ new.flatMap Passage.calls ∧
      ∀ p ∈ new, before.accepted.length ≤ p.entry ∧ l.accepted[p.entry]? = some p.event := by
  intro before l
  have old := (run_sound ms).gate_lt there
  obtain ⟨d, shows, _⟩ := (run_sound ms).desk g
  obtain ⟨d', shows', _⟩ := (run_sound (ms ++ after)).desk g
  have recorded := run_recorded ms shows
  have history := (run_recorded (ms ++ after) shows').history
  rw [← shows'.ledger] at history
  have gone : before.accepted = before.gone := by
    have queue := recorded.queue gate (shows.gate.symm.trans there)
    rw [← shows.ledger, drained, List.append_nil] at queue
    exact queue
  have past : before.passages = before.finished := by
    have none := recorded.fits
    rw [(run_sound ms).worker_of_server shows free, ← shows.ledger] at none
    exact (congrArg (before.finished ++ Option.toList ·) none).trans (List.append_nil _)
  obtain ⟨more, finished⟩ := (grows_run ms after old).1.finished
  have passages : l.passages = before.passages ++ (more ++ l.current.toList) := by
    rw [past, ← List.append_assoc, finished]
    rfl
  have made : before.calls = before.passages.flatMap Passage.calls := by
    have made := recorded.history.made
    rw [← shows.ledger] at made
    exact made
  refine ⟨_, passages, ?_, ?_⟩
  · rw [history.made, made, ← List.flatMap_append, ← passages]
  · intro p hp
    have mem : p ∈ l.passages := by
      rw [passages]
      exact List.mem_append_right _ hp
    refine ⟨?_, history.accepted_entry mem⟩
    rw [gone]
    obtain ⟨q, hq, same⟩ | later := run_entries ms after old mem
    · -- the deliveries that came before have smaller numbers
      have ascending := history.ascending
      rw [passages] at ascending
      have less := (List.pairwise_append.mp ascending).2.2 q hq p hp
      omega
    · exact later

/-! ## New gates -/

lemma links_adds (xs : List ListenerId) :
    (c.runFrom (xs.map fun x => .gate g (.change (.add x)))).system.fabric.links =
      c.system.fabric.links := by
  induction xs generalizing c with
  | nil => rfl
  | cons x xs ih => exact ih.trans (Fabric.links_changeListeners ..)

lemma links_linkEach {n : GateId} {ps : List GateId} (others : ∀ p ∈ ps, p ≠ n) :
    (c.runFrom (ps.map fun p => .side (.link n p))).system.fabric.links =
      ps.foldl (fun l p => (l.link n p).1) c.system.fabric.links := by
  induction ps generalizing c with
  | nil => rfl
  | cons p ps ih =>
    have linked : (c.next (.side (.link n p))).system.fabric.links =
        (c.system.fabric.links.link n p).1 := by
      show (System.onFabric c.system _).fabric.links = _
      simp only [System.onFabric, Fabric.link, if_neg (others p List.mem_cons_self).symm]
    rw [List.foldl_cons, ← linked]
    exact ih fun q mem => others q (List.mem_cons_of_mem p mem)

/-- A gate that is built is a new one with the listeners and the links that it is to have. -/
lemma run_build (ms : List (Move κ)) (nodup : gate.registry.live.Nodup) (ps : List GateId) :
    let n := (run ms).system.fabric.nextGate
    let built := run (ms ++ gate.build n ps)
    built.system.station n = ⟨some gate.anew, none⟩ ∧ (built.ledgers n).calls = [] ∧
      n < built.system.fabric.nextGate ∧
      (ps.Nodup → (∀ p ∈ ps, p < n ∧ (run ms).system.fabric.links.isLive p = true) →
        built.system.fabric.links.partners n = ps) := by
  intro n built
  let adds : List (Move κ) := gate.registry.live.map fun x => .gate n (.change (.add x))
  let links : List (Move κ) := ps.map fun p => .side (.link n p)
  let made := run (ms ++ [.create gate.name gate.capacity gate.bus])
  have created : made = (run ms).next (.create gate.name gate.capacity gate.bus) :=
    run_concat _ _
  have old : n < made.system.fabric.nextGate := by
    rw [created]
    exact Nat.lt_succ_self n
  have parts : built = (made.runFrom adds).runFrom links := by
    rw [← runFrom_append, ← run_append, List.append_assoc]
    rfl
  have blank : made.system.station n =
      ⟨some { name := gate.name, capacity := gate.capacity, bus := gate.bus }, none⟩ := by
    rw [created]
    exact (run_sound ms).station_create ..
  have silent : (made.ledgers n).calls = [] := by
    rw [created]
    show (Function.update (Chronicle.run ms).ledgers n {} n).calls = []
    rw [Function.update_self]
  have inputs : made.inputs n (adds ++ links) =
      gate.registry.live.map fun x => .change (.add x) := by
    rw [inputs_append, inputs_adds, inputs_links, List.append_nil]
  obtain ⟨station, calls⟩ := station_runFrom (run_sound _) old (adds ++ links)
  obtain ⟨run, none⟩ := Station.run_adds (κ := κ)
    { name := gate.name, capacity := gate.capacity, bus := gate.bus } gate.registry.live
  rw [runFrom_append, ← parts] at station calls
  refine ⟨?_, ?_, ?_, ?_⟩
  · rw [station, inputs, blank, run, Registry.changes_add nodup]
    rfl
  · rw [calls, inputs, blank, none, silent]
    rfl
  · have grown := (grows_run _ (adds ++ links) old).2
    rw [run_append, runFrom_append] at grown
    rw [parts]
    exact grown
  · intro distinct others
    have before : (made.runFrom adds).system.fabric.links =
        (Chronicle.run ms).system.fabric.links.addGate n := by
      rw [links_adds, created]
      rfl
    have live : ((Chronicle.run ms).system.fabric.links.addGate n).isLive n = true := by
      rw [Links.isLive_addGate, decide_eq_true rfl, Bool.true_or]
    have others' : ∀ p ∈ ps, p ≠ n ∧
        ((Chronicle.run ms).system.fabric.links.addGate n).isLive p = true := by
      intro p mem
      obtain ⟨lt, there⟩ := others p mem
      refine ⟨Nat.ne_of_lt lt, ?_⟩
      rw [Links.isLive_addGate, there, Bool.or_true]
    have none : ((Chronicle.run ms).system.fabric.links.addGate n).entries n = [] := by
      rw [Links.entries_addGate, if_pos rfl]
    obtain ⟨entries, same⟩ := Links.entries_linkEach live others' (by rw [none]; exact distinct)
    rw [parts, links_linkEach fun p mem => (others' p mem).1, before, Links.partners, entries, none,
      List.nil_append, List.filter_eq_self]
    intro p mem
    rw [same]
    exact (others' p mem).2

/-! ## The dispatcher is handed out -/

/-- Nothing is staged at a gate whose dispatcher is not out. -/
lemma run_resting (ms : List (Move κ)) (there : (run ms).system.fabric.gates.find? g = some gate)
    (back : gate.handedOut = false) :
    (run ms).system.server g = none ∧ gate.registry = { live := gate.registry.live } := by
  have free : (run ms).system.server g = none := by
    cases served : (run ms).system.server g with
    | none => rfl
    | some a =>
      obtain ⟨gate', there', out⟩ := (run_sound ms).there_of_server served
      cases there.symm.trans there'
      rw [back] at out
      cases out
  obtain ⟨d, shows, _⟩ := (run_sound ms).desk g
  have resting : d.isDelivering = false := by
    rw [Desk.isDelivering, (run_sound ms).worker_of_server shows free]
    rfl
  obtain ⟨delivering, adds, removes⟩ :=
    (run_orderly ms shows).resting (shows.gate.symm.trans there) resting
  refine ⟨free, ?_⟩
  generalize gate.registry = r at delivering adds removes
  obtain ⟨live, _, _, _⟩ := r
  subst delivering adds removes
  rfl

/-- A gate whose dispatcher is handed out is a new one that has its listeners, but for the counters. -/
lemma run_handOut (ms : List (Move κ)) (there : (run ms).system.fabric.gates.find? g = some gate)
    (back : gate.handedOut = false) :
    (run (ms ++ [.gate g .handOut])).system.station g =
      ⟨some { gate.anew.opened with counters := gate.counters }, none⟩ := by
  obtain ⟨free, registry⟩ := run_resting ms there back
  have out : gate.handOut = some { gate.anew.opened with counters := gate.counters } := by
    simp only [Gate.handOut, back, Bool.false_eq_true, if_false, Gate.anew, Gate.opened, ← registry]
  rw [run_concat, (run_sound ms).station_gate]
  simp only [System.station, there, free, System.gateInput, Station.step, out, Option.getD_some,
    Option.map_none]

lemma links_handOut (c : Chronicle κ) (g : GateId) :
    (c.next (.gate g .handOut)).system.fabric.links = c.system.fabric.links := by
  cases handed : c.system.fabric.handOut g with
  | none =>
    rw [next_of_refused]
    simp only [System.move, System.moveGate, handed, Option.map_none]
  | some f =>
    have made : c.system.move (.gate g .handOut) = some { c.system with fabric := f } := by
      simp only [System.move, System.moveGate, handed, Option.map_some]
    obtain ⟨_, _, _, _, rfl⟩ := Fabric.handOut_eq_some handed
    rw [next_of_made made]

/-- However a dispatcher ends, it can be handed out again. -/
lemma run_back (ms : List (Move κ)) {m : Move κ} {s : System κ} (ends : (run ms).system.Ends g m)
    (made : (run ms).system.move m = some s) :
    ∃ gate, s.fabric.gates.find? g = some gate ∧ gate.handedOut = false := by
  cases ends with
  | dropped =>
    simp only [System.move, System.moveGate] at made
    split at made
    · next held =>
      cases made
      obtain ⟨⟨gate, there, _⟩, _⟩ := System.isHeld_elim held
      refine ⟨gate.close.drain.takeBack, ?_, rfl⟩
      exact (Fabric.find?_endDispatch ..).trans ((if_pos rfl).trans (congrArg _ there))
    · cases made
  | @stopped w a found own =>
    subst own
    obtain ⟨gate, -, ended, -⟩ := run_ended ms [] found made
    exact ⟨_, ended, rfl⟩

/-- The dispatcher of a gate is handed out, for the first time or after the one before has ended, in
whatever way. Then the gate is a new one of the same name, capacity, bus, links and live listeners whose
dispatcher is handed out, but for its counters: so its queue is empty, no change is staged and nothing is
being delivered. From there on the same inputs, restarts included, lead to the same callbacks at both and
to the same state, with what it had counted added. Every delivery that begins then is of an event that
was accepted since. -/
theorem run_restarts (ms : List (Move κ)) {g : GateId} {gate : Gate}
    (there : (run ms).system.fabric.gates.find? g = some gate) (back : gate.handedOut = false) :
    let c := run (ms ++ [.gate g .handOut])
    let ps := c.system.fabric.links.partners g
    -- the gate when its dispatcher is handed out
    c.system.station g = ⟨some { gate.anew.opened with counters := gate.counters }, none⟩ ∧
    c.system.fabric.links = (run ms).system.fabric.links ∧
    -- a new gate
    (∀ ms' : List (Move κ),
      let n := (run ms').system.fabric.nextGate
      let c' := run (ms' ++ gate.build n ps ++ [.gate n .handOut])
      c'.system.station n = ⟨some gate.anew.opened, none⟩ ∧
      (ps.Nodup → (∀ p ∈ ps, p < n ∧ (run ms').system.fabric.links.isLive p = true) →
        c'.system.fabric.links.partners n = ps) ∧
      -- what both go through
      ∀ after after', c.inputs g after = c'.inputs n after' →
        ((c.runFrom after).ledgers g).calls =
            (c.ledgers g).calls ++ ((c'.runFrom after').ledgers n).calls ∧
          (c.runFrom after).system.station g =
            ((c'.runFrom after').system.station n).since gate.counters) ∧
    ∀ after,
      let l := (c.runFrom after).ledgers g
      -- what is delivered
      (∃ new, l.passages = (c.ledgers g).passages ++ new ∧
        l.calls = (c.ledgers g).calls ++ new.flatMap Passage.calls ∧
        ∀ p ∈ new, (c.ledgers g).accepted.length ≤ p.entry ∧
          l.accepted[p.entry]? = some p.event) ∧
      -- the next restart
      ∀ m s, (c.runFrom after).system.Ends g m → (c.runFrom after).system.move m = some s →
        ∃ gate', s.fabric.gates.find? g = some gate' ∧ gate'.handedOut = false := by
  intro c ps
  have handed : c = (run ms).next (.gate g .handOut) := run_concat _ _
  have sound : c.Sound := run_sound _
  have station := run_handOut ms there back
  have old : g < c.system.fabric.nextGate := sound.gate_lt (congrArg Station.gate station)
  refine ⟨station, ?_, ?_, ?_⟩
  · rw [handed, links_handOut]
  · intro ms' n c'
    obtain ⟨d, shows, _⟩ := (run_sound ms).desk g
    have nodup := ((run_recorded ms shows).listeners gate (shows.gate.symm.trans there)).nodup
    obtain ⟨built, silent, made, linked⟩ := run_build ms' nodup ps
    have handed' : c' = (run (ms' ++ gate.build n ps)).next (.gate n .handOut) := run_concat _ _
    have station' : c'.system.station n = ⟨some gate.anew.opened, none⟩ := by
      rw [handed', (run_sound _).station_gate, built]
      rfl
    have silent' : (c'.ledgers n).calls = [] := by
      rw [handed', calls_gate, silent]
    have old' : n < c'.system.fabric.nextGate := by
      rw [handed']
      exact Nat.lt_of_lt_of_le made (nextGate_next (run_sound _) _)
    have alike : c.system.station g = (c'.system.station n).since gate.counters := by
      rw [station, station']
      rfl
    refine ⟨station', ?_, ?_⟩
    · rw [handed', links_handOut]
      exact linked
    · intro after after' same
      obtain ⟨becomes, calls⟩ := station_runFrom sound old after
      obtain ⟨becomes', calls'⟩ := station_runFrom (run_sound _) old' after'
      obtain ⟨run, called⟩ :=
        (c'.system.station n).run_since gate.counters (c'.inputs n after')
      refine ⟨?_, ?_⟩
      · rw [calls, calls', silent', alike, same, called, List.nil_append]
      · rw [becomes, becomes', alike, same, run]
  · intro after l
    refine ⟨?_, ?_⟩
    · have free : c.system.server g = none :=
        Option.map_eq_none_iff.mp (congrArg Station.worker station)
      have joined : run (ms ++ [.gate g .handOut] ++ after) = c.runFrom after := run_append _ _
      have later := run_later _ after (congrArg Station.gate station) free rfl
      rw [joined] at later
      exact later
    · intro m s ends made
      rw [← run_append] at ends made
      exact run_back _ ends made

/-- A worker is dropped in the middle of a delivery, with a change staged and an event queued; an event
comes while nobody dispatches, and another dispatcher is dropped before it is at work. From then on the
gate goes through the same as one that is made like it: an event is delivered to the three listeners. -/
theorem run_restarts_after_abort :
    let e (n : Nat) : Event := { seq := n, payload := .addItem { sourceItemUid := "lamp" } }
    let ms : List (Move Unit) :=
      [.create "desk" 2 none, .create "lamp" 2 none, .side (.link 0 1), .gate 0 (.change (.add 1)),
        .gate 0 (.change (.add 2)), .gate 0 .handOut, .gate 0 (.engage 0), .gate 0 (.offer (e 0)),
        .gate 0 (.offer (e 1)), .worker 0 .begin, .worker 0 .take, .worker 0 .deliver,
        .worker 0 (.call ()), .gate 0 (.change (.add 3)), .worker 0 .abort, .worker 0 .stop,
        .gate 0 (.offer (e 2)), .gate 0 .handOut, .gate 0 .release]
    let serve (g : GateId) : List (Move Unit) :=
      [.gate g (.engage 0), .gate g (.offer (e 3)), .worker 1 .begin, .worker 1 .take,
        .worker 1 .deliver, .worker 1 (.call ()), .worker 1 .returned, .worker 1 (.call ()),
        .worker 1 .returned, .worker 1 (.call ()), .worker 1 .returned, .worker 1 .complete]
    let gate : Gate :=
      { name := "desk", capacity := 2, counters := ⟨2, 0, 1, 0, 0⟩
        registry := { live := [1, 2, 3] } }
    (run ms).system.fabric.gates.find? 0 = some gate ∧ gate.handedOut = false ∧
      ∃ c c' : Chronicle Unit, c = run (ms ++ [.gate 0 .handOut]) ∧
      c' = run (ms ++ gate.build 2 [1] ++ [.gate 2 .handOut]) ∧
      c.system.station 0 = ⟨some { gate with running := true, handedOut := true }, none⟩ ∧
      c'.system.fabric.links.partners 2 = c.system.fabric.links.partners 0 ∧
      ((c'.runFrom (serve 2)).ledgers 2).calls.map (fun x => (x.listener, x.event.seq)) =
        [(1, 3), (2, 3), (3, 3)] ∧
      ((c.runFrom (serve 0)).ledgers 0).calls =
        (c.ledgers 0).calls ++ ((c'.runFrom (serve 2)).ledgers 2).calls ∧
      (c.runFrom (serve 0)).system.station 0 =
        ((c'.runFrom (serve 2)).system.station 2).since gate.counters := by
  intro e ms serve gate
  have there : (run ms).system.fabric.gates.find? 0 = some gate := by
    simp only [ms, e, gate]
    cbv
  have alike : (run (ms ++ [.gate 0 .handOut])).inputs 0 (serve 0) =
      (run (ms ++ gate.build 2 [1] ++ [.gate 2 .handOut])).inputs 2 (serve 2) := by
    simp only [ms, serve, e, gate]
    cbv
  have partners : (run (ms ++ [.gate 0 .handOut])).system.fabric.links.partners 0 = [1] := by
    decide +kernel
  have number : (run ms).system.fabric.nextGate = 2 := by decide +kernel
  obtain ⟨station, _, new, _⟩ := run_restarts ms there rfl
  have new := new ms
  simp only [partners, number] at new
  have goes := new.2.2 (serve 0) (serve 2) alike
  refine ⟨there, rfl, _, _, rfl, rfl, station, ?_, ?_, goes.1, goes.2⟩
  · rw [partners]
    exact new.2.1 (by decide) (by decide +kernel)
  · decide +kernel

end Chronicle

end EventGates
