import EventGates.Proofs.Dispatch.Projection

/-!
# Who has the queues

A queue that is handed out is with the worker that serves the gate, or with a dispatcher that somebody
holds under a name. `Custody` says so of a system and the names of held dispatchers, and `Lawful`
that the system comes from a run of moves besides. The lemmas here follow a queue from hand to hand:
whoever hands it out, holds it, puts a worker on it or lets go of it leaves a lawful system.
-/

namespace EventGates

namespace System

variable {κ : Type}

/-- The queue of a gate is handed out. -/
def isOut (s : System κ) (g : GateId) : Bool := (s.fabric.gates.find? g).any (·.handedOut)

/-- A queue that is handed out is with a worker or is held under one name. -/
structure Custody (s : System κ) (held : Table String GateId) : Prop where
  owned : ∀ g, s.isOut g = true → s.isServed g = true ∨ ∃ key, held.find? key = some g
  kept : ∀ key g, held.find? key = some g → s.isHeld g = true
  single : ∀ key key' g, held.find? key = some g → held.find? key' = some g → key = key'

/-- The system comes from a run, and all queues that are handed out have their owners. -/
structure Lawful (s : System κ) (held : Table String GateId) : Prop where
  run : ∃ ms, s = (Chronicle.run ms).system
  keys : s.workers.keys.Nodup
  custody : s.Custody held

variable {s s' : System κ}

/-! ## What is served and what is held -/

/-- A gate is served if a worker of it is there. -/
lemma isServed_iff {g : GateId} :
    s.isServed g = true ↔ ∃ w a, s.workers.find? w = some a ∧ a.gate = g := by
  simp only [isServed, List.any_eq_true, Option.any_eq_true, decide_eq_true_eq]
  constructor
  · rintro ⟨w, _, a, found, own⟩
    exact ⟨w, a, found, own⟩
  · rintro ⟨w, a, found, own⟩
    exact ⟨w, Table.mem_keys_of_find? found, a, found, own⟩

/-- A dispatcher is held if the queue is handed out and nobody serves the gate. -/
lemma isHeld_iff {g : GateId} : s.isHeld g = true ↔ s.isOut g = true ∧ s.isServed g = false := by
  simp only [isHeld, isOut, Bool.and_eq_true, Bool.not_eq_true']

/-- Whether gates are served depends on the gates of the workers alone. -/
lemma isServed_congr
    (same : ∀ w, (s'.workers.find? w).map Worker.gate = (s.workers.find? w).map Worker.gate)
    (g : GateId) : s'.isServed g = s.isServed g := by
  have part : ∀ {t t' : System κ},
      (∀ w, (t'.workers.find? w).map Worker.gate = (t.workers.find? w).map Worker.gate) →
        t.isServed g = true → t'.isServed g = true := by
    intro t t' same served
    obtain ⟨w, a, found, own⟩ := isServed_iff.mp served
    have there := same w
    rw [found, Option.map_some, Option.map_eq_some_iff] at there
    obtain ⟨a', found', gate⟩ := there
    exact isServed_iff.mpr ⟨w, a', found', gate.trans own⟩
  rw [Bool.eq_iff_iff]
  exact ⟨part fun w => (same w).symm, part same⟩

/-- Custody depends on which gates are handed out and served. -/
lemma Custody.congr {held : Table String GateId} (h : s.Custody held)
    (out : ∀ g, s'.isOut g = s.isOut g) (served : ∀ g, s'.isServed g = s.isServed g) :
    s'.Custody held where
  owned g hg := by
    rw [served]
    exact h.owned g ((out g).symm.trans hg)
  kept key g found := by
    rw [isHeld_iff, out, served]
    exact isHeld_iff.mp (h.kept key g found)
  single := h.single

/-! ## What holds of lawful systems -/

/-- A run goes on with a move. -/
lemma exists_run_of_move (run : ∃ ms, s = (Chronicle.run ms).system) {m : Move κ}
    (made : s.move m = some s') : ∃ ms, s' = (Chronicle.run ms).system := by
  obtain ⟨ms, rfl⟩ := run
  refine ⟨ms ++ [m], ?_⟩
  rw [Chronicle.run_concat]
  simp only [Chronicle.next, made]

namespace Lawful

variable {held : Table String GateId}

/-- The new number of a worker is not in use. -/
lemma newWorker (h : s.Lawful held) : s.workers.find? s.nextWorker = none := by
  obtain ⟨ms, rfl⟩ := h.run
  exact (Chronicle.run_sound ms).newWorker _ (Nat.le_refl _)

/-- The new number of a gate is not in use. -/
lemma newGate (h : s.Lawful held) : s.fabric.gates.find? s.fabric.nextGate = none := by
  obtain ⟨ms, rfl⟩ := h.run
  exact (Chronicle.run_sound ms).newGate _ (Nat.le_refl _)

/-- The queue of a gate that is served is handed out. -/
lemma isOut_of_isServed (h : s.Lawful held) {g : GateId} (served : s.isServed g = true) :
    s.isOut g = true := by
  obtain ⟨w, a, found, own⟩ := isServed_iff.mp served
  obtain ⟨ms, rfl⟩ := h.run
  obtain ⟨d, shows, busy⟩ := (Chronicle.run_sound ms).desk g
  have worker := (shows.worker w a.phase).mpr ⟨a, found, own, rfl⟩
  obtain ⟨gate, there, out⟩ := busy (Option.isSome_of_eq_some worker)
  simp only [isOut, shows.gate, there, Option.any_some, out]

/-- A worker has a gate that is there. -/
lemma gate_of_worker (h : s.Lawful held) {w : WorkerId} {a : Worker κ}
    (found : s.workers.find? w = some a) :
    ∃ gate, s.fabric.gates.find? a.gate = some gate ∧ gate.handedOut = true := by
  have out := h.isOut_of_isServed (isServed_iff.mpr ⟨w, a, found, rfl⟩)
  simpa only [isOut, Option.any_eq_true] using out

/-- A system without gates. -/
lemma start : ({} : System κ).Lawful {} where
  run := ⟨[], rfl⟩
  keys := List.nodup_nil
  custody := by
    refine ⟨?_, ?_, ?_⟩
    · intro g out
      cases out
    · intro key g found
      cases found
    · intro key key' g found
      cases found

end Lawful

/-- Only gates count for what is handed out. -/
lemma isOut_congr (same : ∀ g, s'.fabric.gates.find? g = s.fabric.gates.find? g) (g : GateId) :
    s'.isOut g = s.isOut g := by
  simp only [isOut, same]

/-- A change to a gate that leaves its queue with whom it is does not count. -/
lemma isOut_change {g : GateId} {change : Gate → Gate}
    (gates : ∀ x, s'.fabric.gates.find? x =
      if x = g then (s.fabric.gates.find? g).map change else s.fabric.gates.find? x)
    (keep : ∀ gate, (change gate).handedOut = gate.handedOut) (x : GateId) :
    s'.isOut x = s.isOut x := by
  simp only [isOut, gates]
  by_cases hx : x = g
  · subst hx
    simp only [if_true]
    cases s.fabric.gates.find? x with
    | none => rfl
    | some gate => exact keep gate
  · simp only [hx, if_false]

/-! ## Queues that change hands -/

/-- A new worker serves its gate, and the others are served as before. -/
lemma isServed_addWorker (new : s.workers.find? s.nextWorker = none) (g : GateId) (t : TokenId)
    (x : GateId) : (s.addWorker g t).1.isServed x = (decide (x = g) || s.isServed x) := by
  rw [Bool.eq_iff_iff, Bool.or_eq_true, decide_eq_true_eq, isServed_iff, isServed_iff]
  simp only [addWorker, Table.find?_insert]
  constructor
  · rintro ⟨w, a, found, own⟩
    split at found
    · cases found
      exact .inl own.symm
    · exact .inr ⟨w, a, found, own⟩
  · rintro (rfl | ⟨w, a, found, own⟩)
    · exact ⟨s.nextWorker, _, if_pos rfl, rfl⟩
    · have ne : w ≠ s.nextWorker := by
        rintro rfl
        rw [new] at found
        cases found
      exact ⟨w, a, by rw [if_neg ne, found], own⟩

/-- What is handed out when a queue is, which was not. -/
lemma isOut_handOut {f : Fabric} {g : GateId} (made : s.fabric.handOut g = some f) :
    s.isOut g = false ∧
      ∀ x, isOut { s with fabric := f } x = (decide (x = g) || s.isOut x) := by
  obtain ⟨gate, gate', there, moved, rfl⟩ := Fabric.handOut_eq_some made
  obtain ⟨free, rfl⟩ := Gate.handOut_eq_some moved
  refine ⟨by simp only [isOut, there, Option.any_some, free], ?_⟩
  intro x
  by_cases hx : x = g
  · simp [isOut, hx]
  · simp [isOut, hx]

/-- What is handed out when a dispatcher lets go of a queue. -/
lemma isOut_endDispatch (s : System κ) (g x : GateId) :
    (s.onFabric (·.endDispatch g)).isOut x = (decide (x ≠ g) && s.isOut x) := by
  simp only [isOut, onFabric, Fabric.find?_endDispatch]
  by_cases hx : x = g
  · simp only [hx, if_true, ne_eq, not_true_eq_false, decide_false, Bool.false_and]
    cases s.fabric.gates.find? g with
    | none => rfl
    | some gate => rfl
  · simp [hx]

/-- A queue that nobody had goes to a worker. -/
lemma Custody.serve {held : Table String GateId} {g : GateId} (h : s.Custody held)
    (free : s.isOut g = false) (out : ∀ x, s'.isOut x = (decide (x = g) || s.isOut x))
    (served : ∀ x, s'.isServed x = (decide (x = g) || s.isServed x)) : s'.Custody held where
  owned x hx := by
    rw [served]
    by_cases same : x = g
    · exact .inl (by simp [same])
    · rw [out] at hx
      have before : s.isOut x = true := by simpa [same] using hx
      exact (h.owned x before).imp_left fun served => by simp [served]
  kept key x found := by
    obtain ⟨hx, idle⟩ := isHeld_iff.mp (h.kept key x found)
    have ne : x ≠ g := by
      rintro rfl
      rw [hx] at free
      cases free
    rw [isHeld_iff, out, served]
    exact ⟨by simp [hx], by simp [ne, idle]⟩
  single := h.single

/-- A dispatcher that is held under a name is put to work. -/
lemma Lawful.engage {held : Table String GateId} (h : s.Lawful held) {key : String} {g : GateId}
    (found : held.find? key = some g) (t : TokenId) :
    (s.addWorker g t).1.Lawful (held.erase key) where
  run := exists_run_of_move h.run (m := .gate g (.engage t)) (by
    simp only [move, moveGate, h.custody.kept key g found, if_true])
  keys := Table.nodup_keys_insert h.keys _ _
  custody := by
    have served := isServed_addWorker h.newWorker g t
    have other : ∀ {key' x}, (held.erase key).find? key' = some x →
        held.find? key' = some x ∧ x ≠ g := by
      intro key' x at'
      simp only [Table.find?_erase] at at'
      split at at'
      · cases at'
      · next ne =>
        refine ⟨at', ?_⟩
        rintro rfl
        exact ne (h.custody.single _ _ _ at' found)
    refine ⟨?_, ?_, ?_⟩
    · intro x out
      rw [served]
      by_cases hx : x = g
      · exact .inl (by simp [hx])
      · obtain served | ⟨key', at'⟩ := h.custody.owned x out
        · exact .inl (by simp [served])
        · refine .inr ⟨key', ?_⟩
          have ne : key' ≠ key := by
            rintro rfl
            rw [found] at at'
            exact hx (Option.some.inj at').symm
          simp [ne, at']
    · intro key' x at'
      obtain ⟨at', ne⟩ := other at'
      obtain ⟨out, free⟩ := isHeld_iff.mp (h.custody.kept key' x at')
      rw [isHeld_iff, served]
      exact ⟨out, by simp [ne, free]⟩
    · intro key' key'' x at' at''
      exact h.custody.single key' key'' x (other at').1 (other at'').1

/-- A dispatcher that is held under a name is dropped. -/
lemma Lawful.release {held : Table String GateId} (h : s.Lawful held) {key : String} {g : GateId}
    (found : held.find? key = some g) :
    (s.onFabric (·.endDispatch g)).Lawful (held.erase key) where
  run := exists_run_of_move h.run (m := .gate g .release) (by
    simp only [move, moveGate, h.custody.kept key g found, if_true])
  keys := h.keys
  custody := by
    have isOut := isOut_endDispatch s g
    refine ⟨?_, ?_, ?_⟩
    · intro x out
      rw [isOut] at out
      simp only [Bool.and_eq_true, decide_eq_true_eq] at out
      obtain served | ⟨key', at'⟩ := h.custody.owned x out.2
      · exact .inl served
      · refine .inr ⟨key', ?_⟩
        have ne : key' ≠ key := by
          rintro rfl
          rw [found] at at'
          exact out.1 (Option.some.inj at').symm
        simp [ne, at']
    · intro key' x at'
      simp only [Table.find?_erase] at at'
      split at at'
      · cases at'
      · next ne =>
        obtain ⟨out, free⟩ := isHeld_iff.mp (h.custody.kept key' x at')
        rw [isHeld_iff, isOut]
        have other : x ≠ g := by
          rintro rfl
          exact ne (h.custody.single _ _ _ at' found)
        exact ⟨by simp [other, out], free⟩
    · intro key' key'' x at' at''
      simp only [Table.find?_erase] at at' at''
      split at at'
      · cases at'
      · split at at''
        · cases at''
        · exact h.custody.single key' key'' x at' at''

/-- A queue that nobody had is held under a name, and the dispatcher that was held under it is let go
of. -/
lemma Custody.replace {held held' : Table String GateId} {g : GateId} (h : s.Custody held)
    (key : String) (free : s.isOut g = false) (unserved : s.isServed g = false)
    (out : ∀ x, s'.isOut x = (decide (x = g) || s.isOut x && decide (held.find? key ≠ some x)))
    (served : ∀ x, s'.isServed x = s.isServed x)
    (names : ∀ k, held'.find? k = if k = key then some g else held.find? k) :
    s'.Custody held' where
  owned x hx := by
    rw [served]
    simp only [out, Bool.or_eq_true, Bool.and_eq_true, decide_eq_true_eq] at hx
    obtain rfl | ⟨before, ne⟩ := hx
    · exact .inr ⟨key, by simp [names]⟩
    · refine (h.owned x before).imp_right ?_
      rintro ⟨k, found⟩
      refine ⟨k, ?_⟩
      have other : k ≠ key := by
        rintro rfl
        exact ne found
      rw [names, if_neg other, found]
  kept k x found := by
    rw [isHeld_iff, out, served]
    rw [names] at found
    split at found
    · cases found
      simp [unserved]
    · next other =>
      obtain ⟨before, idle⟩ := isHeld_iff.mp (h.kept k x found)
      refine ⟨?_, idle⟩
      have ne : held.find? key ≠ some x := fun same => other (h.single _ _ _ found same)
      simp [before, ne]
  single k k' x found found' := by
    -- a queue that was not handed out was not held under any name
    have fresh : ∀ k, held.find? k ≠ some g := by
      intro k found
      rw [(isHeld_iff.mp (h.kept k g found)).1] at free
      cases free
    rw [names] at found found'
    split at found
    · next same =>
      cases found
      split at found'
      · next same' => rw [same, same']
      · exact absurd found' (fresh k')
    · split at found'
      · cases found'
        exact absurd found (fresh k)
      · exact h.single k k' x found found'

namespace Lawful

variable {held : Table String GateId} {g : GateId} {f : Fabric}

/-- Nobody serves a gate whose queue is not handed out. -/
lemma isServed_of_isOut (h : s.Lawful held) (free : s.isOut g = false) : s.isServed g = false := by
  cases served : s.isServed g with
  | false => rfl
  | true =>
    rw [h.isOut_of_isServed served] at free
    cases free

/-- A queue is handed out and held under a name that is free. -/
lemma handOut (h : s.Lawful held) (made : s.fabric.handOut g = some f) {key : String}
    (empty : held.find? key = none) : Lawful { s with fabric := f } (held.insert key g) := by
  obtain ⟨free, out⟩ := isOut_handOut made
  have handed : s.move (.gate g .handOut) = some { s with fabric := f } := by
    simp only [move, moveGate, made, Option.map_some]
  refine ⟨exists_run_of_move h.run handed, h.keys, ?_⟩
  refine h.custody.replace key free (h.isServed_of_isOut free) ?_ (fun _ => rfl)
    fun k => Table.find?_insert ..
  intro x
  simp [out, empty]

/-- A queue is handed out and held under a name, and the dispatcher that was held under it before is
dropped. -/
lemma handOut_replacing (h : s.Lawful held) (made : s.fabric.handOut g = some f) {key : String}
    {old : GateId} (found : held.find? key = some old) :
    (({ s with fabric := f } : System κ).onFabric (·.endDispatch old)).Lawful
      ((held.erase key).insert key g) := by
  obtain ⟨free, out⟩ := isOut_handOut made
  have handed : s.move (.gate g .handOut) = some { s with fabric := f } := by
    simp only [move, moveGate, made, Option.map_some]
  have served : ∀ x, isServed { s with fabric := f } x = s.isServed x := fun _ => rfl
  have keys : (System.workers { s with fabric := f }).keys.Nodup := h.keys
  generalize ({ s with fabric := f } : System κ) = m at out handed served keys ⊢
  -- the old dispatcher is of another gate, so it is still held when it is dropped
  obtain ⟨before, idle⟩ := isHeld_iff.mp (h.custody.kept key old found)
  have isHeld : m.isHeld old = true := by
    rw [isHeld_iff, out, served]
    exact ⟨by simp [before], idle⟩
  have dropped : m.move (.gate old .release) = some (m.onFabric (·.endDispatch old)) := by
    simp only [move, moveGate, isHeld, if_true]
  refine ⟨exists_run_of_move (exists_run_of_move h.run handed) dropped, keys,
    h.custody.replace key free (h.isServed_of_isOut free) ?_ served ?_⟩
  · intro x
    rw [isOut_endDispatch, out, found]
    by_cases same : x = old
    · subst same
      have ne : x ≠ g := by
        rintro rfl
        rw [before] at free
        cases free
      simp [ne]
    · simp [same, Ne.symm same]
  · intro k
    rw [Table.find?_insert, Table.find?_erase]
    split <;> rfl

/-! ## Workers that go on -/

end Lawful

/-- A move of a worker changes the worker or takes it away. -/
lemma workers_moveWorker {w : WorkerId} {a : Worker κ} {phase : Phase κ} {m : WorkerMove κ}
    (made : s.moveWorker w a phase m = some s') :
    (∃ f, s'.workers = s.workers.modify w f) ∨ s'.workers = s.workers.erase w := by
  have received : s.receive w a = some s' → ∃ f, s'.workers = s.workers.modify w f := by
    intro h
    simp only [receive, Option.map_eq_some_iff, Prod.exists] at h
    obtain ⟨e, f, -, rfl⟩ := h
    exact ⟨_, rfl⟩
  -- the lines of `moveWorker` with a condition, those that receive, and the one that stops
  simp only [moveWorker] at made
  split at made
  case h_1 | h_3 | h_5 =>
    split at made
    · cases made
    · cases made
      exact .inl ⟨_, rfl⟩
  case h_2 | h_4 =>
    split at made
    · cases made
    · exact .inl (received made)
  case h_11 =>
    split at made
    · cases made
      refine .inr ?_
      simp only [finish, endDelivery]
      split <;> rfl
    · cases made
  case h_13 => cases made
  all_goals
    cases made
    exact .inl ⟨_, rfl⟩

namespace Lawful

variable {held : Table String GateId}

/-- A worker that goes on with its queue, or ends and gives it back. -/
lemma of_workerTurns (h : s.Lawful held) (run : ∃ ms, s' = (Chronicle.run ms).system)
    (keys : s'.workers.keys.Nodup) {w : WorkerId} {a : Worker κ} {gate' : Gate}
    {after : Option (Worker κ)} (found : s.workers.find? w = some a)
    (turns : WorkerTurns s s' a.gate gate' w after) (kept : gate'.handedOut = after.isSome) :
    s'.Lawful held := by
  have here : s.isServed a.gate = true := isServed_iff.mpr ⟨w, a, found, rfl⟩
  have out : ∀ x, s'.isOut x = if x = a.gate then after.isSome else s.isOut x := by
    intro x
    simp only [isOut, turns.gates]
    split
    · exact kept
    · rfl
  have served : ∀ x, x ≠ a.gate → s'.isServed x = s.isServed x := by
    intro x ne
    rw [Bool.eq_iff_iff, isServed_iff, isServed_iff]
    constructor
    · rintro ⟨v, b, there, own⟩
      rw [turns.workers] at there
      split at there
      · exact absurd (own.symm.trans (turns.own b there)) ne
      · exact ⟨v, b, there, own⟩
    · rintro ⟨v, b, there, own⟩
      have other : v ≠ w := by
        rintro rfl
        rw [found] at there
        cases there
        exact ne own.symm
      exact ⟨v, b, by rw [turns.workers, if_neg other, there], own⟩
  have still : ∀ b, after = some b → s'.isServed a.gate = true := by
    intro b hb
    exact isServed_iff.mpr ⟨w, b, by rw [turns.workers, if_pos rfl, hb], turns.own b hb⟩
  refine ⟨run, keys, ?_, ?_, h.custody.single⟩
  · intro x hx
    rw [out] at hx
    split at hx
    · next same =>
      obtain ⟨b, hb⟩ := Option.isSome_iff_exists.mp hx
      exact .inl (same ▸ still b hb)
    · next ne => exact (h.custody.owned x hx).imp_left fun was => (served x ne).trans was
  · intro key x name
    obtain ⟨before, idle⟩ := isHeld_iff.mp (h.custody.kept key x name)
    -- a dispatcher that is held is of a gate that nobody serves
    have ne : x ≠ a.gate := by
      rintro rfl
      rw [here] at idle
      cases idle
    rw [isHeld_iff, out, if_neg ne, served x ne]
    exact ⟨before, idle⟩

/-- A move of a worker. -/
lemma worker (h : s.Lawful held) {w : WorkerId} {a : Worker κ} {m : WorkerMove κ}
    (found : s.workers.find? w = some a) (made : s.moveWorker w a a.phase m = some s') :
    s'.Lawful held := by
  obtain ⟨gate, there, out⟩ := h.gate_of_worker found
  obtain ⟨gate', after, turns, step⟩ := moveWorker_step found there {} made
  have run : s.move (.worker w m) = some s' := by
    simp only [move, found, Option.bind_some, made]
  have keys : s'.workers.keys.Nodup := by
    obtain ⟨f, changed⟩ | gone := workers_moveWorker made
    · rw [changed, Table.keys_modify]
      exact h.keys
    · rw [gone]
      exact Table.nodup_keys_erase h.keys w
  refine h.of_workerTurns (exists_run_of_move h.run run) keys found turns ?_
  cases after with
  | none => exact step.freed
  | some b => exact Desk.served_some.mp (step.served (Desk.served_some.mpr fun _ => out)) rfl

end Lawful

end System

end EventGates
