import EventGates.Proofs.Dispatch.Order

/-!
# Ledgers grow

The number of a gate is used once, so the ledger of a gate that was made is never begun anew: each
move leaves it as it is or makes one entry, and an entry only adds (`grows_next`). So from any moment
of a run to any later one the events that were accepted, those that left the queue, the deliveries
that are over and the callbacks stay in the ledger where they are (`grows_run`).
-/

namespace EventGates

/-! ## What entries keep -/

/-- The second ledger begins with the first. -/
structure Ledger.Grows (l l' : Ledger) : Prop where
  accepted : l.accepted <+: l'.accepted
  gone : l.gone <+: l'.gone
  finished : l.finished <+: l'.finished
  calls : l.calls <+: l'.calls

namespace Ledger.Grows

lemma refl (l : Ledger) : l.Grows l :=
  ⟨List.prefix_refl _, List.prefix_refl _, List.prefix_refl _, List.prefix_refl _⟩

lemma trans {l l' l'' : Ledger} (h : l.Grows l') (h' : l'.Grows l'') : l.Grows l'' :=
  ⟨h.accepted.trans h'.accepted, h.gone.trans h'.gone, h.finished.trans h'.finished,
    h.calls.trans h'.calls⟩

end Ledger.Grows

/-- An entry about what is done to a gate adds to the ledger. -/
lemma GateMove.grows_note (gate : Gate) (l : Ledger) (m : GateMove) : l.Grows (m.note gate l) := by
  have offered : ∀ e admission, l.Grows (l.offered e admission) := by
    intro e admission
    cases admission with
    | accepted => exact { Ledger.Grows.refl l with accepted := List.prefix_append _ _ }
    | _ => exact { Ledger.Grows.refl l with }
  cases m with
  | offer e => exact offered e _
  | enter e => exact offered e _
  | handOut => exact { Ledger.Grows.refl l with gone := List.prefix_append _ _ }
  | release =>
    exact { Ledger.Grows.refl l with
      gone := List.prefix_append _ _, finished := List.prefix_append _ _ }
  | _ => exact { Ledger.Grows.refl l with }

/-- An entry about what a worker does adds to the ledger. -/
lemma WorkerMove.grows_note {κ : Type} (gate : Gate) (l : Ledger) (phase : Phase κ)
    (m : WorkerMove κ) : l.Grows (m.note gate l phase) := by
  cases m with
  | take =>
    simp only [note]
    split
    · exact Ledger.Grows.refl l
    · exact { Ledger.Grows.refl l with gone := List.prefix_append _ _ }
  | call k =>
    obtain same | ⟨x, e, called⟩ := note_call gate l phase k
    · rw [same]
      exact Ledger.Grows.refl l
    · rw [called]
      exact { Ledger.Grows.refl l with calls := List.prefix_append _ _ }
  | complete => exact { Ledger.Grows.refl l with finished := List.prefix_append _ _ }
  | stop =>
    exact { Ledger.Grows.refl l with
      gone := List.prefix_append _ _, finished := List.prefix_append _ _ }
  | _ => exact { Ledger.Grows.refl l with }

namespace Chronicle

variable {κ : Type} {c : Chronicle κ} {g : GateId}

/-- Numbers of gates and of workers are given out in order. -/
lemma numbers_next (h : Sound c) (m : Move κ) :
    c.system.fabric.nextGate ≤ (c.next m).system.fabric.nextGate ∧
      c.system.nextWorker ≤ (c.next m).system.nextWorker := by
  simp only [next]
  split
  · exact ⟨Nat.le_refl _, Nat.le_refl _⟩
  · next s made =>
    cases m with
    | create name capacity bus =>
      cases made
      exact ⟨Nat.le_succ _, Nat.le_refl _⟩
    | remove g =>
      simp only [System.move] at made
      split at made
      · cases made
      · cases made
        exact ⟨Nat.le_refl _, Nat.le_refl _⟩
    | gate g m =>
      obtain ⟨f, rfl, nextGate, _⟩ | ⟨t, _, _, rfl⟩ := System.moveGate_cases made
      · exact ⟨Nat.le_of_eq nextGate.symm, Nat.le_refl _⟩
      · exact ⟨Nat.le_refl _, Nat.le_succ _⟩
    | worker w m =>
      simp only [System.move, Option.bind_eq_some_iff] at made
      obtain ⟨a, found, made⟩ := made
      obtain ⟨d, shows, served⟩ := h.desk a.gate
      have worker := (shows.worker w a.phase).mpr ⟨a, found, rfl, rfl⟩
      obtain ⟨gate, there, _⟩ := served (by rw [worker]; rfl)
      obtain ⟨_, _, turns, _⟩ := System.moveWorker_step found (shows.gate.trans there) {} made
      exact ⟨Nat.le_of_eq turns.nextGate.symm, turns.nextWorker⟩
    | cancel t =>
      cases made
      exact ⟨Nat.le_refl _, Nat.le_refl _⟩
    | side m =>
      cases made
      have alike := c.system.alike_moveSide m
      exact ⟨Nat.le_of_eq alike.nextGate.symm, Nat.le_of_eq alike.nextWorker.symm⟩

lemma nextGate_next (h : Sound c) (m : Move κ) :
    c.system.fabric.nextGate ≤ (c.next m).system.fabric.nextGate := (numbers_next h m).1

lemma nextWorker_next (h : Sound c) (m : Move κ) :
    c.system.nextWorker ≤ (c.next m).system.nextWorker := (numbers_next h m).2

/-- A move adds to the ledger of a gate that was made. -/
lemma grows_next (old : g < c.system.fabric.nextGate) (m : Move κ) :
    (c.ledgers g).Grows ((c.next m).ledgers g) := by
  have entry : ∀ x note, (∀ gate (l : Ledger), l.Grows (note gate l)) →
      (c.ledgers g).Grows (c.entry x note g) := by
    intro x note adds
    cases there : c.system.fabric.gates.find? x with
    | none =>
      rw [entry_of_none there]
      exact .refl _
    | some gate =>
      rw [entry_of_some there]
      by_cases hx : g = x
      · subst hx
        rw [Function.update_self]
        exact adds gate _
      · rw [Function.update_of_ne hx]
        exact .refl _
  simp only [next]
  split
  · exact .refl _
  · cases m with
    | create name capacity bus =>
      simp only [noted, Function.update_of_ne (Nat.ne_of_lt old)]
      exact .refl _
    | gate x m => exact entry x _ fun gate l => m.grows_note gate l
    | worker w m =>
      simp only [noted]
      cases c.system.workers.find? w with
      | none => exact .refl _
      | some a => exact entry a.gate _ fun gate l => m.grows_note gate l a.phase
    | _ => exact .refl _

/-- From a moment of a run on, the ledger of a gate that was made is added to, and the gate stays
one that was made. -/
lemma grows_run (ms after : List (Move κ)) (old : g < (run ms).system.fabric.nextGate) :
    ((run ms).ledgers g).Grows ((run (ms ++ after)).ledgers g) ∧
      g < (run (ms ++ after)).system.fabric.nextGate := by
  induction after using List.reverseRecOn with
  | nil =>
    rw [List.append_nil]
    exact ⟨.refl _, old⟩
  | append_singleton after m ih =>
    obtain ⟨kept, old⟩ := ih
    rw [← List.append_assoc, run_concat]
    exact ⟨kept.trans (grows_next old m), Nat.lt_of_lt_of_le old (nextGate_next (run_sound _) m)⟩

end Chronicle

end EventGates
