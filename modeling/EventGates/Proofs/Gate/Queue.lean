import EventGates.Gate.Basic
import Mathlib.Tactic.Common

/-!
# Queues of gates

The cases of the operations on the queue of a gate, each with everything that it does.
-/

namespace EventGates.Gate

variable (g : Gate) (e : Event)

/-- An event is put into the queue if a slot is free, and is counted either way. -/
lemma push_cases :
    (g.queue.length < g.capacity ∧
      g.push e =
        ({ g with
            queue := g.queue ++ [e]
            counters := { g.counters with accepted := g.counters.accepted + 1 } }, .accepted)) ∨
    (g.capacity ≤ g.queue.length ∧
      g.push e =
        ({ g with
            counters := { g.counters with droppedFull := g.counters.droppedFull + 1 } },
          .overflow)) := by
  by_cases free : g.queue.length < g.capacity
  · exact .inl ⟨free, if_pos free⟩
  · exact .inr ⟨Nat.le_of_not_lt free, if_neg free⟩

/-- An event is offered to the queue of a running gate alone. -/
lemma offer_cases :
    (g.running = true ∧ g.offer e = g.push e) ∨
    (g.running = false ∧ g.offer e = (g.dropIdle, .idle)) := by
  cases running : g.running with
  | true => exact .inl ⟨rfl, if_pos running⟩
  | false => exact .inr ⟨rfl, if_neg (by simp [running])⟩

/-- The queue is handed out once, and empty. -/
lemma handOut_eq_some {g g' : Gate} (h : g.handOut = some g') :
    g.handedOut = false ∧ g' = { g with queue := [], running := true, handedOut := true } := by
  simp only [handOut] at h
  cases out : g.handedOut with
  | true =>
    rw [if_pos out] at h
    cases h
  | false =>
    rw [if_neg (by simp [out])] at h
    exact ⟨rfl, (Option.some.inj h).symm⟩

/-- The event that is taken was the first of the queue. -/
lemma pop_eq_some {g g' : Gate} {e : Event} (h : g.pop = some (e, g')) :
    ∃ es, g.queue = e :: es ∧ g' = { g with queue := es } := by
  cases queue : g.queue with
  | nil => simp [pop, queue] at h
  | cons x xs =>
    simp only [pop, queue, Option.some.injEq, Prod.mk.injEq] at h
    obtain ⟨rfl, rfl⟩ := h
    exact ⟨xs, rfl, rfl⟩

/-! ## Who has the queue -/

/-- Putting an event into the queue does not move the queue. -/
@[simp] lemma handedOut_push : (g.push e).1.handedOut = g.handedOut := by
  obtain ⟨_, h⟩ | ⟨_, h⟩ := g.push_cases e
  · rw [h]
  · rw [h]

/-- An offer does not move the queue. -/
@[simp] lemma handedOut_offer : (g.offer e).1.handedOut = g.handedOut := by
  obtain ⟨_, h⟩ | ⟨_, h⟩ := g.offer_cases e
  · rw [h, handedOut_push]
  · rw [h]
    rfl

/-- Putting an event into the queue neither opens nor closes the gate. -/
@[simp] lemma running_push : (g.push e).1.running = g.running := by
  obtain ⟨_, h⟩ | ⟨_, h⟩ := g.push_cases e
  · rw [h]
  · rw [h]

/-- An offer neither opens nor closes the gate. -/
@[simp] lemma running_offer : (g.offer e).1.running = g.running := by
  obtain ⟨_, h⟩ | ⟨_, h⟩ := g.offer_cases e
  · rw [h, running_push]
  · rw [h]
    rfl

/-! ## Listeners -/

/-- Putting an event into the queue does not change the listeners. -/
@[simp] lemma registry_push : (g.push e).1.registry = g.registry := by
  obtain ⟨_, h⟩ | ⟨_, h⟩ := g.push_cases e
  · rw [h]
  · rw [h]

/-- An offer does not change the listeners. -/
@[simp] lemma registry_offer : (g.offer e).1.registry = g.registry := by
  obtain ⟨_, h⟩ | ⟨_, h⟩ := g.offer_cases e
  · rw [h, registry_push]
  · rw [h]
    rfl

end EventGates.Gate
