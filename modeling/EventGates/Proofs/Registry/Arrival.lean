import EventGates.Proofs.Registry.Staging

/-!
# Listeners in the order in which they were added

A registry lists no listener twice, and lists them in the order of the adds that brought them there,
whatever changes are made and whenever deliveries begin and end. The adds are those of the whole
history, the staged ones included, so the order is a fact about sublists: `Follows` says that the
live listeners with the staged adds behind them are some of the adds, in order.
-/

namespace EventGates.Registry

variable {α : Type} [DecidableEq α]

/-- The registry lists each listener once, in the order of the adds so far, and nothing is staged
outside a delivery. -/
structure Follows (r : Registry α) (added : List α) : Prop where
  nodup : r.live.Nodup
  order : (r.live ++ r.pendingAdds).Sublist added
  resting : r.delivering = false → r.pendingAdds = []

/-! ## Enlisting -/

/-- Enlisting keeps the order. -/
lemma enlist_sublist (live : List α) (x : α) : (enlist live x).Sublist (live ++ [x]) := by
  simp only [enlist]
  split
  · exact List.sublist_append_left live [x]
  · exact List.Sublist.refl _

/-- Enlisting lists nothing twice. -/
lemma nodup_enlist {live : List α} (h : live.Nodup) (x : α) : (enlist live x).Nodup := by
  simp only [enlist]
  split
  · exact h
  · next new =>
    apply List.nodup_append.mpr
    refine ⟨h, by simp, ?_⟩
    intro a ha b hb
    rw [List.mem_singleton.mp hb]
    rintro rfl
    exact new ha

/-- Enlisting one after the other keeps the order. -/
lemma foldl_enlist_sublist (live adds : List α) :
    (adds.foldl enlist live).Sublist (live ++ adds) := by
  induction adds generalizing live with
  | nil => simp
  | cons x xs ih =>
    have first : (enlist live x ++ xs).Sublist (live ++ [x] ++ xs) :=
      (enlist_sublist live x).append_right xs
    rw [List.append_assoc, List.singleton_append] at first
    exact (ih (enlist live x)).trans first

/-- Enlisting one after the other lists nothing twice. -/
lemma nodup_foldl_enlist {live : List α} (h : live.Nodup) (adds : List α) :
    (adds.foldl enlist live).Nodup := by
  induction adds generalizing live with
  | nil => exact h
  | cons x xs ih => exact ih (nodup_enlist h x)

/-! ## Changes and deliveries -/

namespace Follows

variable {r : Registry α} {added : List α}

omit [DecidableEq α] in
/-- The live listeners are some of those that were added, in order. -/
lemma live_sublist (h : Follows r added) : r.live.Sublist added :=
  (List.sublist_append_left _ _).trans h.order

/-- A change keeps the order. -/
lemma change (h : Follows r added) (c : Change α) :
    Follows (r.change c) (added ++ additions [c]) := by
  have resting : (r.change c).delivering = false → r.delivering = false := by
    intro rest
    rwa [delivering_change] at rest
  have later : ∀ {l : List α}, l.Sublist added → l.Sublist (added ++ additions [c]) :=
    fun sub => sub.trans (List.sublist_append_left _ _)
  cases delivering : r.delivering with
  | true =>
    refine ⟨?_, ?_, fun rest => absurd (resting rest) (by simp [delivering])⟩
    · cases c with
      | add x =>
        rw [change_add_of_delivering delivering]
        exact h.nodup
      | remove x =>
        rw [change_remove_of_delivering delivering]
        exact h.nodup
      | clear => exact List.nodup_nil
    · cases c with
      | add x =>
        rw [change_add_of_delivering delivering]
        simp only [← List.append_assoc]
        exact h.order.append_right [x]
      | remove x =>
        rw [change_remove_of_delivering delivering]
        exact later h.order
      | clear => exact List.nil_sublist _
  | false =>
    have none := h.resting delivering
    have order := h.order
    rw [none, List.append_nil] at order
    cases c with
    | add x =>
      rw [change_add_of_resting delivering]
      refine ⟨nodup_enlist h.nodup x, ?_, fun _ => none⟩
      rw [none, List.append_nil]
      exact (enlist_sublist _ x).trans (order.append_right [x])
    | remove x =>
      rw [change_remove_of_resting delivering]
      refine ⟨h.nodup.filter _, ?_, fun _ => none⟩
      rw [none, List.append_nil]
      exact later (List.filter_sublist.trans order)
    | clear => exact ⟨List.nodup_nil, List.nil_sublist _, fun _ => rfl⟩

omit [DecidableEq α] in
/-- The beginning of a delivery keeps the order. -/
lemma beginDelivery (h : Follows r added) : Follows r.beginDelivery added :=
  ⟨h.nodup, h.order, nofun⟩

/-- The end of a delivery keeps the order. -/
lemma endDelivery (h : Follows r added) : Follows r.endDelivery added := by
  refine ⟨(nodup_foldl_enlist h.nodup _).filter _, ?_, fun _ => rfl⟩
  simp only [Registry.endDelivery, List.append_nil]
  exact List.filter_sublist.trans ((foldl_enlist_sublist _ _).trans h.order)

end Follows

end EventGates.Registry
