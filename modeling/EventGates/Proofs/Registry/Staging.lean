import EventGates.Gate.Registry
import Mathlib.Tactic.Common

/-!
# Staged changes of registries

While an event is being delivered a registry stages its changes, and makes them when the delivery
ends. The two ways to change a registry are compared here: the same changes are made one by one
outside a delivery (`Registry.changes`), and within one. Adds and removes are staged apart, so their
relative order is lost; what is left of it is that a listener removed at any time during the
delivery is gone in the end. The main theorem `endDelivery_changes` says that this is the only
difference.

The invariant behind it is `Agrees`: the listeners that the staged adds would leave and those of the
immediate changes are the same list, once every listener with a remove is filtered out.

What the end of a delivery leaves of what is staged is also said by itself (`Settles`).
-/

namespace EventGates.Registry

variable {α : Type} [DecidableEq α]

/-- A call that changes a registry. -/
inductive Change (α : Type) where
  | add (x : α)
  | remove (x : α)
  | clear
deriving DecidableEq, Repr

/-- Makes a change, whatever becomes of it. -/
def change (r : Registry α) : Change α → Registry α
  | .add x => (r.add x).1
  | .remove x => (r.remove x).1
  | .clear => r.clear

/-- Makes changes one by one. -/
def changes (r : Registry α) (cs : List (Change α)) : Registry α := cs.foldl change r

/-- The listeners that changes remove, as often as they do. -/
def removals : List (Change α) → List α
  | [] => []
  | .remove x :: cs => x :: removals cs
  | _ :: cs => removals cs

/-- The adds that changes make, as often as they do. -/
def additions : List (Change α) → List α
  | [] => []
  | .add x :: cs => x :: additions cs
  | _ :: cs => additions cs

/-- The registries that changes and deliveries lead to. -/
inductive Reachable : Registry α → Prop where
  | new : Reachable {}
  | change {r : Registry α} (c : Change α) :
    Reachable r →
    Reachable (r.change c)
  | beginDelivery {r : Registry α} :
    Reachable r →
    r.delivering = false →
    Reachable r.beginDelivery
  | endDelivery {r : Registry α} :
    Reachable r →
    r.delivering = true →
    Reachable r.endDelivery

/-! ## Single changes -/

/-- A change does not begin or end a delivery. -/
@[simp] lemma delivering_change (r : Registry α) (c : Change α) :
    (r.change c).delivering = r.delivering := by
  cases c with
  | add x => simp only [change, add]; split <;> [rfl; split <;> rfl]
  | remove x => simp only [change, remove]; split <;> [rfl; split <;> rfl]
  | clear => rfl

/-- An add during a delivery is staged behind the others. -/
lemma change_add_of_delivering {r : Registry α} (h : r.delivering = true) (x : α) :
    r.change (.add x) = { r with pendingAdds := r.pendingAdds ++ [x] } := by
  simp [change, add, h]

/-- A remove during a delivery is staged behind the others. -/
lemma change_remove_of_delivering {r : Registry α} (h : r.delivering = true) (x : α) :
    r.change (.remove x) = { r with pendingRemoves := r.pendingRemoves ++ [x] } := by
  simp [change, remove, h]

/-- An add outside a delivery enlists the listener. -/
lemma change_add_of_resting {r : Registry α} (h : r.delivering = false) (x : α) :
    r.change (.add x) = { r with live := enlist r.live x } := by
  obtain ⟨live, delivering, adds, removes⟩ := r
  cases h
  by_cases hx : x ∈ live
  · simp [change, add, enlist, hx]
  · simp [change, add, enlist, hx]

/-- A remove outside a delivery delists the listener. -/
lemma change_remove_of_resting {r : Registry α} (h : r.delivering = false) (x : α) :
    r.change (.remove x) = { r with live := delist r.live x } := by
  obtain ⟨live, delivering, adds, removes⟩ := r
  cases h
  by_cases hx : x ∈ live
  · simp [change, remove, hx]
  · have same : delist live x = live := by
      apply List.filter_eq_self.mpr
      intro y hy
      simp only [decide_eq_true_eq]
      rintro rfl
      exact hx hy
    simp [change, remove, hx, same]

/-- Only clearing changes the live listeners during a delivery. -/
lemma live_change_of_delivering {r : Registry α} (h : r.delivering = true) {c : Change α}
    (hc : c ≠ .clear) : (r.change c).live = r.live := by
  cases c with
  | add x => rw [change_add_of_delivering h]
  | remove x => rw [change_remove_of_delivering h]
  | clear => exact absurd rfl hc

/-! ## Registries outside a delivery -/

/-- Nothing is staged outside a delivery. -/
lemma Reachable.nothing_staged {r : Registry α} (reach : Reachable r)
    (rest : r.delivering = false) : r.pendingAdds = [] ∧ r.pendingRemoves = [] := by
  induction reach with
  | new => exact ⟨rfl, rfl⟩
  | @change r c _ ih =>
    rw [delivering_change] at rest
    obtain ⟨adds, removes⟩ := ih rest
    cases c with
    | add x => rw [change_add_of_resting rest]; exact ⟨adds, removes⟩
    | remove x => rw [change_remove_of_resting rest]; exact ⟨adds, removes⟩
    | clear => exact ⟨rfl, removes⟩
  | beginDelivery => cases rest
  | endDelivery => exact ⟨rfl, rfl⟩

/-! ## What the end of a delivery leaves -/

/-- A delivery is over and nothing is staged any more. Live are the listeners from before, and behind
them the staged adds that are new, each once and in order, but none that was to be removed. -/
structure Settles (r r' : Registry α) : Prop where
  resting : r'.delivering = false
  adds : r'.pendingAdds = []
  removes : r'.pendingRemoves = []
  live : r'.live =
    (r.live ++ (r.pendingAdds.filter (· ∉ r.live)).eraseDups).filter (· ∉ r.pendingRemoves)

/-- Enlisting one after the other puts those that are new at the end, each once and in order. -/
lemma foldl_enlist_eq (live adds : List α) :
    adds.foldl enlist live = live ++ (adds.filter (· ∉ live)).eraseDups := by
  induction adds generalizing live with
  | nil => exact (List.append_nil live).symm
  | cons x xs ih =>
    rw [List.foldl_cons, ih, enlist]
    by_cases listed : x ∈ live
    · rw [if_pos listed, List.filter_cons_of_neg (by simp [listed])]
    · rw [if_neg listed, List.filter_cons_of_pos (by simp [listed]), List.eraseDups_cons,
        List.filter_filter, List.append_assoc, List.singleton_append]
      have others : xs.filter (· ∉ live ++ [x]) = xs.filter fun y => !y == x && decide (y ∉ live) := by
        apply List.filter_congr
        intro y _
        by_cases same : y = x
        · simp [same]
        · simp [same]
      rw [others]

/-- The end of a delivery settles what is staged. -/
lemma settles_endDelivery (r : Registry α) : r.Settles r.endDelivery where
  resting := rfl
  adds := rfl
  removes := rfl
  live := by rw [endDelivery, foldl_enlist_eq]

/-! ## Staged and immediate changes side by side -/

/-- Enlisting keeps lists equal but for some listeners. -/
lemma filter_enlist_congr {gone live live' : List α}
    (same : live.filter (· ∉ gone) = live'.filter (· ∉ gone)) (x : α) :
    (enlist live x).filter (· ∉ gone) = (enlist live' x).filter (· ∉ gone) := by
  by_cases hx : x ∈ gone
  · -- what is filtered out anyway may be enlisted on either side or on none
    have drop : ∀ l : List α, (enlist l x).filter (· ∉ gone) = l.filter (· ∉ gone) := by
      intro l
      simp only [enlist]
      split
      · rfl
      · simp [hx]
    rw [drop, drop, same]
  · have listed : x ∈ live ↔ x ∈ live' := by
      have mem : x ∈ live.filter (· ∉ gone) ↔ x ∈ live'.filter (· ∉ gone) := by rw [same]
      simpa [hx] using mem
    by_cases hl : x ∈ live
    · simp only [enlist, hl, listed.mp hl, if_true, same]
    · simp only [enlist, hl, mt listed.mpr hl, if_false, List.filter_append, same]

/-- A registry in a delivery and one outside agree, but for the listeners in `gone`. -/
structure Agrees (gone : List α) (staged immediate : Registry α) : Prop where
  delivering : staged.delivering = true
  resting : immediate.delivering = false
  live : (staged.pendingAdds.foldl enlist staged.live).filter (· ∉ gone) =
    immediate.live.filter (· ∉ gone)

/-- The same change on both sides keeps the agreement, if its remove is among those left out. -/
lemma Agrees.change {gone : List α} {staged immediate : Registry α}
    (agree : Agrees gone staged immediate) (c : Change α) (hc : removals [c] ⊆ gone) :
    Agrees gone (staged.change c) (immediate.change c) := by
  obtain ⟨delivering, resting, live⟩ := agree
  refine ⟨by simp [delivering], by simp [resting], ?_⟩
  cases c with
  | add x =>
    rw [change_add_of_delivering delivering, change_add_of_resting resting]
    simp only [List.foldl_append, List.foldl_cons, List.foldl_nil]
    exact filter_enlist_congr live x
  | remove x =>
    have hx : x ∈ gone := hc (by simp [removals])
    rw [change_remove_of_delivering delivering, change_remove_of_resting resting]
    simp only [live, delist, List.filter_filter]
    apply List.filter_congr
    intro y _
    by_cases hy : y = x
    · simp [hy, hx]
    · simp [hy]
  | clear => rfl

omit [DecidableEq α] in
/-- The removes of changes are those of the first and those of the others. -/
lemma removals_cons (c : Change α) (cs : List (Change α)) :
    removals (c :: cs) = removals [c] ++ removals cs := by
  cases c with
  | add x => rfl
  | remove x => rfl
  | clear => rfl

/-- The same changes on both sides keep the agreement. -/
lemma Agrees.changes {gone : List α} {staged immediate : Registry α}
    (agree : Agrees gone staged immediate) (cs : List (Change α)) (hcs : removals cs ⊆ gone) :
    Agrees gone (staged.changes cs) (immediate.changes cs) := by
  induction cs generalizing staged immediate with
  | nil => exact agree
  | cons c cs ih =>
    rw [removals_cons, List.append_subset] at hcs
    exact ih (agree.change c hcs.1) hcs.2

/-- A delivery goes on through all changes. -/
lemma delivering_changes (r : Registry α) (cs : List (Change α)) :
    (r.changes cs).delivering = r.delivering := by
  induction cs generalizing r with
  | nil => rfl
  | cons c cs ih => exact (ih (r.change c)).trans (delivering_change r c)

/-- Every remove during a delivery is staged, and none is ever taken back. -/
lemma pendingRemoves_changes {r : Registry α} (h : r.delivering = true) (cs : List (Change α)) :
    (r.changes cs).pendingRemoves = r.pendingRemoves ++ removals cs := by
  induction cs generalizing r with
  | nil => exact (List.append_nil _).symm
  | cons c cs ih =>
    have next : (r.changes (c :: cs)).pendingRemoves =
        (r.change c).pendingRemoves ++ removals cs :=
      ih ((delivering_change r c).trans h)
    rw [next, removals_cons, ← List.append_assoc]
    congr 1
    cases c with
    | add x => rw [change_add_of_delivering h]; simp [removals]
    | remove x => rw [change_remove_of_delivering h]; simp [removals]
    | clear => simp [Registry.change, clear, removals]

/-- A delivery with changes, begun where nothing is delivered, leaves what the same changes leave
without one, order included, less every listener that was removed meanwhile; so both ways agree
exactly when no such listener is left by the immediate changes. Until the delivery ends only
clearing changes the live listeners. -/
theorem endDelivery_changes {r : Registry α} (reach : Reachable r) (rest : r.delivering = false)
    (cs : List (Change α)) :
    (r.beginDelivery.changes cs).endDelivery =
        { live := (r.changes cs).live.filter (· ∉ removals cs) } ∧
      ((r.beginDelivery.changes cs).endDelivery.live = (r.changes cs).live ↔
        ∀ x ∈ removals cs, x ∉ (r.changes cs).live) ∧
      ∀ before c, c ≠ .clear →
        ((r.beginDelivery.changes before).change c).live =
          (r.beginDelivery.changes before).live := by
  obtain ⟨adds, removes⟩ := reach.nothing_staged rest
  have start : Agrees (removals cs) r.beginDelivery r :=
    ⟨rfl, rest, by simp [beginDelivery, adds]⟩
  have agree := start.changes cs (List.Subset.refl _)
  have pending : (r.beginDelivery.changes cs).pendingRemoves = removals cs := by
    rw [pendingRemoves_changes rfl]
    simp [beginDelivery, removes]
  have ended : (r.beginDelivery.changes cs).endDelivery =
      { live := (r.changes cs).live.filter (· ∉ removals cs) } := by
    simp only [endDelivery, pending, agree.live]
  refine ⟨ended, ?_, ?_⟩
  · rw [ended, List.filter_eq_self]
    simp only [decide_eq_true_eq]
    exact ⟨fun h x gone live => h x live gone, fun h x live gone => h x gone live⟩
  · intro before c hc
    exact live_change_of_delivering (delivering_changes _ before) hc

/-- Listener 1 is removed and comes back, 2 is cleared away and 3 comes twice: only 3 is left, where
the immediate changes leave 3 and 1. -/
theorem endDelivery_changes_readded :
    let r : Registry Nat := ⟨[1, 2], false, [], []⟩
    let cs : List (Change Nat) := [.remove 1, .add 3, .clear, .add 3, .add 1, .add 3]
    Reachable r ∧ r.delivering = false ∧
      (r.changes cs).live = [3, 1] ∧ (r.beginDelivery.changes cs).endDelivery.live = [3] := by
  intro r cs
  have reach : Reachable r := .change (.add 2) (.change (.add 1) .new)
  have ended := (endDelivery_changes reach rfl cs).1
  refine ⟨reach, rfl, by decide, ?_⟩
  rw [ended]
  decide

end EventGates.Registry
