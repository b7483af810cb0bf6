import EventGates.Fabric.Links
import Mathlib.Data.Sym.Sym2

/-!
# Partners after a step

What each change to partner lists does to the live partners of a gate, in the order of its list. A
change that takes something out is a filter, so that the order of the rest is kept. Changes that only
concern entries for gates that went away do nothing.
-/

namespace EventGates

namespace Links

variable {l : Links} {a b g x : GateId}

/-- Forgetting a gate takes one entry out of all lists. -/
lemma entries_forget_eq_filter (l : Links) (holder gone x : GateId) :
    (l.forget holder gone).entries x =
      (l.entries x).filter fun y => ¬(x = holder ∧ y = gone) := by
  rw [entries_forget]
  split
  · next same =>
    subst same
    simp
  · next other => simp [other]

/-- Unlinking takes the two entries of a link out of all lists. -/
lemma entries_unlink_eq_filter (l : Links) (a b x : GateId) :
    (l.unlink a b).1.entries x = (l.entries x).filter fun y => s(x, y) ≠ s(a, b) := by
  simp only [unlink, entries_forget_eq_filter, List.filter_filter]
  apply List.filter_congr
  intro y _
  rw [Bool.eq_iff_iff]
  simp only [Bool.and_eq_true, decide_eq_true_eq, ne_eq, Sym2.eq_iff, not_or]
  exact and_comm

/-- Unlinking takes each of two partners from the other. -/
lemma partners_unlink (l : Links) (a b x : GateId) :
    (l.unlink a b).1.partners x = (l.partners x).filter fun y => s(x, y) ≠ s(a, b) := by
  have live : (l.unlink a b).1.isLive = l.isLive := funext fun y => isLive_unlink l a b y
  rw [partners, partners, entries_unlink_eq_filter, live, List.filter_comm]

/-- Two live gates that are not linked are the last partners of each other when they are. -/
lemma partners_link (ne : a ≠ b) (la : l.isLive a = true) (lb : l.isLive b = true)
    (new : b ∉ l.entries a) (x : GateId) :
    (l.link a b).1.partners x =
      if x = a then l.partners a ++ [b] else if x = b then l.partners b ++ [a]
      else l.partners x := by
  have live : (l.link a b).1.isLive = l.isLive := funext fun y => isLive_link l a b y
  rw [partners, live, entries_link ne la lb new]
  split
  · rw [List.filter_append, List.filter_singleton, lb]
    rfl
  · split
    · rw [List.filter_append, List.filter_singleton, la]
      rfl
    · rfl

/-- The live partners of a gate are left when its list is pruned. -/
lemma partners_prune (l : Links) (g x : GateId) : (l.prune g).1.partners x = l.partners x := by
  have live : (l.prune g).1.isLive = l.isLive := funext fun y => isLive_prune l g y
  rw [partners, live, entries_prune]
  split
  · next same =>
    rw [partners, List.filter_filter, same, partners]
    simp only [Bool.and_self]
  · rfl

/-- Nobody loses a live partner when a gate that is gone is forgotten. -/
lemma partners_forget (gone : l.isLive g = false) (p x : GateId) :
    (l.forget p g).partners x = l.partners x := by
  have live : (l.forget p g).isLive = l.isLive := funext fun y => isLive_forget l p g y
  rw [partners, live, entries_forget_eq_filter, List.filter_filter, partners]
  apply List.filter_congr
  intro y _
  cases alive : l.isLive y with
  | false => rfl
  | true =>
    have other : y ≠ g := by
      rintro rfl
      rw [gone] at alive
      cases alive
    simp [other]

/-- A gate that went away is nobody's live partner. -/
lemma partners_retire (l : Links) (g x : GateId) :
    (l.retire g).1.partners x = if x = g then [] else (l.partners x).filter (· ≠ g) := by
  rw [partners, entries_retire]
  split
  · rfl
  · rw [partners, List.filter_filter]
    apply List.filter_congr
    intro y _
    rw [isLive_retire]
    simp

/-- A list that stays, of gates that are live or not as they were, has the same partners. -/
lemma partners_congr {l' : Links} (entries : l'.entries x = l.entries x)
    (live : ∀ y ∈ l.entries x, l'.isLive y = l.isLive y) :
    l'.entries x = l.entries x ∧ l'.partners x = l.partners x := by
  refine ⟨entries, ?_⟩
  rw [partners, partners, entries]
  exact List.filter_congr live

/-- Linking two gates leaves the lists of others. -/
lemma entries_link_of_ne (ha : x ≠ a) (hb : x ≠ b) : (l.link a b).1.entries x = l.entries x := by
  rw [link]
  split
  · rfl
  · rw [entries_record, if_neg fun h => hb h.1, entries_record, if_neg fun h => ha h.1]

/-- Unlinking two gates leaves the lists of others. -/
lemma entries_unlink_of_ne (ha : x ≠ a) (hb : x ≠ b) :
    (l.unlink a b).1.entries x = l.entries x := by
  rw [unlink, entries_forget, if_neg hb, entries_forget, if_neg ha]

end Links

end EventGates
