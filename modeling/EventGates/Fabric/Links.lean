import EventGates.Gate.Basic
import EventGates.Table

/-!
# The link graph

Links are symmetric: each of two linked gates lists the other among its partners, in the order in
which the links were made. Only live gates have a list. A gate that goes away takes its list along
and is then removed from the list of each former partner, one after the other.

The operations on single lists and pairs of lists are the ones that happen at one instant; the
others are built from them.
-/

namespace EventGates

/-- The partner lists of the live gates. -/
structure Links where
  lists : Table GateId (List GateId) := {}

namespace Links

def isLive (l : Links) (g : GateId) : Bool := l.lists.contains g

/-- The entries in the list of a gate. -/
def entries (l : Links) (g : GateId) : List GateId := (l.lists.find? g).getD []

/-- The live partners of a gate, in link order. -/
def partners (l : Links) (g : GateId) : List GateId := (l.entries g).filter l.isLive

def linked (l : Links) (a b : GateId) : Bool := b ∈ l.entries a

/-- A new gate, without links. -/
def addGate (l : Links) (g : GateId) : Links := ⟨l.lists.insert g []⟩

/-! ## At one instant -/

/-- Drops a gate from the list of another. -/
def forget (l : Links) (holder gone : GateId) : Links :=
  ⟨l.lists.modify holder fun ps => ps.filter (· ≠ gone)⟩

/-- Adds a gate to the list of another. -/
def record (l : Links) (holder partner : GateId) : Links :=
  ⟨l.lists.modify holder fun ps => ps ++ [partner]⟩

/-- Links two different gates; false if they are linked already. -/
def link (l : Links) (a b : GateId) : Links × Bool :=
  if l.linked a b then (l, false) else ((l.record a b).record b a, true)

/-- Removes the link of two different gates; false if there is none. -/
def unlink (l : Links) (a b : GateId) : Links × Bool :=
  ((l.forget a b).forget b a, l.linked a b)

/-- Drops the entries of gates that went away, and gives the others. -/
def prune (l : Links) (g : GateId) : Links × List GateId :=
  (⟨l.lists.modify g fun ps => ps.filter l.isLive⟩, l.partners g)

/-- A gate goes away; gives the list that it takes along. -/
def retire (l : Links) (g : GateId) : Links × List GateId := (⟨l.lists.erase g⟩, l.entries g)

/-! ## Lists after an instant -/

theorem entries_of_not_isLive {l : Links} {g : GateId} (h : l.isLive g = false) :
    l.entries g = [] := by
  simp_all [isLive, entries, Table.contains]

theorem isLive_of_mem_entries {l : Links} {g p : GateId} (h : p ∈ l.entries g) :
    l.isLive g = true := by
  cases hl : l.isLive g with
  | true => rfl
  | false => rw [entries_of_not_isLive hl] at h; cases h

@[simp] theorem isLive_addGate (l : Links) (g x : GateId) :
    (l.addGate g).isLive x = (decide (x = g) || l.isLive x) := by
  by_cases h : x = g <;> simp [isLive, addGate, Table.contains, h]

@[simp] theorem entries_addGate (l : Links) (g x : GateId) :
    (l.addGate g).entries x = if x = g then [] else l.entries x := by
  by_cases h : x = g <;> simp [entries, addGate, h]

@[simp] theorem isLive_forget (l : Links) (holder gone x : GateId) :
    (l.forget holder gone).isLive x = l.isLive x := by
  by_cases h : x = holder <;> simp [isLive, forget, Table.contains, h]

@[simp] theorem entries_forget (l : Links) (holder gone x : GateId) :
    (l.forget holder gone).entries x =
      if x = holder then (l.entries holder).filter (· ≠ gone) else l.entries x := by
  by_cases h : x = holder
  · subst h
    cases hl : l.lists.find? x <;> simp [entries, forget, hl]
  · simp [entries, forget, h]

@[simp] theorem isLive_record (l : Links) (holder partner x : GateId) :
    (l.record holder partner).isLive x = l.isLive x := by
  by_cases h : x = holder <;> simp [isLive, record, Table.contains, h]

@[simp] theorem entries_record (l : Links) (holder partner x : GateId) :
    (l.record holder partner).entries x =
      if x = holder ∧ l.isLive holder = true then l.entries holder ++ [partner]
      else l.entries x := by
  by_cases h : x = holder
  · subst h
    cases hl : l.lists.find? x <;> simp [entries, record, isLive, Table.contains, hl]
  · simp [entries, record, h]

@[simp] theorem isLive_prune (l : Links) (g x : GateId) :
    (l.prune g).1.isLive x = l.isLive x := by
  by_cases h : x = g <;> simp [isLive, prune, Table.contains, h]

@[simp] theorem entries_prune (l : Links) (g x : GateId) :
    (l.prune g).1.entries x = if x = g then l.partners g else l.entries x := by
  by_cases h : x = g
  · subst h
    cases hl : l.lists.find? x <;> simp [entries, partners, prune, hl]
  · simp [entries, prune, h]

@[simp] theorem isLive_retire (l : Links) (g x : GateId) :
    (l.retire g).1.isLive x = (!decide (x = g) && l.isLive x) := by
  by_cases h : x = g <;> simp [isLive, retire, Table.contains, h]

@[simp] theorem entries_retire (l : Links) (g x : GateId) :
    (l.retire g).1.entries x = if x = g then [] else l.entries x := by
  by_cases h : x = g <;> simp [entries, retire, h]

/-- Unlinking takes out the two entries of a link. -/
theorem mem_entries_unlink {l : Links} {a b x y : GateId} :
    y ∈ (l.unlink a b).1.entries x ↔
      y ∈ l.entries x ∧ ¬(x = a ∧ y = b) ∧ ¬(x = b ∧ y = a) := by
  by_cases hb : x = b <;> by_cases ha : x = a <;> by_cases hab : b = a <;>
    simp_all [unlink]

/-- Unlinking shortens lists. -/
theorem entries_unlink_sublist (l : Links) (a b x : GateId) :
    ((l.unlink a b).1.entries x).Sublist (l.entries x) := by
  by_cases hb : x = b <;> by_cases ha : x = a <;> by_cases hab : b = a <;>
    simp_all [unlink]

@[simp] theorem isLive_unlink (l : Links) (a b x : GateId) :
    (l.unlink a b).1.isLive x = l.isLive x := by
  simp [unlink]

/-- Linking two live gates that are not linked appends an entry to the list of each. -/
theorem entries_link {l : Links} {a b : GateId} (ne : a ≠ b) (la : l.isLive a = true)
    (lb : l.isLive b = true) (new : b ∉ l.entries a) (x : GateId) :
    (l.link a b).1.entries x =
      if x = a then l.entries a ++ [b] else if x = b then l.entries b ++ [a] else l.entries x := by
  have made : l.linked a b = false := by simp [linked, new]
  by_cases ha : x = a
  · subst ha
    simp [link, made, la, ne]
  · by_cases hb : x = b
    · subst hb
      simp [link, made, lb, ha]
    · simp [link, made, ha, hb]

/-- Gates that are linked already stay as they are. -/
theorem link_of_mem {l : Links} {a b : GateId} (h : b ∈ l.entries a) : l.link a b = (l, false) := by
  simp [link, linked, h]

@[simp] theorem isLive_link (l : Links) (a b x : GateId) :
    (l.link a b).1.isLive x = l.isLive x := by
  simp only [link]
  split <;> simp

/-! ## In several steps -/

/-- Unlinks a gate from each of several others; gives the number of links removed. -/
def unlinkEach (g : GateId) : List GateId → Links → Links × Nat
  | [], l => (l, 0)
  | p :: ps, l =>
    let (l, removed) := l.unlink g p
    let (l, count) := unlinkEach g ps l
    (l, count + removed.toNat)

/-- Removes the links of a gate in at most `rounds` rounds, each over the partners found at its
beginning. -/
def unlinkRounds (g : GateId) : Nat → Links → Links × Nat
  | 0, l => (l, 0)
  | rounds + 1, l =>
    match l.prune g with
    | (l, []) => (l, 0)
    | (l, ps) =>
      let (l, count) := unlinkEach g ps l
      let (l, more) := unlinkRounds g rounds l
      (l, count + more)

/-- Removes every link of a gate; gives their number. Alone, one round removes them all and the next
finds none. -/
def unlinkAll (l : Links) (g : GateId) : Links × Nat := unlinkRounds g 2 l

/-- A gate goes away and is removed from the lists of its former partners. -/
def remove (l : Links) (g : GateId) : Links :=
  let (l, ps) := l.retire g
  ps.foldl (fun l p => l.forget p g) l

end Links

end EventGates
