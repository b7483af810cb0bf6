import EventGates.Fabric.Basic
import Mathlib.Tactic.Common

/-!
# Link operations of several threads

Linking and unlinking two gates happen at one instant. Removing every link of a gate takes rounds: at
one instant the partners are found, and then each of them is unlinked at an instant of its own. A
gate that goes away takes its list along at one instant, and is then removed from the list of one
former partner after the other. Between any two of these instants other threads may do the same to
the same gates.

`Traffic` is a fabric with all that is under way, `Traffic.step` what can happen next, by the cases of
`Traffic.Turn`, and `Traffic.run` any order of it. `run_depart` and `run_clear` say that a thread that
is alone does by these steps what `Fabric.removeGate` and `Fabric.unlinkAll` do.
-/

namespace EventGates

abbrev ThreadId := Nat

/-- A removal of every link of a gate. -/
structure Clearing where
  gate : GateId
  /-- Partners found at the beginning of the round that are still to be unlinked. -/
  todo : List GateId := []
  /-- How many links were removed so far. -/
  removed : Nat := 0

/-- A fabric and the link operations under way. -/
structure Traffic where
  fabric : Fabric := {}
  clearings : Table ThreadId Clearing := {}
  /-- The gates on their way out, with the former partners that may still list them. -/
  departures : Table GateId (List GateId) := {}

/-- What happens to links at one instant. -/
inductive LinkStep where
  | create (gate : Gate)
  | link (a b : GateId)
  | unlink (a b : GateId)
  /-- A thread sets out to remove every link of a gate. -/
  | clear (t : ThreadId) (g : GateId)
  /-- It finds the partners of the gate, and is done if there are none. -/
  | round (t : ThreadId)
  /-- It unlinks the gate from the next of them. -/
  | cut (t : ThreadId)
  /-- The last handle of a gate is dropped. -/
  | depart (g : GateId)
  /-- A gate on its way out is removed from the list of the next former partner. -/
  | detach (g : GateId)

namespace Traffic

def isLive (n : Traffic) (g : GateId) : Bool := n.fabric.isLive g

/-- The entries in the list of a gate. -/
def entries (n : Traffic) (g : GateId) : List GateId := n.fabric.links.entries g

/-- The live partners of a gate. -/
def partners (n : Traffic) (g : GateId) : List GateId := n.fabric.links.partners g

/-- A thread that removes links keeps the gate and the partners it has not come to alive. -/
def isHeld (n : Traffic) (g : GateId) : Bool :=
  n.clearings.values.any fun c => c.gate = g || c.todo.contains g

def withLinks (n : Traffic) (links : Links) : Traffic :=
  { n with fabric := { n.fabric with links } }

/-- What a step leads to; none if it cannot be taken. -/
def step (n : Traffic) : LinkStep → Option Traffic
  | .create gate => some { n with fabric := (n.fabric.addGate gate).1 }
  | .link a b =>
    if n.isLive a && n.isLive b then
      match n.fabric.link a b with
      | .error _ => some n
      | .ok (fabric, _) => some { n with fabric }
    else none
  | .unlink a b =>
    if n.isLive a && n.isLive b then some { n with fabric := (n.fabric.unlink a b).1 } else none
  | .clear t g =>
    if n.isLive g && !n.clearings.contains t then
      some { n with clearings := n.clearings.insert t { gate := g } }
    else none
  | .round t =>
    match n.clearings.find? t with
    | some ⟨g, [], removed⟩ =>
      let (links, partners) := n.fabric.links.prune g
      some { n.withLinks links with
        clearings :=
          if partners.isEmpty then n.clearings.erase t
          else n.clearings.insert t ⟨g, partners, removed⟩ }
    | _ => none
  | .cut t =>
    match n.clearings.find? t with
    | some ⟨g, p :: ps, removed⟩ =>
      let (links, cut) := n.fabric.links.unlink g p
      some { n.withLinks links with
        clearings := n.clearings.insert t ⟨g, ps, removed + cut.toNat⟩ }
    | _ => none
  | .depart g =>
    if n.isLive g && !n.isHeld g then
      let (links, partners) := n.fabric.links.retire g
      some { n with
        fabric := { n.fabric with gates := n.fabric.gates.erase g, links }
        departures := n.departures.insert g partners }
    else none
  | .detach g =>
    match n.departures.find? g with
    | some (p :: ps) =>
      some { n.withLinks (n.fabric.links.forget p g) with
        departures := n.departures.insert g ps }
    | some [] => some { n with departures := n.departures.erase g }
    | none => none

/-- Takes a step, if it can be taken. -/
def next (n : Traffic) (e : LinkStep) : Traffic := (n.step e).getD n

/-- Takes steps from where they can be taken. -/
def runFrom (n : Traffic) (es : List LinkStep) : Traffic := es.foldl next n

/-- Takes steps from a fabric without gates. -/
def run (es : List LinkStep) : Traffic := runFrom {} es

/-! ## What a step can be -/

/-- A step that can be taken, with what makes it possible. -/
inductive Turn (n : Traffic) : LinkStep → Traffic → Prop where
  | create (gate : Gate) : Turn n (.create gate) { n with fabric := (n.fabric.addGate gate).1 }
  /-- A gate is not linked with itself. -/
  | refuse (g : GateId) : Turn n (.link g g) n
  | link {a b : GateId} (ne : a ≠ b) (la : n.isLive a = true) (lb : n.isLive b = true) :
    Turn n (.link a b) (n.withLinks (n.fabric.links.link a b).1)
  | ignore (g : GateId) : Turn n (.unlink g g) n
  | unlink {a b : GateId} (ne : a ≠ b) (la : n.isLive a = true) (lb : n.isLive b = true) :
    Turn n (.unlink a b) (n.withLinks (n.fabric.links.unlink a b).1)
  | clear {t : ThreadId} {g : GateId} (live : n.isLive g = true)
    (idle : n.clearings.find? t = none) :
    Turn n (.clear t g) { n with clearings := n.clearings.insert t { gate := g } }
  | finish {t : ThreadId} {g : GateId} {removed : Nat}
    (found : n.clearings.find? t = some ⟨g, [], removed⟩) (none : n.partners g = []) :
    Turn n (.round t)
      { n.withLinks (n.fabric.links.prune g).1 with clearings := n.clearings.erase t }
  | round {t : ThreadId} {g : GateId} {removed : Nat}
    (found : n.clearings.find? t = some ⟨g, [], removed⟩) (some : n.partners g ≠ []) :
    Turn n (.round t)
      { n.withLinks (n.fabric.links.prune g).1 with
        clearings := n.clearings.insert t ⟨g, n.partners g, removed⟩ }
  | cut {t : ThreadId} {g p : GateId} {ps : List GateId} {removed : Nat}
    (found : n.clearings.find? t = some ⟨g, p :: ps, removed⟩) :
    Turn n (.cut t)
      { n.withLinks (n.fabric.links.unlink g p).1 with
        clearings := n.clearings.insert t ⟨g, ps, removed + (n.fabric.links.unlink g p).2.toNat⟩ }
  | depart {g : GateId} (live : n.isLive g = true) (free : n.isHeld g = false) :
    Turn n (.depart g)
      { n with
        fabric := { n.fabric with
          gates := n.fabric.gates.erase g
          links := (n.fabric.links.retire g).1 }
        departures := n.departures.insert g (n.entries g) }
  | detach {g p : GateId} {ps : List GateId} (leaving : n.departures.find? g = some (p :: ps)) :
    Turn n (.detach g)
      { n.withLinks (n.fabric.links.forget p g) with departures := n.departures.insert g ps }
  | arrive {g : GateId} (leaving : n.departures.find? g = some []) :
    Turn n (.detach g) { n with departures := n.departures.erase g }

/-- Every step that can be taken is one of these. -/
lemma turn_of_step {n n' : Traffic} {e : LinkStep} (made : n.step e = some n') : n.Turn e n' := by
  cases e with
  | create gate =>
    cases made
    exact .create gate
  | link a b =>
    simp only [step, Fabric.link] at made
    split at made
    · next live =>
      rw [Bool.and_eq_true] at live
      by_cases same : a = b
      · subst same
        simp only [if_true] at made
        cases made
        exact .refuse a
      · simp only [same, if_false] at made
        cases made
        exact .link same live.1 live.2
    · cases made
  | unlink a b =>
    simp only [step, Fabric.unlink] at made
    split at made
    · next live =>
      rw [Bool.and_eq_true] at live
      by_cases same : a = b
      · subst same
        simp only [if_true] at made
        cases made
        exact .ignore a
      · simp only [same, if_false] at made
        cases made
        exact .unlink same live.1 live.2
    · cases made
  | clear t g =>
    simp only [step] at made
    split at made
    · next may =>
      cases made
      simp only [Bool.and_eq_true, Bool.not_eq_true', Table.contains, Option.isSome_eq_false_iff,
        Option.isNone_iff_eq_none] at may
      exact .clear may.1 may.2
    · cases made
  | round t =>
    simp only [step] at made
    split at made
    · next g removed found =>
      have seen : (n.fabric.links.prune g).2 = n.partners g := rfl
      cases made
      rw [seen]
      split
      · next none => exact .finish found (List.isEmpty_iff.mp none)
      · next some => exact .round found fun none => some (List.isEmpty_iff.mpr none)
    · cases made
  | cut t =>
    simp only [step] at made
    split at made
    · next found =>
      cases made
      exact .cut found
    · cases made
  | depart g =>
    simp only [step] at made
    split at made
    · next may =>
      cases made
      simp only [Bool.and_eq_true, Bool.not_eq_true'] at may
      exact .depart may.1 may.2
    · cases made
  | detach g =>
    simp only [step] at made
    split at made
    · next leaving =>
      cases made
      exact .detach leaving
    · next leaving =>
      cases made
      exact .arrive leaving
    · cases made

/-! ## A thread alone -/

/-- Steps are taken one after the other. -/
lemma runFrom_append (n : Traffic) (es es' : List LinkStep) :
    n.runFrom (es ++ es') = (n.runFrom es).runFrom es' := by
  simp only [runFrom, List.foldl_append]

/-- A departure goes through the former partners in order, and ends. -/
lemma runFrom_detach {n : Traffic} {g : GateId} {ps : List GateId}
    (leaving : n.departures.find? g = some ps) :
    (n.runFrom (List.replicate (ps.length + 1) (.detach g))).fabric =
      { n.fabric with links := ps.foldl (fun l p => l.forget p g) n.fabric.links } := by
  induction ps generalizing n with
  | nil => simp [runFrom, next, step, leaving]
  | cons p ps ih =>
    have first : n.next (.detach g) =
        { n.withLinks (n.fabric.links.forget p g) with
          departures := n.departures.insert g ps } := by
      simp [next, step, leaving]
    rw [List.length_cons, List.replicate_succ]
    show ((n.next (.detach g)).runFrom _).fabric = _
    rw [first, ih (by simp)]
    rfl

/-- A gate that nobody holds departs, undisturbed, as if at one instant. -/
theorem run_depart {n : Traffic} {g : GateId} (live : n.isLive g = true)
    (free : n.isHeld g = false) :
    (n.runFrom (.depart g :: List.replicate ((n.entries g).length + 1) (.detach g))).fabric =
      n.fabric.removeGate g := by
  have first : n.next (.depart g) =
      { n with
        fabric := { n.fabric with
          gates := n.fabric.gates.erase g
          links := (n.fabric.links.retire g).1 }
        departures := n.departures.insert g (n.entries g) } := by
    simp [next, step, live, free, Links.retire, entries]
  show ((n.next (.depart g)).runFrom _).fabric = _
  rw [first, runFrom_detach (by simp)]
  rfl

/-- Unlinking a gate from several others takes them out of its list. -/
lemma mem_entries_unlinkEach {g y : GateId} {ps : List GateId} {l : Links}
    (h : y ∈ (Links.unlinkEach g ps l).1.entries g) : y ∈ l.entries g ∧ y ∉ ps := by
  induction ps generalizing l with
  | nil => exact ⟨h, List.not_mem_nil⟩
  | cons p ps ih =>
    obtain ⟨kept, other⟩ := ih h
    obtain ⟨old, hp, _⟩ := Links.mem_entries_unlink.mp kept
    refine ⟨old, ?_⟩
    rw [List.mem_cons]
    rintro (rfl | hy)
    · exact hp ⟨rfl, rfl⟩
    · exact other hy

/-- A round leaves the gate without partners. -/
lemma partners_unlinkEach (l : Links) (g : GateId) :
    (Links.unlinkEach g (l.partners g) (l.prune g).1).1.partners g = [] := by
  apply List.filter_eq_nil_iff.mpr
  intro p h
  obtain ⟨listed, other⟩ := mem_entries_unlinkEach h
  rw [Links.entries_prune, if_pos rfl] at listed
  exact absurd listed other

/-- A round goes through the partners that it found in order. -/
lemma runFrom_cut {n : Traffic} {t : ThreadId} {g : GateId} {ps : List GateId} {removed : Nat}
    (clearing : n.clearings.find? t = some ⟨g, ps, removed⟩) :
    let n' := n.runFrom (List.replicate ps.length (.cut t))
    let done := Links.unlinkEach g ps n.fabric.links
    n'.fabric = { n.fabric with links := done.1 } ∧
      n'.clearings.find? t = some ⟨g, [], removed + done.2⟩ := by
  induction ps generalizing n removed with
  | nil => exact ⟨rfl, clearing⟩
  | cons p ps ih =>
    cases hu : n.fabric.links.unlink g p with
    | mk links cut =>
      have first : n.next (.cut t) =
          { n.withLinks links with
            clearings := n.clearings.insert t ⟨g, ps, removed + cut.toNat⟩ } := by
        simp [next, step, clearing, hu]
      have going : (n.next (.cut t)).clearings.find? t =
          some ⟨g, ps, removed + cut.toNat⟩ := by
        simp [first]
      obtain ⟨fabric, left⟩ := ih going
      rw [List.length_cons, List.replicate_succ]
      show ((n.next (.cut t)).runFrom _).fabric = _ ∧
        ((n.next (.cut t)).runFrom _).clearings.find? t = _
      rw [fabric, left, first]
      simp only [Links.unlinkEach, hu, withLinks, Nat.add_assoc, Nat.add_comm, and_self]

/-- A thread removes every link of a live gate, undisturbed, as if at one instant. -/
theorem run_clear {n : Traffic} {t : ThreadId} {g : GateId} (live : n.isLive g = true)
    (idle : n.clearings.find? t = none) :
    let round := [.clear t g, .round t] ++ List.replicate (n.partners g).length (.cut t)
    (n.runFrom (round ++ [.round t])).fabric = (n.fabric.unlinkAll g).1 ∧
      ((n.runFrom round).clearings.find? t).elim 0 Clearing.removed = (n.fabric.unlinkAll g).2 := by
  intro round
  have out : n.next (.clear t g) =
      { n with clearings := n.clearings.insert t { gate := g } } := by
    simp [next, step, live, Table.contains, idle]
  have found : (n.next (.clear t g)).next (.round t) =
      { n.withLinks (n.fabric.links.prune g).1 with
        clearings :=
          if (n.partners g).isEmpty then (n.clearings.insert t { gate := g }).erase t
          else (n.clearings.insert t { gate := g }).insert t ⟨g, n.partners g, 0⟩ } := by
    rw [out]
    simp [next, step, withLinks, Links.prune, partners]
  have run : n.runFrom round = ((n.next (.clear t g)).next (.round t)).runFrom
      (List.replicate (n.partners g).length (.cut t)) := runFrom_append _ _ _
  rw [runFrom_append, run]
  cases hp : n.partners g with
  | nil =>
    have pruned : n.fabric.links.prune g = ((n.fabric.links.prune g).1, []) :=
      Prod.ext rfl hp
    simp only [Fabric.unlinkAll, Links.unlinkAll, Links.unlinkRounds]
    rw [found, hp, pruned]
    simp [runFrom, next, step, withLinks]
  | cons p ps =>
    have pruned : n.fabric.links.prune g = ((n.fabric.links.prune g).1, p :: ps) :=
      Prod.ext rfl hp
    have going : ((n.next (.clear t g)).next (.round t)).clearings.find? t =
        some ⟨g, p :: ps, 0⟩ := by
      simp [found, hp]
    obtain ⟨fabric, left⟩ := runFrom_cut going
    rw [found] at fabric left
    -- alone, the thread finds no partner in the next round
    have alone := partners_unlinkEach n.fabric.links g
    rw [show n.fabric.links.partners g = p :: ps from hp] at alone
    have again : (Links.unlinkEach g (p :: ps) (n.fabric.links.prune g).1).1.prune g =
        (((Links.unlinkEach g (p :: ps) (n.fabric.links.prune g).1).1.prune g).1, []) :=
      Prod.ext rfl alone
    rw [found]
    generalize runFrom _ (List.replicate _ _) = m at fabric left ⊢
    have last : (m.runFrom [.round t]).fabric =
        { m.fabric with links := (m.fabric.links.prune g).1 } := by
      simp [runFrom, next, step, left, withLinks]
    rw [last, fabric, left]
    simp only [Fabric.unlinkAll, Links.unlinkAll, Links.unlinkRounds]
    rw [pruned]
    dsimp only
    rw [again]
    simp [withLinks]

end Traffic

end EventGates
