import EventGates.Gate.Basic
import Mathlib.Data.Finset.Erase
import Mathlib.Data.Finset.Insert
import Mathlib.Data.Sym.Sym2

/-!
# Graphs of links

A simple undirected graph on gates that keeps its edges in the order in which they were made. An edge
carries the number of edges made before it, which is the time at which it was made.

That no edge is there twice, that edges join gates of the graph and that they are in order is part of
what a graph is, so each operation says why it still holds. The neighbours of a gate come in the order
in which their edges were made (`pairwise_neighbours`), and each operation is described by what it does
to them.
-/

namespace EventGates

/-- An edge between two different gates. -/
structure Edge where
  one : GateId
  other : GateId
  /-- How many edges were made before. -/
  time : Nat
  proper : one ≠ other

namespace Edge

/-- The two gates, in no order. -/
def ends (e : Edge) : Sym2 GateId := s(e.one, e.other)

/-- The gate at the other end, if a gate is at one of them. -/
def across (e : Edge) (g : GateId) : Option GateId :=
  if e.one = g then some e.other else if e.other = g then some e.one else none

lemma across_eq_some {e : Edge} {g p : GateId} : e.across g = some p ↔ e.ends = s(g, p) := by
  -- a gate is at one end only, since an edge is no loop
  have proper := e.proper
  simp only [across, ends, Sym2.eq_iff]
  split
  · next here =>
    subst here
    simp only [Option.some.injEq, true_and]
    exact ⟨.inl, fun h => h.resolve_right fun h => proper h.2.symm⟩
  · next elsewhere =>
    split
    · next here =>
      subst here
      simp only [Option.some.injEq, and_true]
      exact ⟨.inr, fun h => h.resolve_left fun h => elsewhere h.1⟩
    · next apart =>
      refine iff_of_false nofun ?_
      rintro (h | h)
      · exact elsewhere h.1
      · exact apart h.2

end Edge

/-- A simple graph whose edges were made one after the other. -/
structure Graph where
  gates : Finset GateId
  edges : List Edge
  /-- How many edges were ever made. -/
  made : Nat
  among : ∀ e ∈ edges, e.one ∈ gates ∧ e.other ∈ gates
  simple : (edges.map Edge.ends).Nodup
  ordered : edges.Pairwise fun e e' => e.time < e'.time
  past : ∀ e ∈ edges, e.time < made

namespace Graph

/-- The graph without gates. -/
def empty : Graph := ⟨∅, [], 0, nofun, List.nodup_nil, .nil, nofun⟩

/-- Two gates are joined by an edge. -/
def linked (G : Graph) (a b : GateId) : Bool := s(a, b) ∈ G.edges.map Edge.ends

/-- The gates that a gate is joined with, in the order in which the edges were made. -/
def neighbours (G : Graph) (g : GateId) : List GateId := G.edges.filterMap (·.across g)

/-- A gate joins the graph. -/
def add (G : Graph) (g : GateId) : Graph where
  __ := G
  gates := insert g G.gates
  among e mem := (G.among e mem).imp (Finset.mem_insert_of_mem ·) (Finset.mem_insert_of_mem ·)

/-- Two different gates of the graph are joined; false if they are already. -/
def link (G : Graph) (a b : GateId) : Graph × Bool :=
  if new : (a ≠ b ∧ a ∈ G.gates ∧ b ∈ G.gates) ∧ G.linked a b = false then
    ({ G with
      edges := G.edges ++ [⟨a, b, G.made, new.1.1⟩]
      made := G.made + 1
      among := by
        intro e mem
        cases List.mem_append.mp mem with
        | inl old => exact G.among e old
        | inr last =>
          obtain rfl := List.mem_singleton.mp last
          exact new.1.2
      simple := by
        rw [List.map_append, List.nodup_append]
        refine ⟨G.simple, List.nodup_singleton _, ?_⟩
        rintro x old _ (_ | ⟨_, ⟨⟩⟩) rfl
        exact of_decide_eq_false new.2 old
      ordered := by
        rw [List.pairwise_append]
        refine ⟨G.ordered, List.pairwise_singleton _ _, ?_⟩
        rintro e old _ (_ | ⟨_, ⟨⟩⟩)
        exact G.past e old
      past := by
        intro e mem
        cases List.mem_append.mp mem with
        | inl old => exact Nat.lt_succ_of_lt (G.past e old)
        | inr last =>
          obtain rfl := List.mem_singleton.mp last
          exact Nat.lt_succ_self _ }, true)
  else (G, false)

/-- Some of the edges are left. -/
def keep (G : Graph) (p : Edge → Bool) : Graph where
  __ := G
  edges := G.edges.filter p
  among e mem := G.among e (List.mem_filter.mp mem).1
  simple := G.simple.sublist (List.filter_sublist.map Edge.ends)
  ordered := G.ordered.filter p
  past e mem := G.past e (List.mem_filter.mp mem).1

/-- The edge between two gates is removed; false if there is none. -/
def unlink (G : Graph) (a b : GateId) : Graph × Bool :=
  (G.keep fun e => e.ends ≠ s(a, b), G.linked a b)

/-- A gate leaves the graph with its edges. -/
def remove (G : Graph) (g : GateId) : Graph where
  __ := G.keep fun e => (e.across g).isNone
  gates := G.gates.erase g
  among e mem := by
    obtain ⟨old, apart⟩ := List.mem_filter.mp mem
    simp only [Edge.across] at apart
    split at apart
    · cases apart
    · next one =>
      split at apart
      · cases apart
      · next other =>
        exact (G.among e old).imp (Finset.mem_erase_of_ne_of_mem one)
          (Finset.mem_erase_of_ne_of_mem other)

variable {G : Graph} {a b g p x : GateId}

/-! ## Neighbours -/

/-- The neighbours of a gate are those it is joined with. -/
lemma mem_neighbours : p ∈ G.neighbours g ↔ G.linked g p = true := by
  simp only [neighbours, linked, List.mem_filterMap, decide_eq_true_eq, List.mem_map,
    Edge.across_eq_some]

/-- Only gates of the graph have neighbours. -/
lemma neighbours_of_not_mem (h : g ∉ G.gates) : G.neighbours g = [] := by
  rw [List.eq_nil_iff_forall_not_mem]
  intro p mem
  obtain ⟨e, old, across⟩ := List.mem_filterMap.mp mem
  obtain ⟨one, other⟩ := G.among e old
  obtain ⟨rfl, -⟩ | ⟨-, rfl⟩ := Sym2.eq_iff.mp (Edge.across_eq_some.mp across)
  · exact h one
  · exact h other

/-- Neighbours come in the order in which their edges were made. -/
theorem pairwise_neighbours (G : Graph) (g : GateId) :
    (G.neighbours g).Pairwise fun p q =>
      ∃ e ∈ G.edges, ∃ e' ∈ G.edges,
        e.ends = s(g, p) ∧ e'.ends = s(g, q) ∧ e.time < e'.time := by
  rw [neighbours, List.pairwise_filterMap]
  apply G.ordered.imp_of_mem
  intro e e' mem mem' earlier p across q across'
  exact ⟨e, mem, e', mem', Edge.across_eq_some.mp across, Edge.across_eq_some.mp across', earlier⟩

/-! ## Neighbours after an operation -/

/-- A new edge joins two gates, and each becomes the last neighbour of the other. -/
lemma neighbours_link (ne : a ≠ b) (ha : a ∈ G.gates) (hb : b ∈ G.gates)
    (apart : G.linked a b = false) (x : GateId) :
    (G.link a b).1.neighbours x =
      if x = a then G.neighbours a ++ [b] else if x = b then G.neighbours b ++ [a]
      else G.neighbours x := by
  rw [link, dif_pos ⟨⟨ne, ha, hb⟩, apart⟩]
  simp only [neighbours, List.filterMap_append, List.filterMap_cons, List.filterMap_nil, Edge.across]
  by_cases hxa : x = a
  · simp [hxa]
  · by_cases hxb : x = b
    · simp [hxb, ne, Ne.symm ne]
    · simp [hxa, hxb, Ne.symm hxa, Ne.symm hxb]

/-- Neighbours are left where their edges are. -/
lemma neighbours_keep {p : Edge → Bool} {q : GateId → Bool}
    (agree : ∀ e y, e.across x = some y → p e = q y) :
    (G.keep p).neighbours x = (G.neighbours x).filter q := by
  simp only [neighbours, keep, List.filterMap_filter, List.filter_filterMap]
  apply List.filterMap_congr
  intro e _
  cases across : e.across x with
  | none => simp
  | some y => simp [agree e y across, Option.filter]

/-- Two gates that are joined no longer are no neighbours. -/
lemma neighbours_unlink (a b x : GateId) :
    (G.unlink a b).1.neighbours x = (G.neighbours x).filter fun y => s(x, y) ≠ s(a, b) := by
  apply neighbours_keep
  intro e y across
  rw [Edge.across_eq_some.mp across]

/-- No gate is joined with itself. -/
lemma unlink_self (a : GateId) : G.unlink a a = (G, false) := by
  have proper : ∀ e : Edge, e.ends ≠ s(a, a) := by
    intro e loop
    obtain ⟨one, other⟩ | ⟨one, other⟩ := Sym2.eq_iff.mp loop
    · exact e.proper (one.trans other.symm)
    · exact e.proper (one.trans other.symm)
  have apart : G.linked a a = false := by
    rw [linked, decide_eq_false_iff_not, List.mem_map]
    rintro ⟨e, -, loop⟩
    exact proper e loop
  have all : G.edges.filter (fun e => e.ends ≠ s(a, a)) = G.edges :=
    List.filter_eq_self.mpr fun e _ => decide_eq_true (proper e)
  rw [unlink, apart]
  congr 1
  obtain ⟨gates, edges, made, among, simple, ordered, past⟩ := G
  simp only [keep, mk.injEq, true_and, and_true]
  exact all

/-- A gate that left is nobody's neighbour. -/
lemma neighbours_remove (g x : GateId) :
    (G.remove g).neighbours x = if x = g then [] else (G.neighbours x).filter (· ≠ g) := by
  show (G.keep fun e => (e.across g).isNone).neighbours x = _
  split
  · next same =>
    subst same
    rw [neighbours_keep (q := fun _ => false), List.filter_false]
    intro e y across
    rw [across]
    rfl
  · next other =>
    apply neighbours_keep
    intro e y across
    have ends := Edge.across_eq_some.mp across
    cases near : e.across g with
    | none =>
      have apart : y ≠ g := by
        rintro rfl
        rw [Sym2.eq_swap, ← Edge.across_eq_some, near] at ends
        cases ends
      simp [apart]
    | some z =>
      have joined := ends.symm.trans (Edge.across_eq_some.mp near)
      obtain ⟨rfl, -⟩ | ⟨-, rfl⟩ := Sym2.eq_iff.mp joined
      · exact absurd rfl other
      · simp

/-! ## Counting edges -/

/-- Joining two gates makes an edge exactly if it says so. -/
lemma length_link (a b : GateId) :
    (G.link a b).1.edges.length = G.edges.length + (G.link a b).2.toNat := by
  rw [link]
  split
  · exact List.length_append
  · rfl

/-- Unlinking two gates takes an edge exactly if it says so. -/
lemma length_unlink (a b : GateId) :
    (G.unlink a b).1.edges.length + (G.unlink a b).2.toNat = G.edges.length := by
  -- no edge is there twice
  have once : G.edges.countP (fun e => e.ends = s(a, b)) = (G.linked a b).toNat := by
    have count := G.simple.count (a := s(a, b))
    rw [List.count, List.countP_map] at count
    simpa [linked, Bool.toNat, cond_eq_ite, Function.comp_def, beq_eq_decide] using count
  have parts := List.length_eq_countP_add_countP (fun e : Edge => e.ends = s(a, b)) (l := G.edges)
  rw [once, List.countP_eq_length_filter] at parts
  simpa [unlink, keep, Nat.add_comm] using parts.symm

/-- A gate that leaves takes an edge for each neighbour along. -/
lemma length_remove (g : GateId) :
    (G.remove g).edges.length + (G.neighbours g).length = G.edges.length := by
  have parts := List.length_eq_countP_add_countP (fun e : Edge => (e.across g).isSome) (l := G.edges)
  have apart : (G.remove g).edges.length =
      G.edges.countP fun e => decide ¬(e.across g).isSome = true := by
    rw [List.countP_eq_length_filter]
    show (G.edges.filter fun e => (e.across g).isNone).length = _
    congr 2
    funext e
    cases e.across g with
    | none => rfl
    | some p => rfl
  rw [neighbours, List.length_filterMap_eq_countP, parts, apart, Nat.add_comm]

end Graph

end EventGates
