import EventGates.Proofs.Links.Network
import EventGates.Proofs.Links.Partners
import EventGates.Proofs.Links.Symmetry

/-!
# Links are a graph

Whatever the order in which the link operations of several threads take their steps, the partner lists
read as a graph: the live partners of a gate are its neighbours, in the order in which the edges were
made, and each operation does to the graph, and says, what it is to (`run_refines`). A step that only
tidies lists does nothing to the graph.

The invariant is `Mirrors`. Besides the graph it has the count of each removal under way, and it has
that gates which a thread holds are live, for a link is counted by one entry alone.
-/

namespace EventGates

namespace Traffic

/-- What a step does to the network that the lists read as. -/
def networkStep (n : Traffic) : LinkStep → NetworkStep
  | .create _ => .add n.fabric.nextGate
  | .link a b => .link a b
  | .unlink a b => .unlink a b
  | .clear t g => .clear t g
  | .round t => .look t
  | .cut t =>
    match n.clearings.find? t with
    | some ⟨_, p :: _, _⟩ => .cut t p
    | _ => .idle
  | .depart g => .remove g
  | .detach _ => .idle

/-- What an operation says if a step ends it. -/
def answer? (n : Traffic) : LinkStep → Option LinkAnswer
  | .link a b => some (.linked ((n.fabric.link a b).map Prod.snd))
  | .unlink a b => some (.unlinked (n.fabric.unlink a b).2)
  | .round t =>
    (n.clearings.find? t).bind fun c =>
      if (n.fabric.links.prune c.gate).2 = [] then some (.cleared c.removed) else none
  | _ => none

/-- What the steps that can be taken do to the network, in order. -/
def networkSteps (n : Traffic) : List LinkStep → List NetworkStep
  | [] => []
  | e :: es =>
    match n.step e with
    | none => n.networkSteps es
    | some n' => n.networkStep e :: n'.networkSteps es

/-- What operations say at the steps that can be taken, in order. -/
def answers (n : Traffic) : List LinkStep → List LinkAnswer
  | [] => []
  | e :: es =>
    match n.step e with
    | none => n.answers es
    | some n' => (n.answer? e).toList ++ n'.answers es

/-- The gates that a step is about. -/
def involved (n : Traffic) : LinkStep → List GateId
  | .create _ => [n.fabric.nextGate]
  | .link a b => [a, b]
  | .unlink a b => [a, b]
  | .clear _ g => [g]
  | .round t => ((n.clearings.find? t).map Clearing.gate).toList
  | .cut t =>
    match n.clearings.find? t with
    | some ⟨g, p :: _, _⟩ => [g, p]
    | _ => []
  | .depart g => g :: n.partners g
  | .detach g => ((n.departures.find? g).bind List.head?).toList

/-- The lists read as the graph of a network, and the removals under way are its removals. -/
structure Mirrors (n : Traffic) (s : Network) : Prop where
  sound : Sound n.fabric n.departures
  gates : ∀ g, g ∈ s.graph.gates ↔ n.isLive g = true
  partners : ∀ g, n.partners g = s.graph.neighbours g
  removing : ∀ t, s.removing.find? t = (n.clearings.find? t).map fun c => (c.gate, c.removed)
  held : ∀ t c, n.clearings.find? t = some c →
    n.isLive c.gate = true ∧ ∀ p ∈ c.todo, n.isLive p = true

namespace Mirrors

variable {n n' : Traffic} {s : Network} {a b g p x : GateId} {t : ThreadId}

/-- A live gate is listed by its neighbours. -/
lemma linked (h : Mirrors n s) (live : n.isLive b = true) :
    s.graph.linked a b = n.fabric.links.linked a b := by
  have partner : b ∈ n.partners a ↔ b ∈ n.entries a := by
    show b ∈ (n.entries a).filter _ ↔ _
    rw [List.mem_filter, h.sound.agree]
    exact and_iff_left live
  rw [Bool.eq_iff_iff, ← Graph.mem_neighbours, ← h.partners, partner]
  exact decide_eq_true_iff.symm

/-! ## Changes to lists -/

/-- Lists change as the edges of the graph do, between the same gates. -/
lemma relink (h : Mirrors n s) {links : Links} {departures : Table GateId (List GateId)}
    {graph : Graph} (sound : Sound { n.fabric with links } departures)
    (gates : graph.gates = s.graph.gates) (partners : ∀ x, links.partners x = graph.neighbours x) :
    Mirrors { n.withLinks links with departures } { s with graph } where
  sound := sound
  gates g := by
    show g ∈ graph.gates ↔ _
    rw [gates]
    exact h.gates g
  partners := partners
  removing := h.removing
  held := h.held

/-- Two different live gates are linked. -/
lemma link (h : Mirrors n s) (ne : a ≠ b) (la : n.isLive a = true) (lb : n.isLive b = true) :
    Mirrors (n.withLinks (n.fabric.links.link a b).1) { s with graph := (s.graph.link a b).1 } ∧
      (s.graph.link a b).2 = (n.fabric.links.link a b).2 := by
  -- list and graph agree on whether there is a link, so both make it or neither does
  have same := h.linked (a := a) lb
  cases old : s.graph.linked a b with
  | true =>
    have listed : b ∈ n.fabric.links.entries a := of_decide_eq_true (same.symm.trans old)
    have stays : s.graph.link a b = (s.graph, false) := by
      rw [Graph.link, dif_neg]
      rintro ⟨-, apart⟩
      exact Bool.false_ne_true (apart.symm.trans old)
    rw [stays, Links.link_of_mem listed]
    exact ⟨h, rfl⟩
  | false =>
    have unlisted : b ∉ n.fabric.links.entries a := of_decide_eq_false (same.symm.trans old)
    have ma := (h.gates a).mpr la
    have mb := (h.gates b).mpr lb
    have made : (s.graph.link a b).2 = true := by
      rw [Graph.link, dif_pos ⟨⟨ne, ma, mb⟩, old⟩]
    have gates : (s.graph.link a b).1.gates = s.graph.gates := by
      rw [Graph.link, dif_pos ⟨⟨ne, ma, mb⟩, old⟩]
    refine ⟨h.relink (h.sound.link ne la lb) gates ?_, ?_⟩
    · intro x
      rw [Graph.neighbours_link ne ma mb old, Links.partners_link ne ((h.sound.agree a).trans la)
        ((h.sound.agree b).trans lb) unlisted]
      simp only [← h.partners]
      rfl
    · have apart : ¬n.fabric.links.linked a b = true := by
        rw [Links.linked, decide_eq_false unlisted]
        exact Bool.false_ne_true
      rw [made, Links.link, if_neg apart]

/-- Two gates are unlinked, of which the second is live. -/
lemma unlink (h : Mirrors n s) (a : GateId) (lb : n.isLive b = true) :
    Mirrors (n.withLinks (n.fabric.links.unlink a b).1) { s with graph := (s.graph.unlink a b).1 } ∧
      (s.graph.unlink a b).2 = (n.fabric.links.unlink a b).2 := by
  refine ⟨h.relink (h.sound.unlink a b) rfl ?_, h.linked lb⟩
  intro x
  rw [Graph.neighbours_unlink, ← h.partners]
  exact Links.partners_unlink _ a b x

/-- The list of a gate is pruned. -/
lemma prune (h : Mirrors n s) (g : GateId) : Mirrors (n.withLinks (n.fabric.links.prune g).1) s := by
  apply h.relink (h.sound.prune g) rfl
  intro x
  rw [← h.partners]
  exact Links.partners_prune _ g x

/-- A gate on its way out is removed from a list. -/
lemma detach (h : Mirrors n s) {ps : List GateId}
    (leaving : n.departures.find? g = some (p :: ps)) :
    Mirrors { n.withLinks (n.fabric.links.forget p g) with departures := n.departures.insert g ps }
      s := by
  have gone := (h.sound.agree g).trans (h.sound.gone g _ leaving).1
  apply h.relink (h.sound.detach leaving) rfl
  intro x
  rw [← h.partners]
  exact Links.partners_forget gone p x

/-! ## Gates that come and go -/

/-- A gate is made. -/
lemma create (h : Mirrors n s) (gate : Gate) :
    Mirrors { n with fabric := (n.fabric.addGate gate).1 }
      { s with graph := s.graph.add n.fabric.nextGate } := by
  have sound := h.sound.create gate
  have live : ∀ g, (n.fabric.addGate gate).1.isLive g =
      (decide (g = n.fabric.nextGate) || n.isLive g) := by
    intro g
    rw [← sound.agree, isLive, ← h.sound.agree]
    exact Links.isLive_addGate _ _ _
  have keeps : ∀ g, n.isLive g = true → (n.fabric.addGate gate).1.isLive g = true := by
    intro g alive
    rw [live, alive, Bool.or_true]
  refine ⟨sound, ?_, ?_, h.removing, ?_⟩
  · intro g
    show g ∈ insert n.fabric.nextGate s.graph.gates ↔ (n.fabric.addGate gate).1.isLive g = true
    rw [Finset.mem_insert, h.gates, live, Bool.or_eq_true, decide_eq_true_eq]
  · intro x
    show (n.fabric.links.addGate n.fabric.nextGate).partners x = s.graph.neighbours x
    rw [Links.partners, Links.entries_addGate]
    split
    · next new =>
      have absent : x ∉ s.graph.gates := by
        intro mem
        exact Nat.ne_of_lt (h.sound.fresh x ((h.gates x).mp mem)) new
      rw [Graph.neighbours_of_not_mem absent]
      rfl
    · rw [← h.partners]
      apply List.filter_congr
      intro y listed
      have old := Nat.ne_of_lt (h.sound.known x y listed)
      rw [Links.isLive_addGate, decide_eq_false old, Bool.false_or]
  · intro t c found
    obtain ⟨alive, todo⟩ := h.held t c found
    exact ⟨keeps _ alive, fun p mem => keeps p (todo p mem)⟩

/-- A gate that no thread holds goes away. -/
lemma depart (h : Mirrors n s) (live : n.isLive g = true) (free : n.isHeld g = false) :
    Mirrors
      { n with
        fabric := { n.fabric with
          gates := n.fabric.gates.erase g
          links := (n.fabric.links.retire g).1 }
        departures := n.departures.insert g (n.entries g) }
      { s with
        graph := s.graph.remove g
        lost := s.lost + (s.graph.neighbours g).length } := by
  have sound := h.sound.depart live
  have alive : ∀ x, Fabric.isLive
      { n.fabric with gates := n.fabric.gates.erase g, links := (n.fabric.links.retire g).1 } x =
        (!decide (x = g) && n.isLive x) := by
    intro x
    rw [← sound.agree, isLive, ← h.sound.agree]
    exact Links.isLive_retire _ _ _
  have keeps : ∀ x, x ≠ g → n.isLive x = true → Fabric.isLive
      { n.fabric with gates := n.fabric.gates.erase g, links := (n.fabric.links.retire g).1 } x =
        true := by
    intro x other here
    rw [alive, here, decide_eq_false other]
    rfl
  refine ⟨sound, ?_, ?_, h.removing, ?_⟩
  · intro x
    show x ∈ s.graph.gates.erase g ↔ Fabric.isLive _ x = true
    rw [Finset.mem_erase, h.gates, alive]
    simp
  · intro x
    show (n.fabric.links.retire g).1.partners x = (s.graph.remove g).neighbours x
    rw [Graph.neighbours_remove, ← h.partners]
    exact Links.partners_retire _ g x
  · intro t c found
    obtain ⟨own, todo⟩ := h.held t c found
    simp only [isHeld, List.any_eq_false] at free
    have apart := free c (Table.mem_values_of_find? found)
    simp only [Bool.or_eq_true, decide_eq_true_eq, List.contains_iff_mem, not_or] at apart
    refine ⟨keeps _ apart.1 own, fun p mem => keeps p ?_ (todo p mem)⟩
    rintro rfl
    exact apart.2 mem

/-! ## Removals of every link -/

/-- A thread holds a live gate and live partners that it is to unlink, and has removed some links. -/
lemma note (h : Mirrors n s) {ps : List GateId} {count : Nat} (live : n.isLive g = true)
    (todo : ∀ p ∈ ps, n.isLive p = true) :
    Mirrors { n with clearings := n.clearings.insert t ⟨g, ps, count⟩ } (s.note t g count) where
  sound := h.sound
  gates := h.gates
  partners := h.partners
  removing t' := by
    simp only [Network.note, Table.find?_insert]
    split
    · rfl
    · exact h.removing t'
  held t' c found := by
    simp only [Table.find?_insert] at found
    split at found
    · cases found
      exact ⟨live, todo⟩
    · exact h.held t' c found

/-- A thread goes on to other partners. -/
lemma retask (h : Mirrors n s) {ps ps' : List GateId} {count : Nat}
    (found : n.clearings.find? t = some ⟨g, ps, count⟩) (todo : ∀ p ∈ ps', n.isLive p = true) :
    Mirrors { n with clearings := n.clearings.insert t ⟨g, ps', count⟩ } s where
  sound := h.sound
  gates := h.gates
  partners := h.partners
  removing t' := by
    rw [h.removing, Table.find?_insert]
    split
    · next same =>
      rw [same, found]
      rfl
    · rfl
  held t' c found' := by
    simp only [Table.find?_insert] at found'
    split at found'
    · cases found'
      exact ⟨(h.held t _ found).1, todo⟩
    · exact h.held t' c found'

/-- A thread is done. -/
lemma strike (h : Mirrors n s) (t : ThreadId) :
    Mirrors { n with clearings := n.clearings.erase t } (s.strike t) where
  sound := h.sound
  gates := h.gates
  partners := h.partners
  removing t' := by
    simp only [Network.strike, Table.find?_erase]
    split
    · rfl
    · exact h.removing t'
  held t' c found := by
    simp only [Table.find?_erase] at found
    split at found
    · cases found
    · exact h.held t' c found

/-! ## Steps -/

/-- A step does to the network what it is to, and an operation that it ends says what it is to. -/
lemma step (h : Mirrors n s) {e : LinkStep} (made : n.step e = some n') :
    Mirrors n' (s.perform (n.networkStep e)).1 ∧
      (s.perform (n.networkStep e)).2 = n.answer? e := by
  have gate : ∀ {t c}, n.clearings.find? t = some c →
      s.removing.find? t = some (c.gate, c.removed) := by
    intro t c found
    rw [h.removing, found]
    rfl
  cases turn_of_step made with
  | create gate => exact ⟨h.create gate, rfl⟩
  | refuse g =>
    simp only [networkStep, Network.perform, answer?, Fabric.link, if_true]
    exact ⟨h, rfl⟩
  | @link a b ne la lb =>
    obtain ⟨mirrors, outcome⟩ := h.link ne la lb
    simp only [networkStep, Network.perform, answer?, Fabric.link, ne, if_false]
    exact ⟨mirrors, by rw [outcome]; rfl⟩
  | ignore g =>
    simp only [networkStep, Network.perform, answer?, Fabric.unlink, if_true, Graph.unlink_self]
    exact ⟨h, trivial⟩
  | @unlink a b ne la lb =>
    obtain ⟨mirrors, outcome⟩ := h.unlink a lb
    simp only [networkStep, Network.perform, answer?, Fabric.unlink, ne, if_false]
    exact ⟨mirrors, by rw [outcome]⟩
  | @clear t g live idle =>
    have out : s.removing.contains t = false := by
      rw [Table.contains, h.removing, idle]
      rfl
    simp only [networkStep, Network.perform, out, Bool.false_eq_true, if_false]
    exact ⟨h.note live (List.forall_mem_nil _), rfl⟩
  | @finish t g removed found none =>
    have seen : (n.fabric.links.prune g).2 = [] := none
    simp only [networkStep, Network.perform, gate found, ← h.partners g, none, if_true, answer?,
      found, Option.bind_some, seen]
    exact ⟨(h.prune g).strike t, trivial⟩
  | @round t g removed found some =>
    have seen : (n.fabric.links.prune g).2 ≠ [] := some
    simp only [networkStep, Network.perform, gate found, ← h.partners g, some, if_false, answer?,
      found, Option.bind_some, seen]
    refine ⟨(h.prune g).retask found fun p mem => ?_, trivial⟩
    exact (h.sound.agree p).symm.trans (List.mem_filter.mp mem).2
  | @cut t g p ps removed found =>
    -- the partner is held and so live, which makes the entry that is counted an edge
    obtain ⟨live, todo⟩ := h.held t _ found
    obtain ⟨mirrors, outcome⟩ := h.unlink g (todo p List.mem_cons_self)
    simp only [networkStep, found, Network.perform, gate found, outcome]
    refine ⟨mirrors.note live ?_, rfl⟩
    exact fun p mem => todo p (List.mem_cons_of_mem _ mem)
  | depart live free => exact ⟨h.depart live free, rfl⟩
  | detach leaving => exact ⟨h.detach leaving, rfl⟩
  | arrive leaving =>
    exact ⟨⟨h.sound.arrive leaving, h.gates, h.partners, h.removing, h.held⟩, rfl⟩

/-- Every step that can be taken does to the network what it is to, and so does a run. -/
lemma runFrom (h : Mirrors n s) (es : List LinkStep) :
    Mirrors (n.runFrom es) (s.runFrom (n.networkSteps es)).1 ∧
      (s.runFrom (n.networkSteps es)).2 = n.answers es := by
  induction es generalizing n s with
  | nil => exact ⟨h, rfl⟩
  | cons e es ih =>
    show Mirrors ((n.next e).runFrom es) _ ∧ _
    simp only [networkSteps, answers, next]
    cases made : n.step e with
    | none => exact ih h
    | some n' =>
      obtain ⟨mirrors, outcome⟩ := h.step made
      obtain ⟨rest, outcomes⟩ := ih mirrors
      refine ⟨rest, ?_⟩
      simp only [Network.runFrom, outcome, outcomes]

end Mirrors

/-- A fabric without gates reads as a graph without gates. -/
lemma mirrors_start : Mirrors {} .empty where
  sound := sound_start
  gates g := iff_of_false (Finset.notMem_empty g) Bool.false_ne_true
  partners _ := rfl
  removing _ := rfl
  held _ _ found := nomatch found

/-- A step leaves the lists of all gates that it is not about. -/
lemma step_elsewhere {n n' : Traffic} {e : LinkStep} (sound : Sound n.fabric n.departures)
    (made : n.step e = some n') {x : GateId} (other : x ∉ n.involved e) :
    n'.entries x = n.entries x ∧ n'.partners x = n.partners x := by
  cases turn_of_step made with
  | create gate =>
    have new : x ≠ n.fabric.nextGate := fun same => other (List.mem_singleton.mpr same)
    apply Links.partners_congr
    · exact (Links.entries_addGate _ _ _).trans (if_neg new)
    · intro y listed
      have old := Nat.ne_of_lt (sound.known x y listed)
      exact (Links.isLive_addGate _ _ _).trans (by rw [decide_eq_false old, Bool.false_or])
  | @link a b =>
    have apart : x ≠ a ∧ x ≠ b := by simpa [involved] using other
    exact Links.partners_congr (Links.entries_link_of_ne apart.1 apart.2)
      fun y _ => Links.isLive_link _ _ _ _
  | @unlink a b =>
    have apart : x ≠ a ∧ x ≠ b := by simpa [involved] using other
    exact Links.partners_congr (Links.entries_unlink_of_ne apart.1 apart.2)
      fun y _ => Links.isLive_unlink _ _ _ _
  | @finish t g removed found =>
    have apart : x ≠ g := by simpa [involved, found] using other
    refine Links.partners_congr ?_ fun y _ => Links.isLive_prune _ _ _
    exact (Links.entries_prune _ _ _).trans (if_neg apart)
  | @round t g removed found =>
    have apart : x ≠ g := by simpa [involved, found] using other
    refine Links.partners_congr ?_ fun y _ => Links.isLive_prune _ _ _
    exact (Links.entries_prune _ _ _).trans (if_neg apart)
  | @cut t g p ps removed found =>
    have apart : x ≠ g ∧ x ≠ p := by simpa [involved, found] using other
    exact Links.partners_congr (Links.entries_unlink_of_ne apart.1 apart.2)
      fun y _ => Links.isLive_unlink _ _ _ _
  | @depart g live free =>
    have apart : x ≠ g ∧ x ∉ n.partners g := by simpa [involved] using other
    apply Links.partners_congr
    · exact (Links.entries_retire _ _ _).trans (if_neg apart.1)
    · intro y listed
      -- whoever lists the gate is its live partner
      have stays : y ≠ g := by
        rintro rfl
        apply apart.2
        refine List.mem_filter.mpr ⟨sound.symm_of_live listed live, ?_⟩
        exact (sound.agree x).trans (sound.live_of_mem listed)
      exact (Links.isLive_retire _ _ _).trans (by rw [decide_eq_false stays]; rfl)
  | @detach g p ps leaving =>
    have apart : x ≠ p := by simpa [involved, leaving] using other
    refine Links.partners_congr ?_ fun y _ => Links.isLive_forget _ _ _ _
    exact (Links.entries_forget _ _ _ _).trans (if_neg apart)
  | _ => exact ⟨rfl, rfl⟩

/-- In any order of the steps of link operations of any threads, the partner lists, read without
entries for gates that went away, are a simple graph on the live gates whose edges were made one after
the other, and operations do to it and say what they are to: two different live gates are joined, and
`true` said, exactly if they were not; an edge is removed, and `true` said, exactly if it was there;
the removal of every link of a gate says how many edges it removed itself; a gate that goes away takes
its edges along. Partners come in the order in which their edges were made. What operations say
accounts for the edges that are there and those that were lost whenever no removal of every link is
under way. No step changes the list of a gate that it is not about. -/
theorem run_refines (es : List LinkStep) :
    let n := run es
    let s := (Network.run (networkSteps {} es)).1
    let answers := answers {} es
    answers = (Network.run (networkSteps {} es)).2 ∧
      (∀ g, n.isLive g = true ↔ g ∈ s.graph.gates) ∧
      (∀ g, n.partners g = s.graph.neighbours g) ∧
      (∀ g, (n.partners g).Pairwise fun p q =>
        ∃ e ∈ s.graph.edges, ∃ e' ∈ s.graph.edges,
          e.ends = s(g, p) ∧ e'.ends = s(g, q) ∧ e.time < e'.time) ∧
      ((∀ t, n.clearings.find? t = none) →
        s.graph.edges.length + (answers.map LinkAnswer.removed).sum + s.lost =
          (answers.map LinkAnswer.made).sum) ∧
      ∀ e n', n.step e = some n' → ∀ g, g ∉ n.involved e →
        n'.entries g = n.entries g ∧ n'.partners g = n.partners g := by
  intro n s answers
  have run := mirrors_start.runFrom es
  have mirrors : Mirrors n s := run.1
  have outcomes : (Network.run (networkSteps {} es)).2 = answers := run.2
  refine ⟨outcomes.symm, fun g => (mirrors.gates g).symm, mirrors.partners, ?_, ?_, ?_⟩
  · intro g
    have ordered := s.graph.pairwise_neighbours g
    rw [← mirrors.partners g] at ordered
    exact ordered
  · intro quiet
    have balance : s.size + (answers.map LinkAnswer.removed).sum =
        0 + (answers.map LinkAnswer.made).sum :=
      outcomes ▸ Network.empty.runFrom_balance (networkSteps {} es)
    have idle : s.cut = 0 := by
      have none : s.removing.entries = [] := by
        apply Table.entries_eq_nil
        intro t
        rw [mirrors.removing, quiet t]
        rfl
      rw [Network.cut, Table.values, none]
      rfl
    rw [Network.size, idle] at balance
    omega
  · intro e n' made g other
    exact step_elsewhere mirrors.sound made other

/-- While a thread removes the links of gate 0, one of them is removed and made again by others, and
gate 3 departs with a link. The thread says that it removed two, which leaves none. -/
theorem run_refines_racing_removals :
    let es : List LinkStep :=
      [.create { name := "a", capacity := 1 }, .create { name := "b", capacity := 1 },
        .create { name := "c", capacity := 1 }, .create { name := "d", capacity := 1 }, .link 0 1,
        .link 0 2, .link 3 1, .clear 7 0, .round 7, .unlink 1 0, .cut 7, .cut 7, .link 1 0, .depart 3,
        .round 7, .cut 7, .round 7]
    let s := (Network.run (networkSteps {} es)).1
    let answers := answers {} es
    answers = [.linked (.ok true), .linked (.ok true), .linked (.ok true), .unlinked true,
        .linked (.ok true), .cleared 2] ∧
      s.lost = 1 ∧ s.graph.edges.length + (answers.map LinkAnswer.removed).sum + s.lost =
        (answers.map LinkAnswer.made).sum ∧ s.graph.edges.length = 0 := by
  intro es s answers
  obtain ⟨-, -, -, -, balance, -⟩ := run_refines es
  have said : answers = [.linked (.ok true), .linked (.ok true), .linked (.ok true),
      .unlinked true, .linked (.ok true), .cleared 2] := by decide
  have lost : s.lost = 1 := by decide
  have edges : s.graph.edges.length + (answers.map LinkAnswer.removed).sum + s.lost =
      (answers.map LinkAnswer.made).sum := balance fun t => rfl
  refine ⟨said, lost, edges, ?_⟩
  rw [said, lost] at edges
  exact Nat.add_right_cancel (m := 4) edges

end Traffic

end EventGates
