import EventGates.Proofs.Links.Traffic

/-!
# Links are symmetric

Whatever the order in which the link operations of several threads take their steps, no gate lists
itself or another gate twice, two live gates list each other or not at all, and a gate that went away
is listed only where its departure still has to come by. The main theorem is `run_symmetric`.

The invariant is `Sound`. It speaks of the fabric and of the departures under way alone: what a
thread that removes links has found and not come to yet does not matter. Its field `symm` is what
carries the induction: an entry has its counterpart either in the list of the other gate or among
what is left of the other gate's departure.
-/

namespace EventGates

namespace Traffic

/-- The lists of a fabric are in order, given the departures under way. -/
structure Sound (f : Fabric) (departures : Table GateId (List GateId)) : Prop where
  agree : ∀ g, f.links.isLive g = f.isLive g
  fresh : ∀ g, f.isLive g = true → g < f.nextGate
  known : ∀ g p, p ∈ f.links.entries g → p < f.nextGate
  irrefl : ∀ g, g ∉ f.links.entries g
  nodup : ∀ g, (f.links.entries g).Nodup
  symm : ∀ g p, p ∈ f.links.entries g →
    g ∈ f.links.entries p ∨ ∃ todo, departures.find? p = some todo ∧ g ∈ todo
  gone : ∀ g todo, departures.find? g = some todo → f.isLive g = false ∧ g < f.nextGate

namespace Sound

variable {f : Fabric} {departures : Table GateId (List GateId)}

/-- A gate with entries is live. -/
lemma live_of_mem (s : Sound f departures) {g p : GateId} (h : p ∈ f.links.entries g) :
    f.isLive g = true :=
  (s.agree g).symm.trans (Links.isLive_of_mem_entries h)

/-- A dead gate has no entries. -/
lemma entries_of_dead (s : Sound f departures) {g : GateId} (h : f.isLive g = false) :
    f.links.entries g = [] :=
  Links.entries_of_not_isLive ((s.agree g).trans h)

/-- The counterpart of an entry for a live gate is in that gate's list. -/
lemma symm_of_live (s : Sound f departures) {g p : GateId} (h : p ∈ f.links.entries g)
    (live : f.isLive p = true) : g ∈ f.links.entries p := by
  obtain back | ⟨todo, leaving, _⟩ := s.symm g p h
  · exact back
  · rw [(s.gone p todo leaving).1] at live
    cases live

/-- An entry for a dead gate is among what is left of its departure. -/
lemma leaving_of_dead (s : Sound f departures) {g p : GateId} (h : p ∈ f.links.entries g)
    (dead : f.isLive p = false) : ∃ todo, departures.find? p = some todo ∧ g ∈ todo := by
  obtain back | leaving := s.symm g p h
  · rw [s.entries_of_dead dead] at back
    cases back
  · exact leaving

/-! ## Steps -/

/-- A new gate has no entries, and no gate has entries for it. -/
lemma create (s : Sound f departures) (gate : Gate) : Sound (f.addGate gate).1 departures := by
  have new : ∀ g, (f.addGate gate).1.isLive g = (decide (g = f.nextGate) || f.isLive g) := by
    intro g
    by_cases hg : g = f.nextGate <;> simp [Fabric.addGate, Fabric.isLive, Table.contains, hg]
  refine
    { agree := ?_, fresh := ?_, known := ?_, irrefl := ?_, nodup := ?_, symm := ?_, gone := ?_ }
  · intro g
    rw [new]
    simp [Fabric.addGate, s.agree]
  · intro g live
    rw [new] at live
    simp only [Bool.or_eq_true, decide_eq_true_eq] at live
    obtain rfl | live := live
    · exact Nat.lt_succ_self _
    · exact Nat.lt_succ_of_lt (s.fresh g live)
  · intro g p h
    simp only [Fabric.addGate, Links.entries_addGate] at h
    split at h
    · cases h
    · exact Nat.lt_succ_of_lt (s.known g p h)
  · intro g
    simp only [Fabric.addGate, Links.entries_addGate]
    split
    · exact List.not_mem_nil
    · exact s.irrefl g
  · intro g
    simp only [Fabric.addGate, Links.entries_addGate]
    split
    · exact List.nodup_nil
    · exact s.nodup g
  · intro g p h
    simp only [Fabric.addGate, Links.entries_addGate] at h ⊢
    split at h
    · cases h
    · have ne : p ≠ f.nextGate := Nat.ne_of_lt (s.known g p h)
      simp only [ne, if_false]
      exact s.symm g p h
  · intro g todo leaving
    obtain ⟨dead, lt⟩ := s.gone g todo leaving
    refine ⟨?_, Nat.lt_succ_of_lt lt⟩
    rw [new, dead]
    simp [Nat.ne_of_lt lt]

/-- Two different live gates are linked. -/
lemma link (s : Sound f departures) {a b : GateId} (ne : a ≠ b) (la : f.isLive a = true)
    (lb : f.isLive b = true) : Sound { f with links := (f.links.link a b).1 } departures := by
  by_cases old : b ∈ f.links.entries a
  · rw [Links.link_of_mem old]
    exact s
  · have entries := Links.entries_link ne ((s.agree a).trans la) ((s.agree b).trans lb) old
    have mem : ∀ x y, y ∈ (f.links.link a b).1.entries x ↔
        y ∈ f.links.entries x ∨ (x = a ∧ y = b) ∨ (x = b ∧ y = a) := by
      intro x y
      rw [entries]
      grind
    have back : a ∉ f.links.entries b := fun h => old (s.symm_of_live h la)
    refine
      { agree := ?_, fresh := s.fresh, known := ?_, irrefl := ?_, nodup := ?_, symm := ?_
        gone := s.gone }
    · intro g
      exact (Links.isLive_link _ _ _ _).trans (s.agree g)
    · intro g p h
      obtain h | ⟨_, rfl⟩ | ⟨_, rfl⟩ := (mem g p).mp h
      · exact s.known g p h
      · exact s.fresh p lb
      · exact s.fresh p la
    · intro g h
      obtain h | ⟨ha, hb⟩ | ⟨hb, ha⟩ := (mem g g).mp h
      · exact s.irrefl g h
      · exact ne (ha.symm.trans hb)
      · exact ne (ha.symm.trans hb)
    · intro g
      rw [entries]
      split
      · exact List.nodup_append.mpr ⟨s.nodup a, by simp, by grind⟩
      · split
        · exact List.nodup_append.mpr ⟨s.nodup b, by simp, by grind⟩
        · exact s.nodup g
    · intro g p h
      obtain h | ⟨rfl, rfl⟩ | ⟨rfl, rfl⟩ := (mem g p).mp h
      · obtain back | leaving := s.symm g p h
        · exact .inl ((mem p g).mpr (.inl back))
        · exact .inr leaving
      · exact .inl ((mem p g).mpr (.inr (.inr ⟨rfl, rfl⟩)))
      · exact .inl ((mem p g).mpr (.inr (.inl ⟨rfl, rfl⟩)))

/-- Any two gates are unlinked. -/
lemma unlink (s : Sound f departures) (a b : GateId) :
    Sound { f with links := (f.links.unlink a b).1 } departures where
  agree g := (Links.isLive_unlink _ _ _ _).trans (s.agree g)
  fresh := s.fresh
  known g p h := s.known g p (Links.mem_entries_unlink.mp h).1
  irrefl g h := s.irrefl g (Links.mem_entries_unlink.mp h).1
  nodup g := (Links.entries_unlink_sublist _ _ _ _).nodup (s.nodup g)
  symm g p h := by
    obtain ⟨h, hab, hba⟩ := Links.mem_entries_unlink.mp h
    obtain back | leaving := s.symm g p h
    · refine .inl (Links.mem_entries_unlink.mpr ⟨back, ?_, ?_⟩)
      · exact fun e => hba ⟨e.2, e.1⟩
      · exact fun e => hab ⟨e.2, e.1⟩
    · exact .inr leaving
  gone := s.gone

/-- The list of a gate loses its entries for dead gates. -/
lemma prune (s : Sound f departures) (g : GateId) :
    Sound { f with links := (f.links.prune g).1 } departures := by
  have mem : ∀ x y, y ∈ (f.links.prune g).1.entries x ↔
      y ∈ f.links.entries x ∧ (x = g → f.isLive y = true) := by
    intro x y
    by_cases hx : x = g
    · subst hx
      simp [Links.partners, s.agree]
    · simp [hx]
  refine
    { agree := ?_, fresh := s.fresh, known := ?_, irrefl := ?_, nodup := ?_, symm := ?_
      gone := s.gone }
  · intro x
    exact (Links.isLive_prune _ _ _).trans (s.agree x)
  · exact fun x p h => s.known x p ((mem x p).mp h).1
  · exact fun x h => s.irrefl x ((mem x x).mp h).1
  · intro x
    rw [Links.entries_prune]
    split
    · exact (s.nodup g).filter _
    · exact s.nodup x
  · intro x p h
    obtain ⟨h, _⟩ := (mem x p).mp h
    obtain back | leaving := s.symm x p h
    · -- whoever has an entry is live, so its counterpart is not pruned
      exact .inl ((mem p x).mpr ⟨back, fun _ => s.live_of_mem h⟩)
    · exact .inr leaving

/-- A live gate goes away with its list. -/
lemma depart (s : Sound f departures) {g : GateId} (live : f.isLive g = true) :
    Sound { f with gates := f.gates.erase g, links := (f.links.retire g).1 }
      (departures.insert g (f.links.entries g)) := by
  have alive : ∀ x, Fabric.isLive { f with gates := f.gates.erase g, links := (f.links.retire g).1 } x =
      (!decide (x = g) && f.isLive x) := by
    intro x
    by_cases hx : x = g <;> simp [Fabric.isLive, Table.contains, hx]
  have mem : ∀ x y, y ∈ (f.links.retire g).1.entries x ↔ x ≠ g ∧ y ∈ f.links.entries x := by
    intro x y
    by_cases hx : x = g <;> simp [hx]
  refine
    { agree := ?_, fresh := ?_, known := ?_, irrefl := ?_, nodup := ?_, symm := ?_, gone := ?_ }
  · intro x
    rw [alive, Links.isLive_retire, s.agree]
  · intro x h
    rw [alive, Bool.and_eq_true] at h
    exact s.fresh x h.2
  · exact fun x p h => s.known x p ((mem x p).mp h).2
  · exact fun x h => s.irrefl x ((mem x x).mp h).2
  · intro x
    rw [Links.entries_retire]
    split
    · exact List.nodup_nil
    · exact s.nodup x
  · intro x p kept
    obtain ⟨hx, h⟩ := (mem x p).mp kept
    by_cases hp : p = g
    · exact .inr ⟨_, by simp [hp], hp ▸ s.symm_of_live h (hp ▸ live)⟩
    · obtain back | ⟨todo, leaving, left⟩ := s.symm x p h
      · exact .inl ((mem p x).mpr ⟨hp, back⟩)
      · exact .inr ⟨todo, by simp [hp, leaving], left⟩
  · intro x todo leaving
    rw [alive]
    by_cases hx : x = g
    · subst hx
      exact ⟨by simp, s.fresh x live⟩
    · simp only [Table.find?_insert, hx, if_false] at leaving
      obtain ⟨dead, lt⟩ := s.gone x todo leaving
      exact ⟨by simp [dead], lt⟩

/-- A gate on its way out is removed from the list of a former partner. -/
lemma detach (s : Sound f departures) {g p : GateId} {ps : List GateId}
    (leaving : departures.find? g = some (p :: ps)) :
    Sound { f with links := f.links.forget p g } (departures.insert g ps) := by
  obtain ⟨dead, lt⟩ := s.gone g _ leaving
  have mem : ∀ x y, y ∈ (f.links.forget p g).entries x ↔
      y ∈ f.links.entries x ∧ ¬(x = p ∧ y = g) := by
    intro x y
    by_cases hx : x = p <;> simp [hx]
  refine
    { agree := ?_, fresh := s.fresh, known := ?_, irrefl := ?_, nodup := ?_, symm := ?_
      gone := ?_ }
  · intro x
    exact (Links.isLive_forget _ _ _ _).trans (s.agree x)
  · exact fun x y h => s.known x y ((mem x y).mp h).1
  · exact fun x h => s.irrefl x ((mem x x).mp h).1
  · intro x
    rw [Links.entries_forget]
    split
    · exact (s.nodup p).filter _
    · exact s.nodup x
  · intro x y kept
    obtain ⟨h, other⟩ := (mem x y).mp kept
    by_cases hy : y = g
    · obtain ⟨todo, leaving', left⟩ := s.leaving_of_dead h (hy ▸ dead)
      rw [hy, leaving] at leaving'
      obtain rfl : p :: ps = todo := Option.some.inj leaving'
      obtain rfl | left := List.mem_cons.mp left
      · exact absurd ⟨rfl, hy⟩ other
      · exact .inr ⟨ps, by simp [hy], left⟩
    · obtain back | ⟨todo, leaving', left⟩ := s.symm x y h
      · refine .inl ((mem y x).mpr ⟨back, fun e => ?_⟩)
        rw [e.2, s.entries_of_dead dead] at h
        cases h
      · exact .inr ⟨todo, by simp [hy, leaving'], left⟩
  · intro x todo h
    by_cases hx : x = g
    · rw [hx]
      exact ⟨dead, lt⟩
    · simp only [Table.find?_insert, hx, if_false] at h
      exact s.gone x todo h

/-- A gate on its way out has come to the end of its list. -/
lemma arrive (s : Sound f departures) {g : GateId} (leaving : departures.find? g = some []) :
    Sound f (departures.erase g) := by
  refine { s with symm := ?_, gone := ?_ }
  · intro x p h
    obtain back | ⟨todo, leaving', left⟩ := s.symm x p h
    · exact .inl back
    · have hp : p ≠ g := by
        rintro rfl
        obtain rfl : [] = todo := Option.some.inj (leaving.symm.trans leaving')
        cases left
      exact .inr ⟨todo, by simp [hp, leaving'], left⟩
  · intro x todo h
    by_cases hx : x = g
    · simp [hx] at h
    · simp only [Table.find?_erase, hx, if_false] at h
      exact s.gone x todo h

end Sound

/-! ## Runs -/

/-- Nothing is out of order in a fabric without gates. -/
lemma sound_start : Sound {} {} where
  agree _ := rfl
  fresh _ h := by cases h
  known _ _ h := by cases h
  irrefl _ h := by cases h
  nodup _ := List.nodup_nil
  symm _ _ h := by cases h
  gone _ _ h := by cases h

/-- Every step leaves the lists in order. -/
lemma Sound.step {n n' : Traffic} (s : Sound n.fabric n.departures) {e : LinkStep}
    (h : n.step e = some n') : Sound n'.fabric n'.departures := by
  cases turn_of_step h with
  | create gate => exact s.create gate
  | refuse g => exact s
  | link ne la lb => exact s.link ne la lb
  | ignore g => exact s
  | unlink => exact s.unlink _ _
  | clear => exact s
  | finish => exact s.prune _
  | round => exact s.prune _
  | cut => exact s.unlink _ _
  | depart live => exact s.depart live
  | detach leaving => exact s.detach leaving
  | arrive leaving => exact s.arrive leaving

/-- Every run leaves the lists in order. -/
lemma Sound.runFrom {n : Traffic} (s : Sound n.fabric n.departures) (es : List LinkStep) :
    Sound (n.runFrom es).fabric (n.runFrom es).departures := by
  induction es generalizing n with
  | nil => exact s
  | cons e es ih =>
    apply ih
    simp only [next]
    cases h : n.step e with
    | none => exact s
    | some n' => exact s.step h

/-- In every state that link operations of any threads lead to, in any order of their steps, no gate
lists itself or another one twice, live gates list each other or not at all, and a gate that went
away is listed only where its departure has not come by. Once no gate is on its way out, every entry
of a list counts as a partner. -/
theorem run_symmetric (es : List LinkStep) :
    let n := run es
    (∀ g, g ∉ n.entries g) ∧
      (∀ g, (n.entries g).Nodup) ∧
      (∀ a b, n.isLive a = true → n.isLive b = true → (b ∈ n.entries a ↔ a ∈ n.entries b)) ∧
      (∀ g p, p ∈ n.entries g → n.isLive p = false →
        ∃ todo, n.departures.find? p = some todo ∧ g ∈ todo) ∧
      ((∀ g, n.departures.find? g = none) → ∀ g,
        (n.entries g).length = (n.partners g).length ∧ ∀ p ∈ n.entries g, n.isLive p = true) := by
  intro n
  have s : Sound n.fabric n.departures := sound_start.runFrom es
  refine ⟨s.irrefl, s.nodup, ?_, ?_, ?_⟩
  · intro a b la lb
    exact ⟨fun h => s.symm_of_live h lb, fun h => s.symm_of_live h la⟩
  · intro g p h dead
    exact s.leaving_of_dead h dead
  · intro settled g
    have live : ∀ p ∈ n.entries g, n.isLive p = true := by
      intro p h
      cases hp : n.isLive p with
      | true => rfl
      | false =>
        obtain ⟨todo, leaving, _⟩ := s.leaving_of_dead h hp
        rw [settled p] at leaving
        cases leaving
    have whole : n.partners g = n.entries g :=
      List.filter_eq_self.mpr fun p h => (s.agree p).trans (live p h)
    exact ⟨by rw [whole], live⟩

/-- Gate 1 departs while a thread is removing the links of gate 0, which are made anew meanwhile:
when all is done gates 0 and 2 list each other and nobody else. -/
theorem run_symmetric_departure_while_clearing :
    let n := run
      [.create { name := "a", capacity := 1 }, .create { name := "b", capacity := 1 },
        .create { name := "c", capacity := 1 }, .link 0 1, .link 1 2, .link 0 2, .clear 7 0,
        .round 7, .cut 7, .link 1 0, .depart 1, .cut 7, .round 7, .detach 1, .link 2 0, .detach 1,
        .detach 1]
    (∀ g, n.departures.find? g = none) ∧ n.entries 0 = [2] ∧
      (n.entries 0).length = (n.partners 0).length ∧ ∀ p ∈ n.entries 0, n.isLive p = true := by
  intro n
  have settled : ∀ g, n.departures.find? g = none := fun _ => rfl
  exact ⟨settled, rfl, (run_symmetric _).2.2.2.2 settled 0⟩

end Traffic

end EventGates
