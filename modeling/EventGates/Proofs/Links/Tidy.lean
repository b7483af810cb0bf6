import EventGates.Proofs.Links.Partners
import EventGates.Proofs.Links.Symmetry
import EventGates.Proofs.Table.Keys

/-!
# Links between operations

As long as no link operation is under way, the lists of a fabric are `Tidy`: only live gates are listed,
each of two linked gates lists the other, and no gate has two lists. What a whole operation does to them
is plain then. When every link of a gate is removed, or the gate goes away, it has no entries, and the
lists of others lose it and are otherwise as they were (`Tidy.entries_unlinkAll`,
`Tidy.entries_removeGate`). A gate without links is not touched at all (`Tidy.unlinkAll_eq_self`).
-/

namespace EventGates

namespace Links

variable (l : Links) (g x : GateId) (ps : List GateId)

/-! ## Who is listed -/

/-- Unlinking a gate from several others takes out the two entries of each link. -/
lemma entries_unlinkEach :
    (unlinkEach g ps l).1.entries x =
      (l.entries x).filter fun y => ∀ p ∈ ps, s(x, y) ≠ s(g, p) := by
  induction ps generalizing l with
  | nil => simp [unlinkEach]
  | cons p ps ih =>
    show (unlinkEach g ps (l.unlink g p).1).1.entries x = _
    rw [ih, entries_unlink_eq_filter, List.filter_filter]
    apply List.filter_congr
    intro y _
    rw [Bool.eq_iff_iff]
    simp only [Bool.and_eq_true, decide_eq_true_eq, List.forall_mem_cons]
    exact and_comm

/-- Removing every link of a gate leaves it without entries and takes it from the lists of its
partners. -/
lemma entries_unlinkAll :
    (l.unlinkAll g).1.entries x =
      if x = g then [] else (l.entries x).filter fun y => ¬(y = g ∧ x ∈ l.partners g) := by
  have found : l.prune g = ((l.prune g).1, l.partners g) := rfl
  have alone := Traffic.partners_unlinkEach l g
  cases partners : l.partners g with
  | nil =>
    rw [partners] at found
    have done : (l.unlinkAll g).1 = (l.prune g).1 := by
      simp only [unlinkAll, unlinkRounds]
      rw [found]
    rw [done, entries_prune, partners]
    simp
  | cons p ps =>
    rw [partners] at found alone
    generalize round : (unlinkEach g (p :: ps) (l.prune g).1).1 = l' at alone
    have again : l'.prune g = ((l'.prune g).1, []) := Prod.ext rfl alone
    have done : (l.unlinkAll g).1 = (l'.prune g).1 := by
      simp only [unlinkAll, unlinkRounds]
      rw [found]
      dsimp only
      rw [round, again]
    rw [done, entries_prune]
    split
    · exact alone
    · next other =>
      rw [← round, entries_unlinkEach, entries_prune, if_neg other]
      apply List.filter_congr
      intro y _
      rw [Bool.eq_iff_iff, decide_eq_true_eq, decide_eq_true_eq]
      constructor
      · rintro apart ⟨rfl, mem⟩
        exact apart x mem Sym2.eq_swap
      · intro apart q mem same
        obtain ⟨rfl, -⟩ | ⟨rfl, rfl⟩ := Sym2.eq_iff.mp same
        · exact other rfl
        · exact apart ⟨rfl, mem⟩

/-- A gate that is removed from several lists. -/
lemma entries_forgetEach :
    (ps.foldl (fun l p => l.forget p g) l).entries x =
      (l.entries x).filter fun y => ¬(y = g ∧ x ∈ ps) := by
  induction ps generalizing l with
  | nil => simp
  | cons p ps ih =>
    rw [List.foldl_cons, ih, entries_forget_eq_filter, List.filter_filter]
    apply List.filter_congr
    intro y _
    rw [Bool.eq_iff_iff]
    simp only [Bool.and_eq_true, decide_eq_true_eq, List.mem_cons]
    tauto

/-- A gate that goes away takes its list along and is removed from the lists of those in it. -/
lemma entries_remove :
    (l.remove g).entries x =
      if x = g then [] else (l.entries x).filter fun y => ¬(y = g ∧ x ∈ l.entries g) := by
  show ((l.entries g).foldl (fun l p => l.forget p g) (l.retire g).1).entries x = _
  rw [entries_forgetEach, entries_retire]
  split
  · rfl
  · rfl

/-! ## Who has a list -/

lemma keys_unlinkEach : (unlinkEach g ps l).1.lists.keys = l.lists.keys := by
  induction ps generalizing l with
  | nil => rfl
  | cons p ps ih =>
    show (unlinkEach g ps (l.unlink g p).1).1.lists.keys = _
    rw [ih]
    simp [unlink, forget]

lemma keys_unlinkRounds (rounds : Nat) :
    (unlinkRounds g rounds l).1.lists.keys = l.lists.keys := by
  induction rounds generalizing l with
  | zero => rfl
  | succ rounds ih =>
    have pruned : (l.prune g).1.lists.keys = l.lists.keys := Table.keys_modify ..
    simp only [unlinkRounds]
    split
    · next found => rw [← pruned, found]
    · next found =>
      rw [ih, keys_unlinkEach, ← pruned, found]

lemma keys_unlinkAll : (l.unlinkAll g).1.lists.keys = l.lists.keys := l.keys_unlinkRounds g 2

lemma keys_forgetEach : (ps.foldl (fun l p => l.forget p g) l).lists.keys = l.lists.keys := by
  induction ps generalizing l with
  | nil => rfl
  | cons p ps ih => exact (ih (l.forget p g)).trans (Table.keys_modify ..)

/-- Who has a list is live. -/
lemma isLive_eq_true_iff : l.isLive x = true ↔ x ∈ l.lists.keys := by
  simp only [isLive, Table.contains, Option.isSome_iff_exists]
  constructor
  · rintro ⟨ps, found⟩
    exact Table.mem_keys_of_find? found
  · intro mem
    cases found : l.lists.find? x with
    | none => exact absurd mem (Table.not_mem_keys_of_find?_eq_none found)
    | some ps => exact ⟨ps, rfl⟩

lemma isLive_congr {l l' : Links} (keys : l'.lists.keys = l.lists.keys) (x : GateId) :
    l'.isLive x = l.isLive x := by
  rw [Bool.eq_iff_iff, isLive_eq_true_iff, isLive_eq_true_iff, keys]

lemma isLive_remove : (l.remove g).isLive x = (!decide (x = g) && l.isLive x) :=
  (isLive_congr ((l.retire g).1.keys_forgetEach g (l.entries g)) x).trans (l.isLive_retire g x)

end Links

namespace Fabric

lemma isLive_removeGate (f : Fabric) (g x : GateId) :
    (f.removeGate g).isLive x = (!decide (x = g) && f.isLive x) := by
  by_cases same : x = g
  · simp [isLive, removeGate, Table.contains, same]
  · simp [isLive, removeGate, Table.contains, same]

lemma gates_unlinkEach (f : Fabric) (gs : List GateId) :
    (gs.foldl (fun f g => (f.unlinkAll g).1) f).gates = f.gates := by
  induction gs generalizing f with
  | nil => rfl
  | cons g gs ih => exact ih (f.unlinkAll g).1

/-- The lists of a fabric are in order and no gate is on its way out. -/
structure Tidy (f : Fabric) : Prop where
  sound : Traffic.Sound f {}
  keys : f.links.lists.keys.Nodup

namespace Tidy

variable {f f' : Fabric} {a b g x : GateId}

/-- Each of two linked gates lists the other. -/
lemma symm (h : f.Tidy) (mem : b ∈ f.links.entries a) : a ∈ f.links.entries b := by
  obtain back | ⟨todo, leaving, -⟩ := h.sound.symm a b mem
  · exact back
  · cases leaving

/-- Only live gates are listed. -/
lemma live (h : f.Tidy) (mem : b ∈ f.links.entries a) : f.isLive b = true :=
  h.sound.live_of_mem (h.symm mem)

/-- Every entry of a list counts as a partner. -/
lemma partners (h : f.Tidy) (g : GateId) : f.links.partners g = f.links.entries g := by
  apply List.filter_eq_self.mpr
  intro p mem
  exact (h.sound.agree p).trans (h.live mem)

/-- Nobody lists a gate that lists nobody. -/
lemma not_mem_entries (h : f.Tidy) (alone : f.links.entries g = []) (x : GateId) :
    g ∉ f.links.entries x := by
  intro mem
  have back := h.symm mem
  rw [alone] at back
  cases back

lemma start : Tidy {} := ⟨Traffic.sound_start, List.nodup_nil⟩

/-! ## Operations that take entries out -/

/-- Lists that lose entries on both sides are still in order. -/
lemma of_filter (h : f.Tidy) (keep : GateId → GateId → Bool)
    (entries : ∀ x, f'.links.entries x = (f.links.entries x).filter (keep x))
    (symm : ∀ x y, keep x y = true → keep y x = true)
    (agree : ∀ x, f'.links.isLive x = f'.isLive x)
    (live : ∀ x, f'.isLive x = true → f.isLive x = true) (nextGate : f'.nextGate = f.nextGate)
    (keys : f'.links.lists.keys.Nodup) : f'.Tidy := by
  have old : ∀ {x y}, y ∈ f'.links.entries x → y ∈ f.links.entries x ∧ keep x y = true := by
    intro x y mem
    rw [entries] at mem
    exact List.mem_filter.mp mem
  refine ⟨{ agree, fresh := ?_, known := ?_, irrefl := ?_, nodup := ?_, symm := ?_, gone := nofun },
    keys⟩
  · intro g there
    rw [nextGate]
    exact h.sound.fresh g (live g there)
  · intro g p mem
    rw [nextGate]
    exact h.sound.known g p (old mem).1
  · exact fun g mem => h.sound.irrefl g (old mem).1
  · intro g
    rw [entries]
    exact (h.sound.nodup g).filter _
  · intro g p mem
    obtain ⟨before, kept⟩ := old mem
    rw [entries]
    exact .inl (List.mem_filter.mpr ⟨h.symm before, symm g p kept⟩)

/-- Nothing changes about who lists whom. -/
lemma congr (h : f.Tidy) (links : f'.links = f.links) (live : ∀ x, f'.isLive x = f.isLive x)
    (nextGate : f'.nextGate = f.nextGate) : f'.Tidy := by
  refine h.of_filter (fun _ _ => true) ?_ (fun _ _ => id) ?_ ?_ nextGate (links ▸ h.keys)
  · intro x
    rw [links, List.filter_true]
  · intro x
    rw [links, live]
    exact h.sound.agree x
  · intro x there
    rw [← live]
    exact there

lemma unlink (h : f.Tidy) (a b : GateId) : (f.unlink a b).1.Tidy := by
  simp only [Fabric.unlink]
  split
  · exact h
  · refine ⟨h.sound.unlink a b, ?_⟩
    simpa [Links.unlink, Links.forget] using h.keys

/-- A gate is listed by those that it lists. -/
lemma filter_unlisted (h : f.Tidy) (g x : GateId) :
    ((f.links.entries x).filter fun y => ¬(y = g ∧ x ∈ f.links.entries g)) =
      (f.links.entries x).filter (· ≠ g) := by
  apply List.filter_congr
  intro y mem
  rw [Bool.eq_iff_iff, decide_eq_true_eq, decide_eq_true_eq]
  refine ⟨?_, fun other same => other same.1⟩
  rintro apart rfl
  exact apart ⟨rfl, h.symm mem⟩

/-- Removing every link of a gate takes it out of all lists. -/
lemma entries_unlinkAll (h : f.Tidy) (g x : GateId) :
    (f.unlinkAll g).1.links.entries x =
      if x = g then [] else (f.links.entries x).filter (· ≠ g) := by
  show (f.links.unlinkAll g).1.entries x = _
  rw [Links.entries_unlinkAll, h.partners, h.filter_unlisted]

/-- A gate that goes away is taken out of all lists. -/
lemma entries_removeGate (h : f.Tidy) (g x : GateId) :
    (f.removeGate g).links.entries x =
      if x = g then [] else (f.links.entries x).filter (· ≠ g) := by
  show (f.links.remove g).entries x = _
  rw [Links.entries_remove, h.filter_unlisted]

/-- Lists that lose one gate and its list are still in order. -/
lemma of_cut (h : f.Tidy)
    (entries : ∀ x, f'.links.entries x =
      if x = g then [] else (f.links.entries x).filter (· ≠ g))
    (agree : ∀ x, f'.links.isLive x = f'.isLive x)
    (live : ∀ x, f'.isLive x = true → f.isLive x = true) (nextGate : f'.nextGate = f.nextGate)
    (keys : f'.links.lists.keys.Nodup) : f'.Tidy := by
  refine h.of_filter (fun x y => x ≠ g && y ≠ g) ?_ ?_ agree live nextGate keys
  · intro x
    rw [entries]
    split
    · next same => simp [same]
    · next other => simp [other]
  · intro x y
    rw [Bool.and_comm]
    exact id

lemma unlinkAll (h : f.Tidy) (g : GateId) : (f.unlinkAll g).1.Tidy := by
  refine h.of_cut (h.entries_unlinkAll g) ?_ (fun _ => id) rfl ?_
  · exact fun x => (Links.isLive_congr (f.links.keys_unlinkAll g) x).trans (h.sound.agree x)
  · exact (f.links.keys_unlinkAll g).symm ▸ h.keys

lemma removeGate (h : f.Tidy) (g : GateId) : (f.removeGate g).Tidy := by
  refine h.of_cut (h.entries_removeGate g) ?_ ?_ rfl ?_
  · intro x
    rw [isLive_removeGate, ← h.sound.agree]
    exact f.links.isLive_remove g x
  · intro x there
    rw [isLive_removeGate, Bool.and_eq_true] at there
    exact there.2
  · exact ((f.links.retire g).1.keys_forgetEach g _).symm ▸ Table.nodup_keys_erase h.keys g

/-- A gate without entries has no links to remove. -/
lemma unlinkAll_eq_self (h : f.Tidy) (alone : f.links.entries g = []) : (f.unlinkAll g).1 = f := by
  have pruned : (f.links.prune g).1 = f.links := by
    have same : f.links.lists.modify g (fun ps => ps.filter f.links.isLive) =
        f.links.lists.modify g id := by
      apply Table.modify_congr h.keys
      intro ps found
      have none : ps = [] := by
        rw [Links.entries, found] at alone
        exact alone
      rw [none]
      rfl
    show Links.mk _ = _
    rw [same, Table.modify_id]
  have found : f.links.prune g = (f.links, []) :=
    Prod.ext pruned ((h.partners g).trans alone)
  have done : f.links.unlinkAll g = (f.links, 0) := by
    simp only [Links.unlinkAll, Links.unlinkRounds]
    rw [found]
  simp only [Fabric.unlinkAll]
  rw [done]

/-! ## Operations that put entries in -/

lemma addGate (h : f.Tidy) (gate : Gate) : (f.addGate gate).1.Tidy :=
  ⟨h.sound.create gate, Table.nodup_keys_insert h.keys _ _⟩

/-- Two live gates are linked, unless they are one. -/
lemma link (h : f.Tidy) {made : Bool} (la : f.isLive a = true) (lb : f.isLive b = true)
    (linked : f.link a b = .ok (f', made)) : f'.Tidy := by
  simp only [Fabric.link] at linked
  split at linked
  · cases linked
  · next ne =>
    cases linked
    refine ⟨h.sound.link ne la lb, ?_⟩
    show (f.links.link a b).1.lists.keys.Nodup
    simp only [Links.link]
    split
    · exact h.keys
    · simpa [Links.record] using h.keys

/-! ## Several gates -/

/-- Removing every link of each of several gates takes them out of all lists. -/
lemma unlinkEach (h : f.Tidy) (gs : List GateId) :
    (gs.foldl (fun f g => (f.unlinkAll g).1) f).Tidy ∧
      ∀ x, (gs.foldl (fun f g => (f.unlinkAll g).1) f).links.entries x =
        if x ∈ gs then [] else (f.links.entries x).filter (· ∉ gs) := by
  induction gs generalizing f with
  | nil =>
    refine ⟨h, ?_⟩
    intro x
    simp
  | cons g gs ih =>
    obtain ⟨tidy, entries⟩ := ih (h.unlinkAll g)
    refine ⟨tidy, ?_⟩
    intro x
    rw [List.foldl_cons, entries, h.entries_unlinkAll]
    by_cases same : x = g
    · simp [same]
    · simp only [same, if_false, List.mem_cons, false_or]
      split
      · rfl
      · rw [List.filter_filter]
        apply List.filter_congr
        intro y _
        rw [Bool.eq_iff_iff]
        simp only [Bool.and_eq_true, decide_eq_true_eq, not_or]
        exact and_comm

/-- Gates without entries are left as they are. -/
lemma unlinkEach_eq_self (h : f.Tidy) {gs : List GateId}
    (alone : ∀ g ∈ gs, f.links.entries g = []) :
    gs.foldl (fun f g => (f.unlinkAll g).1) f = f := by
  induction gs with
  | nil => rfl
  | cons g gs ih =>
    rw [List.foldl_cons, h.unlinkAll_eq_self (alone g List.mem_cons_self)]
    exact ih fun x mem => alone x (List.mem_cons_of_mem g mem)

end Tidy

end Fabric

end EventGates
