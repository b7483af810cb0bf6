import EventGates.Proofs.Links.Refinement

/-!
# What is done to one gate while a thread removes its links

`Traffic.trail` are the steps of a run that could be taken, each with the state that it was taken in.
This module looks at them from one gate and one thread that removes its links. A gate gets a partner
only when a link is made (`mem_partners_of_step`), and what the thread has found and counted changes
only by its own steps (`clearing_of_other`), of which there are three sorts (`Own`): it finds no
partner and is done, it finds partners, or it unlinks the next of them.
-/

namespace EventGates

/-- A thread takes this step to remove every link of a gate. -/
def LinkStep.isOf (t : ThreadId) : LinkStep → Bool
  | .round u => u = t
  | .cut u => u = t
  | _ => false

/-- A thread looks for partners at this step. -/
def LinkStep.isRoundOf (t : ThreadId) : LinkStep → Bool
  | .round u => u = t
  | _ => false

lemma LinkStep.isOf_round (t : ThreadId) : (round t).isOf t = true := decide_eq_true rfl

lemma LinkStep.isOf_cut (t : ThreadId) : (cut t).isOf t = true := decide_eq_true rfl

lemma LinkStep.isRoundOf_round (t : ThreadId) : (round t).isRoundOf t = true := decide_eq_true rfl

namespace Traffic

/-! ## Steps that were taken -/

/-- The steps that can be taken, in order, each with the state that it is taken in. -/
def trail (n : Traffic) : List LinkStep → List (Traffic × LinkStep)
  | [] => []
  | e :: es =>
    match n.step e with
    | none => n.trail es
    | some n' => (n, e) :: n'.trail es

/-- The gate that a gate is linked to at a step that makes a link. -/
def newPartner? (n : Traffic) (a : GateId) (e : LinkStep) : Option GateId :=
  match e with
  | .link x y =>
    if n.answer? (.link x y) = some (.linked (.ok true)) then
      if x = a then some y else if y = a then some x else none
    else none
  | _ => none

/-- The live partners that a gate loses at a step. -/
def lost (n : Traffic) (a : GateId) (e : LinkStep) : List GateId :=
  (n.partners a).filter fun p => p ∉ (n.next e).partners a

/-- How often a thread looked for partners. -/
def rounds (t : ThreadId) (tr : List (Traffic × LinkStep)) : Nat :=
  tr.countP fun x => x.2.isRoundOf t

/-- How many links of a gate were made. -/
def linksMade (a : GateId) (tr : List (Traffic × LinkStep)) : Nat :=
  tr.countP fun x => (x.1.newPartner? a x.2).isSome

/-- How many partners a gate lost by the steps of a thread. -/
def takenOut (t : ThreadId) (a : GateId) (tr : List (Traffic × LinkStep)) : Nat :=
  ((tr.filter fun x => x.2.isOf t).map fun x => (x.1.lost a x.2).length).sum

variable {n n' : Traffic} {e : LinkStep} {t : ThreadId} {a p : GateId}

lemma next_of_step (made : n.step e = some n') : n.next e = n' := by
  rw [next, made, Option.getD_some]

lemma next_of_refused (refused : n.step e = none) : n.next e = n := by
  rw [next, refused, Option.getD_none]

lemma trail_append (n : Traffic) (es es' : List LinkStep) :
    n.trail (es ++ es') = n.trail es ++ (n.runFrom es).trail es' := by
  induction es generalizing n with
  | nil => rfl
  | cons e es ih =>
    show n.trail (e :: (es ++ es')) = n.trail (e :: es) ++ ((n.next e).runFrom es).trail es'
    cases made : n.step e with
    | none => simp only [trail, made, next_of_refused made, ih]
    | some n' => simp only [trail, made, next_of_step made, ih, List.cons_append]

lemma runFrom_concat (es : List LinkStep) (made : (n.runFrom es).step e = some n') :
    n.runFrom (es ++ [e]) = n' := by
  rw [runFrom_append]
  exact next_of_step made

lemma runFrom_concat_of_refused (es : List LinkStep) (refused : (n.runFrom es).step e = none) :
    n.runFrom (es ++ [e]) = n.runFrom es := by
  rw [runFrom_append]
  exact next_of_refused refused

/-- One more step is taken. -/
lemma trail_concat (es : List LinkStep) (made : (n.runFrom es).step e = some n') :
    n.trail (es ++ [e]) = n.trail es ++ [(n.runFrom es, e)] := by
  rw [trail_append]
  simp only [trail, made]

/-- One more step cannot be taken. -/
lemma trail_concat_of_refused (es : List LinkStep) (refused : (n.runFrom es).step e = none) :
    n.trail (es ++ [e]) = n.trail es := by
  rw [trail_append]
  simp only [trail, refused, List.append_nil]

lemma rounds_concat (tr : List (Traffic × LinkStep)) :
    rounds t (tr ++ [(n, e)]) = rounds t tr + (e.isRoundOf t).toNat := by
  rw [rounds, rounds, List.countP_append, List.countP_singleton, Bool.toNat, cond_eq_ite]

lemma linksMade_concat (tr : List (Traffic × LinkStep)) :
    linksMade a (tr ++ [(n, e)]) = linksMade a tr + (n.newPartner? a e).isSome.toNat := by
  rw [linksMade, linksMade, List.countP_append, List.countP_singleton, Bool.toNat, cond_eq_ite]

lemma takenOut_append (tr tr' : List (Traffic × LinkStep)) :
    takenOut t a (tr ++ tr') = takenOut t a tr + takenOut t a tr' := by
  simp only [takenOut, List.filter_append, List.map_append, List.sum_append]

lemma takenOut_concat (tr : List (Traffic × LinkStep)) :
    takenOut t a (tr ++ [(n, e)]) =
      takenOut t a tr + if e.isOf t then (n.lost a e).length else 0 := by
  rw [takenOut_append]
  congr 1
  rw [takenOut, List.filter_singleton]
  cases e.isOf t with
  | true => exact Nat.add_zero _
  | false => rfl

/-- Only steps that are asked for are taken. -/
lemma trail_sublist (n : Traffic) (es : List LinkStep) : ((n.trail es).map Prod.snd).Sublist es := by
  induction es generalizing n with
  | nil => exact .slnil
  | cons e es ih =>
    simp only [trail]
    split
    · exact (ih n).cons e
    · next n' made => exact (ih n').cons_cons e

lemma rounds_trail_le (n : Traffic) (es : List LinkStep) :
    rounds t (n.trail es) ≤ es.countP (LinkStep.isRoundOf t) := by
  have asked := (trail_sublist n es).countP_le (p := LinkStep.isRoundOf t)
  rw [List.countP_map] at asked
  exact asked

/-! ## Partners of one gate -/

/-- A live gate is a partner of another once or not at all. -/
lemma count_partners (sound : Sound n.fabric n.departures) (live : n.isLive p = true) :
    (n.partners a).count p = (n.fabric.links.linked a p).toNat := by
  have once : (n.partners a).count p = if p ∈ n.partners a then 1 else 0 :=
    ((sound.nodup a).filter _).count
  have listed : p ∈ n.partners a ↔ n.fabric.links.linked a p = true := by
    show p ∈ (n.entries a).filter _ ↔ decide (p ∈ n.entries a) = true
    rw [List.mem_filter, sound.agree, decide_eq_true_eq]
    exact and_iff_left live
  rw [once, Bool.toNat, cond_eq_ite]
  exact if_congr listed rfl rfl

/-- Whoever lists a live gate is its partner. -/
lemma mem_partners_of_listed (sound : Sound n.fabric n.departures) (live : n.isLive a = true)
    (listed : a ∈ n.entries p) : p ∈ n.partners a := by
  refine List.mem_filter.mpr ⟨sound.symm_of_live listed live, ?_⟩
  exact (sound.agree p).trans (sound.live_of_mem listed)

/-- A link of two gates that are linked already is not made. -/
lemma newPartner?_link {x y : GateId} (ne : x ≠ y) :
    n.newPartner? a (.link x y) =
      if y ∈ n.entries x then none else if x = a then some y else if y = a then some x else none := by
  have answer : n.answer? (.link x y) = some (.linked (.ok (n.fabric.links.link x y).2)) := by
    simp only [answer?, Fabric.link, if_neg ne]
    rfl
  simp only [newPartner?, answer, Links.link, Links.linked, decide_eq_true_eq]
  show _ = if y ∈ n.fabric.links.entries x then _ else _
  split
  · rfl
  · rfl

lemma newPartner?_link_self (g : GateId) : n.newPartner? a (.link g g) = none := by
  simp only [newPartner?, answer?, Fabric.link, if_true, Except.map]
  rfl

/-- A link that is made puts its other end last among the partners. -/
lemma partners_link {x y : GateId} (sound : Sound n.fabric n.departures) (ne : x ≠ y)
    (lx : n.isLive x = true) (ly : n.isLive y = true) :
    (n.withLinks (n.fabric.links.link x y).1).partners a =
      n.partners a ++ (n.newPartner? a (.link x y)).toList := by
  rw [newPartner?_link ne]
  show (n.fabric.links.link x y).1.partners a = _
  by_cases listed : y ∈ n.entries x
  · have stays : n.fabric.links.link x y = (n.fabric.links, false) := Links.link_of_mem listed
    rw [if_pos listed, stays]
    exact (List.append_nil _).symm
  · rw [if_neg listed, Links.partners_link ne ((sound.agree x).trans lx) ((sound.agree y).trans ly)
      listed]
    split
    · next same =>
      rw [same, if_pos rfl]
      rfl
    · next other =>
      rw [if_neg (Ne.symm other)]
      split
      · next same =>
        rw [same, if_pos rfl]
        rfl
      · next apart =>
        rw [if_neg (Ne.symm apart)]
        exact (List.append_nil _).symm

lemma partners_of_newPartner (sound : Sound n.fabric n.departures) (made : n.step e = some n')
    (new : n.newPartner? a e = some p) : n'.partners a = n.partners a ++ [p] := by
  cases turn_of_step made with
  | refuse g =>
    rw [newPartner?_link_self] at new
    cases new
  | link ne lx ly =>
    rw [partners_link sound ne lx ly, new]
    rfl
  | _ => cases new

/-- A gate gets no partner but by a link that is made. -/
lemma mem_partners_of_step (sound : Sound n.fabric n.departures) (live : n.isLive a = true)
    (made : n.step e = some n') (mem : p ∈ n'.partners a) :
    p ∈ n.partners a ∨ n.newPartner? a e = some p := by
  cases turn_of_step made with
  | create gate =>
    have other : a ≠ n.fabric.nextGate := Nat.ne_of_lt (sound.fresh a live)
    have same := (step_elsewhere sound made (x := a) (by simpa [involved] using other)).2
    exact .inl (same ▸ mem)
  | link ne lx ly =>
    rw [partners_link sound ne lx ly] at mem
    exact (List.mem_append.mp mem).imp_right Option.mem_toList.mp
  | @unlink x y =>
    have mem : p ∈ (n.fabric.links.unlink x y).1.partners a := mem
    rw [Links.partners_unlink] at mem
    exact .inl (List.mem_filter.mp mem).1
  | @finish u g =>
    have mem : p ∈ (n.fabric.links.prune g).1.partners a := mem
    rw [Links.partners_prune] at mem
    exact .inl mem
  | @round u g =>
    have mem : p ∈ (n.fabric.links.prune g).1.partners a := mem
    rw [Links.partners_prune] at mem
    exact .inl mem
  | @cut u g q qs removed found =>
    have mem : p ∈ (n.fabric.links.unlink g q).1.partners a := mem
    rw [Links.partners_unlink] at mem
    exact .inl (List.mem_filter.mp mem).1
  | @depart g =>
    have mem : p ∈ (n.fabric.links.retire g).1.partners a := mem
    rw [Links.partners_retire] at mem
    split at mem
    · cases mem
    · exact .inl (List.mem_filter.mp mem).1
  | @detach g q qs leaving =>
    have gone := (sound.agree g).trans (sound.gone g _ leaving).1
    have mem : p ∈ (n.fabric.links.forget q g).partners a := mem
    rw [Links.partners_forget gone] at mem
    exact .inl mem
  | _ => exact .inl mem

/-! ## The thread itself -/

/-- A thread that is done is not under way. -/
lemma isSome_find?_erase (clearings : Table ThreadId Clearing) (t : ThreadId) :
    ((clearings.erase t).find? t).isSome = false := by
  rw [Table.find?_erase, if_pos rfl]
  rfl

/-- What a thread can do that removes the links of a gate, by the partners that it has not come to. -/
inductive Own (n : Traffic) (t : ThreadId) (a : GateId) (removed : Nat) :
    List GateId → LinkStep → Traffic → Prop where
  | finish (none : n.partners a = []) :
    Own n t a removed [] (.round t)
      { n.withLinks (n.fabric.links.prune a).1 with clearings := n.clearings.erase t }
  | round (some : n.partners a ≠ []) :
    Own n t a removed [] (.round t)
      { n.withLinks (n.fabric.links.prune a).1 with
        clearings := n.clearings.insert t ⟨a, n.partners a, removed⟩ }
  | cut (p : GateId) (ps : List GateId) :
    Own n t a removed (p :: ps) (.cut t)
      { n.withLinks (n.fabric.links.unlink a p).1 with
        clearings := n.clearings.insert t ⟨a, ps, removed + (n.fabric.links.unlink a p).2.toNat⟩ }

/-- Every step of the thread that can be taken is one of these. -/
lemma own_of_step {todo : List GateId} {removed : Nat}
    (found : n.clearings.find? t = some ⟨a, todo, removed⟩) (own : e.isOf t = true)
    (made : n.step e = some n') : n.Own t a removed todo e n' := by
  cases turn_of_step made with
  | @finish u g k found' none =>
    obtain rfl : u = t := of_decide_eq_true own
    cases found.symm.trans found'
    exact .finish none
  | @round u g k found' some =>
    obtain rfl : u = t := of_decide_eq_true own
    cases found.symm.trans found'
    exact .round some
  | @cut u g p ps k found' =>
    obtain rfl : u = t := of_decide_eq_true own
    cases found.symm.trans found'
    exact .cut p ps
  | _ => cases own

namespace Own

variable {todo : List GateId} {removed : Nat}

/-- The links between other gates are left. -/
lemma entries_filter (own : n.Own t a removed todo e n') {g : GateId} (other : g ≠ a) :
    (n'.entries g).filter (· ≠ a) = (n.entries g).filter (· ≠ a) := by
  have pruned : (n.fabric.links.prune a).1.entries g = n.entries g :=
    (Links.entries_prune _ _ _).trans (if_neg other)
  cases own with
  | finish none => exact congrArg _ pruned
  | round some => exact congrArg _ pruned
  | cut p ps =>
    show ((n.fabric.links.unlink a p).1.entries g).filter _ = _
    rw [Links.entries_unlink_eq_filter, List.filter_filter]
    apply List.filter_congr
    intro y _
    by_cases same : y = a
    · simp [same]
    · simp [same, other]

/-- Only the partner that is next is lost. -/
lemma partners_eq (own : n.Own t a removed todo e n') :
    n'.partners a = (n.partners a).filter fun p => todo.head? ≠ some p := by
  have pruned : (n.fabric.links.prune a).1.partners a = n.partners a := Links.partners_prune _ _ _
  have all : (n.partners a).filter (fun p => ([] : List GateId).head? ≠ some p) = n.partners a :=
    List.filter_eq_self.mpr fun p _ => rfl
  cases own with
  | finish none => exact pruned.trans all.symm
  | round some => exact pruned.trans all.symm
  | cut p ps =>
    refine (Links.partners_unlink _ a p a).trans (List.filter_congr fun y _ => ?_)
    rw [Bool.eq_iff_iff, decide_eq_true_eq, decide_eq_true_eq, List.head?_cons, Ne, Ne,
      Sym2.congr_right, Option.some.injEq, eq_comm]

lemma lost_eq (own : n.Own t a removed todo e n') (made : n.step e = some n') :
    n.lost a e = (n.partners a).filter fun p => todo.head? = some p := by
  rw [lost, next_of_step made, own.partners_eq]
  apply List.filter_congr
  intro p mem
  simp [List.mem_filter, mem]

/-- Partners are lost or left. -/
lemma length_lost (own : n.Own t a removed todo e n') (made : n.step e = some n') :
    (n.lost a e).length + (n'.partners a).length = (n.partners a).length := by
  have parts := List.length_eq_countP_add_countP (fun p => todo.head? = some p) (l := n.partners a)
  simp only [List.countP_eq_length_filter, decide_eq_true_eq] at parts
  rw [own.lost_eq made, own.partners_eq]
  exact parts.symm

/-- The thread counts the partners that are lost, and goes on with those that it found. -/
lemma clearing_eq (own : n.Own t a removed todo e n') (made : n.step e = some n')
    (sound : Sound n.fabric n.departures) (live : ∀ p ∈ todo, n.isLive p = true)
    (busy : (n'.clearings.find? t).isSome = true) :
    n'.clearings.find? t = some ⟨a, if todo = [] then n.partners a else todo.tail,
      removed + (n.lost a e).length⟩ := by
  have lost := own.lost_eq made
  cases own with
  | finish none =>
    exact absurd ((isSome_find?_erase n.clearings t).symm.trans busy) Bool.false_ne_true
  | round some =>
    have nobody : n.lost a (.round t) = [] := lost.trans (List.filter_eq_nil_iff.mpr nofun)
    rw [nobody, if_pos rfl]
    exact (Table.find?_insert _ _ _ _).trans (if_pos rfl)
  | cut p ps =>
    have count : (n.lost a (.cut t)).length = (n.fabric.links.unlink a p).2.toNat := by
      rw [lost, ← List.countP_eq_length_filter]
      refine (List.countP_congr fun q _ => ?_).trans (count_partners sound (live p List.mem_cons_self))
      rw [decide_eq_true_eq, beq_iff_eq, List.head?_cons, Option.some.injEq, eq_comm]
    rw [count, if_neg (List.cons_ne_nil p ps)]
    exact (Table.find?_insert _ _ _ _).trans (if_pos rfl)

end Own

/-- What others do leaves what the thread has found and counted. -/
lemma clearing_of_other (made : n.step e = some n') (other : e.isOf t = false)
    (busy : (n.clearings.find? t).isSome = true) :
    n'.clearings.find? t = n.clearings.find? t := by
  have elsewhere : ∀ u c, u ≠ t → (n.clearings.insert u c).find? t = n.clearings.find? t :=
    fun u c apart => by rw [Table.find?_insert, if_neg apart.symm]
  cases turn_of_step made with
  | @clear u g live idle =>
    apply elsewhere
    rintro rfl
    rw [idle] at busy
    cases busy
  | @finish u g removed found none =>
    have apart : u ≠ t := of_decide_eq_false other
    show (n.clearings.erase u).find? t = _
    rw [Table.find?_erase, if_neg apart.symm]
  | @round u g removed found some => exact elsewhere u _ (of_decide_eq_false other)
  | @cut u g q qs removed found => exact elsewhere u _ (of_decide_eq_false other)
  | _ => rfl

end Traffic

end EventGates
