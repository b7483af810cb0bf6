import EventGates.Proofs.Links.Trails

/-!
# Removing every link of a gate amid other operations

A thread that removes every link of a gate goes in rounds, and between any two of its steps others may
link the gate, unlink it, remove every link of it too and drop gates. Whatever they do, the gate is
without links at the instant at which the thread is done, what the thread says is how many links its
own steps took out, and it went at most two rounds more than links of the gate were made meanwhile
(`run_clear_amid`).

What one step does to the thread and to the partners of the gate is `Advance`. The invariant of runs is
`Progress`: a partner of the gate is one that the thread is to come to, or it was linked since the round
began. So a thread that comes to the end of a round with a partner left owes it to a link that was made
during that round, and this is why rounds never get ahead of links by more than one.
-/

namespace EventGates

namespace Traffic

/-- A thread is under way after each of the steps that are taken. -/
def Busy (n : Traffic) (t : ThreadId) (es : List LinkStep) : Prop :=
  ∀ x ∈ n.trail es, ((x.1.next x.2).clearings.find? t).isSome = true

instance (n : Traffic) (t : ThreadId) (es : List LinkStep) : Decidable (n.Busy t es) :=
  inferInstanceAs (Decidable (∀ x ∈ n.trail es, _))

/-- Others leave the partners of a gate while a thread removes its links. -/
def Undisturbed (n : Traffic) (t : ThreadId) (a : GateId) (es : List LinkStep) : Prop :=
  ∀ x ∈ n.trail es, x.2.isOf t = true ∨ (x.1.next x.2).partners a = x.1.partners a

variable {n n' : Traffic} {e : LinkStep} {es es' : List LinkStep} {t : ThreadId} {a : GateId}
  {todo todo' : List GateId} {removed : Nat}

lemma busy_append : n.Busy t (es ++ es') ↔ n.Busy t es ∧ (n.runFrom es).Busy t es' := by
  simp only [Busy, trail_append, List.forall_mem_append]

lemma busy_singleton (made : n.step e = some n') :
    n.Busy t [e] ↔ (n'.clearings.find? t).isSome = true := by
  simp only [Busy, trail, made, List.forall_mem_singleton, next_of_step made]

lemma undisturbed_append :
    n.Undisturbed t a (es ++ es') ↔ n.Undisturbed t a es ∧ (n.runFrom es).Undisturbed t a es' := by
  simp only [Undisturbed, trail_append, List.forall_mem_append]

lemma undisturbed_singleton (made : n.step e = some n') :
    n.Undisturbed t a [e] ↔ e.isOf t = true ∨ n'.partners a = n.partners a := by
  simp only [Undisturbed, trail, made, List.forall_mem_singleton, next_of_step made]

/-! ## A step -/

/-- A thread removes the links of a gate, and has partners to come to and some links removed. -/
structure Removing (n : Traffic) (t : ThreadId) (a : GateId) (todo : List GateId) (removed : Nat) :
    Prop where
  mirrors : ∃ s, Mirrors n s
  found : n.clearings.find? t = some ⟨a, todo, removed⟩

/-- What a step of any thread does to a thread that is under way, and to the partners of its gate. -/
structure Advance (n : Traffic) (t : ThreadId) (a : GateId) (todo : List GateId) (removed : Nat)
    (e : LinkStep) (n' : Traffic) (todo' : List GateId) : Prop where
  removing : Removing n' t a todo' (removed + if e.isOf t then (n.lost a e).length else 0)
  /-- The thread is to come to a partner, or came to it before, or the partner is new. -/
  partners : ∀ p ∈ n'.partners a,
    p ∈ todo' ∨ (e.isRoundOf t = false ∧ p ∈ n.partners a ∧ p ∉ todo) ∨ n.newPartner? a e = some p
  /-- The thread looks for partners when it has come to all, and goes on if it finds one. -/
  round : e.isRoundOf t = true → todo = [] ∧ n.partners a ≠ []
  level : e.isOf t = true → (n.lost a e).length + (n'.partners a).length = (n.partners a).length

namespace Removing

lemma sound (h : Removing n t a todo removed) : Sound n.fabric n.departures :=
  h.mirrors.elim fun _ mirrors => mirrors.sound

lemma live (h : Removing n t a todo removed) : n.isLive a = true ∧ ∀ p ∈ todo, n.isLive p = true :=
  h.mirrors.elim fun _ mirrors => mirrors.held t _ h.found

/-- Others bring and take partners, and leave the thread as it is. -/
lemma advance_other (h : Removing n t a todo removed) (made : n.step e = some n')
    (other : e.isOf t = false) : Advance n t a todo removed e n' todo := by
  obtain ⟨s, mirrors⟩ := h.mirrors
  have round : e.isRoundOf t = false := by
    cases e with
    | round u => exact other
    | _ => rfl
  refine ⟨⟨⟨_, (mirrors.step made).1⟩, ?_⟩, ?_, ?_, ?_⟩
  · rw [other, clearing_of_other made other (by rw [h.found]; rfl), h.found]
    rfl
  · intro p mem
    obtain old | new := mem_partners_of_step h.sound h.live.1 made mem
    · by_cases listed : p ∈ todo
      · exact .inl listed
      · exact .inr (.inl ⟨round, old, listed⟩)
    · exact .inr (.inr new)
  · intro look
    rw [round] at look
    cases look
  · intro own
    rw [other] at own
    cases own

/-- The thread finds all partners, or takes out the next of those that it found. -/
lemma advance_own (h : Removing n t a todo removed) (made : n.step e = some n')
    (own : e.isOf t = true) (busy : (n'.clearings.find? t).isSome = true) :
    Advance n t a todo removed e n' (if todo = [] then n.partners a else todo.tail) := by
  obtain ⟨s, mirrors⟩ := h.mirrors
  have step := own_of_step h.found own made
  have found := step.clearing_eq made h.sound h.live.2 busy
  have partners := step.partners_eq
  have level := step.length_lost made
  have removing : Removing n' t a (if todo = [] then n.partners a else todo.tail)
      (removed + if e.isOf t then (n.lost a e).length else 0) := by
    refine ⟨⟨_, (mirrors.step made).1⟩, ?_⟩
    rw [found, own, if_pos rfl]
  cases step with
  | finish none => exact absurd ((isSome_find?_erase n.clearings t).symm.trans busy) Bool.false_ne_true
  | round some =>
    refine ⟨removing, ?_, fun _ => ⟨rfl, some⟩, fun _ => level⟩
    intro p mem
    rw [partners] at mem
    exact .inl (List.mem_filter.mp mem).1
  | cut q qs =>
    refine ⟨removing, ?_, nofun, fun _ => level⟩
    intro p mem
    rw [partners] at mem
    obtain ⟨old, other⟩ := List.mem_filter.mp mem
    by_cases listed : p ∈ q :: qs
    · refine .inl ((List.mem_cons.mp listed).resolve_left ?_)
      rintro rfl
      exact of_decide_eq_true other rfl
    · exact .inr (.inl ⟨rfl, old, listed⟩)

/-- While the thread is under way, every step is an advance. -/
lemma advance (h : Removing n t a todo removed) (made : n.step e = some n')
    (busy : (n'.clearings.find? t).isSome = true) :
    ∃ todo', Advance n t a todo removed e n' todo' := by
  cases own : e.isOf t with
  | false => exact ⟨_, h.advance_other made own⟩
  | true => exact ⟨_, h.advance_own made own busy⟩

end Removing

/-! ## A run -/

/-- What steps of any threads do while a thread is under way. -/
structure Progress (n : Traffic) (t : ThreadId) (a : GateId) (todo : List GateId) (removed : Nat)
    (es : List LinkStep) (todo' : List GateId) : Prop where
  removing : Removing (n.runFrom es) t a todo' (removed + takenOut t a (n.trail es))
  /-- If there are more rounds than links that were made then the thread is to come to all partners. -/
  pace : rounds t (n.trail es) ≤ linksMade a (n.trail es) ∨
    rounds t (n.trail es) ≤ linksMade a (n.trail es) + 1 ∧
      ∀ p ∈ (n.runFrom es).partners a, p ∈ todo'
  /-- Before the next round the thread is to come to all partners but new ones, if it was. -/
  since : (∀ p ∈ n.partners a, p ∈ todo) → rounds t (n.trail es) = 0 →
    ∀ p ∈ (n.runFrom es).partners a,
      p ∈ todo' ∨ ∃ x ∈ n.trail es, x.1.newPartner? a x.2 = some p
  /-- Partners that others leave are taken out or still there. -/
  level : n.Undisturbed t a es →
    takenOut t a (n.trail es) + ((n.runFrom es).partners a).length = (n.partners a).length ∧
      linksMade a (n.trail es) = 0

/-- A step at which a link is made is no round, and changes the partners. -/
lemma newPartner_eq_none (sound : Sound n.fabric n.departures) (made : n.step e = some n')
    (h : e.isOf t = true ∨ n'.partners a = n.partners a) : n.newPartner? a e = none := by
  cases new : n.newPartner? a e with
  | none => rfl
  | some p =>
    obtain own | same := h
    · cases e with
      | link x y => cases own
      | _ => cases new
    · have longer := congrArg List.length (partners_of_newPartner sound made new)
      rw [same, List.length_append, List.length_singleton] at longer
      exact absurd longer (Nat.ne_of_lt (Nat.lt_succ_self _))

/-- Looking for partners once more takes a link that was made since all were found, but once. -/
lemma Advance.pace (h : Advance n t a todo removed e n' todo') {looks links : Nat}
    (pace : looks ≤ links ∨ looks ≤ links + 1 ∧ ∀ p ∈ n.partners a, p ∈ todo) :
    looks + (e.isRoundOf t).toNat ≤ links + (n.newPartner? a e).isSome.toNat ∨
      looks + (e.isRoundOf t).toNat ≤ links + (n.newPartner? a e).isSome.toNat + 1 ∧
        ∀ p ∈ n'.partners a, p ∈ todo' := by
  cases new : n.newPartner? a e with
  | some p =>
    have cut : e.isRoundOf t = false := by
      cases e with
      | link x y => rfl
      | _ => cases new
    rw [cut]
    exact .inl (pace.elim (fun le => Nat.le_succ_of_le le) fun le => le.1)
  | none =>
    have old : ∀ p ∈ n'.partners a,
        p ∈ todo' ∨ e.isRoundOf t = false ∧ p ∈ n.partners a ∧ p ∉ todo := by
      intro p mem
      refine (h.partners p mem).imp_right fun rest => rest.resolve_right fun made => ?_
      rw [new] at made
      cases made
    cases round : e.isRoundOf t with
    | true =>
      obtain ⟨rfl, some⟩ := h.round round
      -- a partner is left that the thread was not to come to, so rounds are not ahead of links yet
      have le : looks ≤ links := by
        refine pace.resolve_right fun left => some ?_
        exact List.eq_nil_iff_forall_not_mem.mpr fun p mem => List.not_mem_nil (left.2 p mem)
      refine .inr ⟨Nat.succ_le_succ le, fun p mem => (old p mem).resolve_right fun rest => ?_⟩
      exact Bool.false_ne_true (rest.1.symm.trans round)
    | false =>
      refine pace.imp id (And.imp_right fun all p mem => ?_)
      exact (old p mem).resolve_right fun rest => rest.2.2 (all p rest.2.1)

/-- One more step is taken. -/
lemma Progress.step (h : Progress n t a todo removed es todo')
    (made : (n.runFrom es).step e = some n') (busy : (n'.clearings.find? t).isSome = true) :
    ∃ todo'', Progress n t a todo removed (es ++ [e]) todo'' := by
  obtain ⟨todo'', adv⟩ := h.removing.advance made busy
  have reach := runFrom_concat es made
  refine ⟨todo'', ?_, ?_, ?_, ?_⟩
  · rw [reach, trail_concat es made, takenOut_concat, ← Nat.add_assoc]
    exact adv.removing
  · rw [reach, trail_concat es made, rounds_concat, linksMade_concat]
    exact adv.pace h.pace
  · rw [reach, trail_concat es made, rounds_concat]
    intro all none p mem
    obtain listed | ⟨-, old, past⟩ | new := adv.partners p mem
    · exact .inl listed
    · obtain listed | ⟨x, before, new⟩ := h.since all (Nat.eq_zero_of_add_eq_zero_right none) p old
      · exact absurd listed past
      · exact .inr ⟨x, List.mem_append_left _ before, new⟩
    · exact .inr ⟨_, List.mem_append_right _ (List.mem_singleton_self _), new⟩
  · intro undisturbed
    obtain ⟨before, last⟩ := undisturbed_append.mp undisturbed
    rw [undisturbed_singleton made] at last
    obtain ⟨balance, made'⟩ := h.level before
    rw [reach, trail_concat es made, takenOut_concat, linksMade_concat,
      newPartner_eq_none h.removing.sound made last]
    refine ⟨?_, made'⟩
    split
    · next own =>
      have level := adv.level own
      omega
    · next other =>
      rw [last.resolve_left other]
      exact balance

/-- One more step cannot be taken. -/
lemma Progress.of_refused (h : Progress n t a todo removed es todo')
    (refused : (n.runFrom es).step e = none) :
    Progress n t a todo removed (es ++ [e]) todo' := by
  have trail := trail_concat_of_refused es refused
  have stays := runFrom_concat_of_refused es refused
  refine ⟨?_, ?_, ?_, ?_⟩
  · rw [stays, trail]
    exact h.removing
  · rw [stays, trail]
    exact h.pace
  · rw [stays, trail]
    exact h.since
  · intro undisturbed
    rw [stays, trail]
    exact h.level (undisturbed_append.mp undisturbed).1

/-- Whatever is done while the thread is under way makes progress. -/
lemma Removing.progress (h : Removing n t a todo removed) (busy : n.Busy t es) :
    ∃ todo', Progress n t a todo removed es todo' := by
  induction es using List.reverseRecOn with
  | nil =>
    refine ⟨todo, h, .inl (Nat.le_refl 0), fun all _ p mem => .inl (all p mem), fun _ => ?_⟩
    exact ⟨Nat.zero_add _, rfl⟩
  | append_singleton es e ih =>
    obtain ⟨before, last⟩ := busy_append.mp busy
    obtain ⟨todo', progress⟩ := ih before
    cases made : (n.runFrom es).step e with
    | none => exact ⟨todo', progress.of_refused made⟩
    | some n' => exact progress.step made ((busy_singleton made).mp last)

/-! ## The thread alone -/

/-- The thread comes to all partners that it found. -/
lemma busy_cut (found : n.clearings.find? t = some ⟨a, todo, removed⟩) :
    n.Busy t (List.replicate todo.length (.cut t)) := by
  induction todo generalizing n removed with
  | nil => exact nofun
  | cons p ps ih =>
    have made : n.step (.cut t) = some
        { n.withLinks (n.fabric.links.unlink a p).1 with
          clearings := n.clearings.insert t
            ⟨a, ps, removed + (n.fabric.links.unlink a p).2.toNat⟩ } := by
      simp only [step, found]
    have found' : (n.next (.cut t)).clearings.find? t =
        some ⟨a, ps, removed + (n.fabric.links.unlink a p).2.toNat⟩ := by
      rw [next_of_step made]
      exact (Table.find?_insert _ _ _ _).trans (if_pos rfl)
    rw [List.length_cons, List.replicate_succ, ← List.singleton_append, busy_append,
      busy_singleton made, ← next_of_step made]
    exact ⟨by rw [found']; rfl, ih found'⟩

/-- Alone, the thread takes out all partners that it finds. -/
lemma run_round (found : n.clearings.find? t = some ⟨a, [], removed⟩)
    (any : n.partners a ≠ []) :
    let es := .round t :: List.replicate (n.partners a).length (.cut t)
    n.Busy t es ∧ (n.runFrom es).partners a = [] ∧
      ∃ removed', (n.runFrom es).clearings.find? t = some ⟨a, [], removed'⟩ := by
  intro es
  have made : n.step (.round t) = some
      { n.withLinks (n.fabric.links.prune a).1 with
        clearings := n.clearings.insert t ⟨a, n.partners a, removed⟩ } := by
    have seen : (n.fabric.links.prune a).2 = n.partners a := rfl
    simp only [step, found, seen, List.isEmpty_iff, if_neg any]
  have found' : (n.next (.round t)).clearings.find? t = some ⟨a, n.partners a, removed⟩ := by
    rw [next_of_step made]
    exact (Table.find?_insert _ _ _ _).trans (if_pos rfl)
  obtain ⟨fabric, left⟩ := runFrom_cut found'
  refine ⟨?_, ?_, _, left⟩
  · show n.Busy t ([.round t] ++ _)
    rw [busy_append, busy_singleton made, ← next_of_step made]
    exact ⟨by rw [found']; rfl, busy_cut found'⟩
  · show (Fabric.links (Traffic.fabric ((n.next (.round t)).runFrom _))).partners a = []
    rw [fabric, next_of_step made]
    exact partners_unlinkEach n.fabric.links a

/-- Left alone, the thread comes to the end of a round in which it was alone, or that it began with. -/
lemma Removing.alone (h : Removing n t a todo removed) :
    ∃ es, (∀ e ∈ es, e.isOf t = true) ∧ es.countP (LinkStep.isRoundOf t) ≤ 1 ∧ n.Busy t es ∧
      (n.runFrom es).partners a = [] ∧
        ∃ removed', (n.runFrom es).clearings.find? t = some ⟨a, [], removed'⟩ := by
  have own : ∀ k, ∀ e ∈ List.replicate k (LinkStep.cut t), e.isOf t = true := by
    intro k e mem
    rw [List.eq_of_mem_replicate mem]
    exact LinkStep.isOf_cut t
  have cuts : ∀ k, (List.replicate k (LinkStep.cut t)).countP (LinkStep.isRoundOf t) = 0 := by
    intro k
    rw [List.countP_replicate]
    rfl
  have rest := busy_cut h.found
  obtain ⟨-, left⟩ := runFrom_cut h.found
  by_cases bare : (n.runFrom (List.replicate todo.length (.cut t))).partners a = []
  · exact ⟨_, own _, (cuts _).le.trans (Nat.zero_le 1), rest, bare, _, left⟩
  · obtain ⟨round, bare', left'⟩ := run_round left bare
    refine ⟨_ ++ _, ?_, ?_, busy_append.mpr ⟨rest, round⟩, ?_⟩
    · exact List.forall_mem_append.mpr
        ⟨own _, List.forall_mem_cons.mpr ⟨LinkStep.isOf_round t, own _⟩⟩
    · rw [List.countP_append, List.countP_cons, cuts, cuts, Nat.zero_add, Nat.zero_add]
      split <;> omega
    · rw [runFrom_append]
      exact ⟨bare', left'⟩

/-! ## All that a thread does -/

/-- What is so when a thread is done with the links of a gate. It set out in one state, says a number
and leaves in another state; the steps are those that were done in between. -/
structure Cleared (n : Traffic) (t : ThreadId) (a : GateId) (es : List LinkStep) (count : Nat)
    (n' : Traffic) : Prop where
  ended : n'.clearings.find? t = none
  live : n'.isLive a = true
  alone : n'.partners a = []
  unlisted : ∀ g, a ∉ n'.entries g
  /-- The thread says how many links its own steps took out. -/
  count_eq : count = takenOut t a (n.trail es)
  rounds_le : rounds t (n.trail (es ++ [.round t])) ≤ 2 + linksMade a (n.trail (es ++ [.round t]))
  undisturbed : n.Undisturbed t a es →
    count = (n.partners a).length ∧ rounds t (n.trail (es ++ [.round t])) ≤ 2

/-- What is so while a thread is under way to remove every link of a gate. It set out in one state, and
the steps are those that were done since. -/
structure Clears (n : Traffic) (t : ThreadId) (a : GateId) (es : List LinkStep) : Prop where
  /-- The thread can go on. -/
  going : ((n.runFrom es).step (.round t)).isSome = true ∨ ((n.runFrom es).step (.cut t)).isSome = true
  /-- It leaves the links between other gates. -/
  apart : ∀ e n', e.isOf t = true → (n.runFrom es).step e = some n' → ∀ g, g ≠ a →
    (n'.entries g).filter (· ≠ a) = ((n.runFrom es).entries g).filter (· ≠ a)
  /-- It takes a link out of both lists. -/
  both : ∀ e n', e.isOf t = true → (n.runFrom es).step e = some n' → ∀ p ∈ (n.runFrom es).lost a e,
    a ∈ (n.runFrom es).entries p ∧ p ∉ n'.entries a ∧ a ∉ n'.entries p
  /-- When it comes to the end of a round, it has left none that it found, nor any other, linked to the
  gate, unless they were linked during the round. -/
  round : ∀ es₁ es₂, es = es₁ ++ .round t :: es₂ →
    ((n.runFrom es₁).step (.round t)).isSome = true →
    let n₁ := n.runFrom (es₁ ++ [.round t])
    rounds t (n₁.trail es₂) = 0 → ((n.runFrom es).step (.round t)).isSome = true →
    ∀ p, p ∈ (n.runFrom es).partners a ∨ a ∈ (n.runFrom es).entries p →
      ∃ x ∈ n₁.trail es₂, x.1.newPartner? a x.2 = some p
  rounds_le : rounds t (n.trail es) ≤ 1 + linksMade a (n.trail es)
  done : ∀ n' count, (n.runFrom es).step (.round t) = some n' →
    (n.runFrom es).answer? (.round t) = some (.cleared count) → Cleared n t a es count n'
  /-- Left alone it is done after two more rounds at the most, and has taken out all partners. -/
  returns : ∃ es', (∀ e ∈ es', e.isOf t = true) ∧ n.Busy t (es ++ es') ∧
    rounds t ((n.runFrom es).trail (es' ++ [.round t])) ≤ 2 ∧
    ((n.runFrom (es ++ es')).step (.round t)).isSome = true ∧
    (n.runFrom (es ++ es')).answer? (.round t) =
      some (.cleared (takenOut t a (n.trail es) + ((n.runFrom es).partners a).length))

/-- The thread sets out with nothing found and nothing removed. -/
lemma removing_of_clear {before : List LinkStep} (out : (run before).step (.clear t a) = some n) :
    Removing n t a [] 0 := by
  have mirrors := (mirrors_start.runFrom before).1
  refine ⟨⟨_, (mirrors.step out).1⟩, ?_⟩
  cases turn_of_step out with
  | clear live idle => exact (Table.find?_insert _ _ _ _).trans (if_pos rfl)

namespace Removing

/-- The thread looks for partners when it has come to all that it found. -/
lemma todo_eq_nil (h : Removing n t a todo removed) (made : n.step (.round t) = some n') :
    todo = [] := by
  cases own_of_step h.found (LinkStep.isOf_round t) made with
  | finish _ => rfl
  | round _ => rfl

lemma isSome_step (h : Removing n t a todo removed) :
    (n.step (if todo = [] then .round t else .cut t)).isSome = true := by
  cases todo with
  | nil => simp only [if_true, step, h.found, Option.isSome_some]
  | cons p ps => simp only [reduceCtorEq, if_false, step, h.found, Option.isSome_some]

/-- The thread says how many links it removed when it finds no partner. -/
lemma answer?_round (h : Removing n t a todo removed) :
    n.answer? (.round t) = if n.partners a = [] then some (.cleared removed) else none := by
  simp only [answer?, h.found, Option.bind_some]
  rfl

/-- What the thread does next leaves the links between other gates. -/
lemma entries_filter (h : Removing n t a todo removed) (own : e.isOf t = true)
    (made : n.step e = some n') {g : GateId} (other : g ≠ a) :
    (n'.entries g).filter (· ≠ a) = (n.entries g).filter (· ≠ a) :=
  (own_of_step h.found own made).entries_filter other

/-- A link that the thread takes out was in both lists, and is in none. -/
lemma lost_both (h : Removing n t a todo removed) (own : e.isOf t = true)
    (made : n.step e = some n') {p : GateId} (lost : p ∈ n.lost a e) :
    a ∈ n.entries p ∧ p ∉ n'.entries a ∧ a ∉ n'.entries p := by
  have step := own_of_step h.found own made
  rw [step.lost_eq made] at lost
  obtain ⟨partner, next⟩ := List.mem_filter.mp lost
  cases step with
  | finish _ => cases next
  | round _ => cases next
  | cut q qs =>
    obtain rfl : q = p := Option.some.inj (of_decide_eq_true next)
    have back := h.sound.symm_of_live (List.mem_filter.mp partner).1 (h.live.2 q List.mem_cons_self)
    refine ⟨back, ?_, ?_⟩
    · intro listed
      exact (Links.mem_entries_unlink.mp listed).2.1 ⟨rfl, rfl⟩
    · intro listed
      exact (Links.mem_entries_unlink.mp listed).2.2 ⟨rfl, rfl⟩

end Removing

/-- What is so at the step at which the thread finds no partner. -/
lemma Progress.cleared (h : Progress n t a [] 0 es todo') {count : Nat}
    (made : (n.runFrom es).step (.round t) = some n')
    (answer : (n.runFrom es).answer? (.round t) = some (.cleared count)) :
    Cleared n t a es count n' := by
  obtain rfl := h.removing.todo_eq_nil made
  have own := own_of_step h.removing.found (LinkStep.isOf_round t) made
  have sound := h.removing.sound.step made
  rw [h.removing.answer?_round, Nat.zero_add] at answer
  split at answer
  · next none =>
    cases answer
    have alone : n'.partners a = [] := by
      rw [own.partners_eq, none]
      rfl
    have live : n'.isLive a = true := by
      cases own with
      | finish _ => exact h.removing.live.1
      | round any => exact absurd none any
    have looks : rounds t (n.trail (es ++ [.round t])) = rounds t (n.trail es) + 1 := by
      rw [trail_concat es made, rounds_concat, LinkStep.isRoundOf_round]
      rfl
    have links : linksMade a (n.trail (es ++ [.round t])) = linksMade a (n.trail es) := by
      rw [trail_concat es made, linksMade_concat]
      rfl
    have pace : rounds t (n.trail es) ≤ linksMade a (n.trail es) + 1 :=
      h.pace.elim Nat.le_succ_of_le And.left
    refine ⟨?_, live, alone, ?_, rfl, ?_, ?_⟩
    · cases own with
      | finish _ => exact (Table.find?_erase _ _ _).trans (if_pos rfl)
      | round any => exact absurd none any
    · intro g listed
      have partner := mem_partners_of_listed sound live listed
      rw [alone] at partner
      cases partner
    · rw [looks, links]
      omega
    · intro undisturbed
      obtain ⟨level, unlinked⟩ := h.level undisturbed
      rw [none] at level
      rw [looks]
      exact ⟨level, by omega⟩
  · cases answer

/-- Who is a partner at the end of a round was linked during it. -/
lemma Removing.linked_since (h : Removing n t a todo removed)
    (looks : (n.step (.round t)).isSome = true) (busy : n.Busy t (.round t :: es))
    (once : rounds t ((n.next (.round t)).trail es) = 0)
    (ends : (((n.next (.round t)).runFrom es).step (.round t)).isSome = true) {p : GateId}
    (partner : p ∈ ((n.next (.round t)).runFrom es).partners a) :
    ∃ x ∈ (n.next (.round t)).trail es, x.1.newPartner? a x.2 = some p := by
  obtain ⟨n₁, made⟩ := Option.isSome_iff_exists.mp looks
  have first : n.next (.round t) = n₁ := next_of_step made
  obtain ⟨found, rest⟩ := busy_append.mp (show n.Busy t ([.round t] ++ es) from busy)
  obtain ⟨todo₁, adv⟩ := h.advance made ((busy_singleton made).mp found)
  have all : ∀ p ∈ n₁.partners a, p ∈ todo₁ := by
    intro p mem
    obtain listed | ⟨cut, -⟩ | new := adv.partners p mem
    · exact listed
    · rw [LinkStep.isRoundOf_round] at cut
      cases cut
    · cases new
  change (n.next (.round t)).Busy t es at rest
  rw [first] at rest once ends partner ⊢
  obtain ⟨todo', progress⟩ := adv.removing.progress rest
  obtain ⟨n', last⟩ := Option.isSome_iff_exists.mp ends
  obtain rfl := progress.removing.todo_eq_nil last
  exact (progress.since all once p partner).resolve_left List.not_mem_nil

/-- Alone, the thread is done after two rounds at the most, and has taken out all partners. -/
lemma Removing.returns (h : Removing n t a todo removed) :
    ∃ es, (∀ e ∈ es, e.isOf t = true) ∧ n.Busy t es ∧ rounds t (n.trail (es ++ [.round t])) ≤ 2 ∧
      ((n.runFrom es).step (.round t)).isSome = true ∧
      (n.runFrom es).answer? (.round t) = some (.cleared (removed + (n.partners a).length)) := by
  obtain ⟨es, own, few, busy, bare, removed', left⟩ := h.alone
  obtain ⟨todo', progress⟩ := h.progress busy
  cases left.symm.trans progress.removing.found
  have undisturbed : n.Undisturbed t a es := fun x taken =>
    .inl (own x.2 ((trail_sublist n es).subset (List.mem_map_of_mem taken)))
  have level := (progress.level undisturbed).1
  rw [bare] at level
  refine ⟨es, own, busy, ?_, progress.removing.isSome_step, ?_⟩
  · apply (rounds_trail_le n _).trans
    rw [List.countP_append]
    exact Nat.add_le_add few (List.countP_le_length)
  · rw [progress.removing.answer?_round, if_pos bare, ← level]
    rfl

/-- A thread sets out to remove every link of a live gate, and whatever link operations of any threads
take steps from then on, in any order: the thread can go on, leaves the links between other gates, takes
each link that it removes out of both lists, and leaves no partner at the end of a round but those that
were linked during it, so that it has gone one round more than links of the gate were made at the most.
When it is done, the gate has no partner and no gate lists it, the thread says how many links its own
steps took out, and it went two rounds more than links were made at the most. If nobody else changed the
partners meanwhile it says how many there were, after two rounds at the most. Left alone, at any time, it
is done after two rounds at the most. -/
theorem run_clear_amid {before : List LinkStep}
    (out : (run before).step (.clear t a) = some n) (busy : n.Busy t es) : Clears n t a es := by
  have start := removing_of_clear out
  obtain ⟨todo, progress⟩ := start.progress busy
  have removing := progress.removing
  refine
    { going := ?_, apart := ?_, both := ?_, round := ?_, rounds_le := ?_, done := ?_, returns := ?_ }
  · have next := removing.isSome_step
    split at next
    · exact .inl next
    · exact .inr next
  · exact fun e n' own made g other => removing.entries_filter own made other
  · exact fun e n' own made p lost => removing.lost_both own made lost
  · rintro es₁ es₂ rfl looks n₁ once ends p linked
    obtain ⟨before, since⟩ := busy_append.mp busy
    obtain ⟨todo₁, progress₁⟩ := start.progress before
    have first : n₁ = (n.runFrom es₁).next (.round t) := runFrom_append _ _ _
    have last : n.runFrom (es₁ ++ .round t :: es₂) = ((n.runFrom es₁).next (.round t)).runFrom es₂ :=
      runFrom_append _ _ _
    have partner : p ∈ (n.runFrom (es₁ ++ .round t :: es₂)).partners a :=
      linked.elim id (mem_partners_of_listed removing.sound removing.live.1)
    rw [last] at ends partner
    rw [first] at once ⊢
    exact progress₁.removing.linked_since looks since once ends partner
  · rw [Nat.add_comm]
    exact progress.pace.elim Nat.le_succ_of_le And.left
  · exact fun n' count made answer => progress.cleared made answer
  · obtain ⟨es', own, busy', few, looks, answer⟩ := removing.returns
    rw [Nat.zero_add] at answer
    refine ⟨es', own, busy_append.mpr ⟨busy, busy'⟩, few, ?_, ?_⟩
    · rw [runFrom_append]
      exact looks
    · rw [runFrom_append]
      exact answer

/-- While a thread removes the links of gate 0, one of the two is removed and made again by others, and
another gate departs. The thread goes three rounds, and says that it removed two links. -/
theorem run_clear_amid_relinked :
    let before : List LinkStep :=
      [.create { name := "a", capacity := 1 }, .create { name := "b", capacity := 1 },
        .create { name := "c", capacity := 1 }, .create { name := "d", capacity := 1 }, .link 0 1,
        .link 0 2, .link 3 1]
    let n := run (before ++ [.clear 7 0])
    let es : List LinkStep :=
      [.round 7, .unlink 1 0, .cut 7, .cut 7, .link 1 0, .depart 3, .round 7, .cut 7]
    (run before).step (.clear 7 0) = some n ∧ n.Busy 7 es ∧ Clears n 7 0 es ∧
      Cleared n 7 0 es 2 (n.runFrom (es ++ [.round 7])) ∧ takenOut 7 0 (n.trail es) = 2 ∧
      linksMade 0 (n.trail es) = 1 ∧ rounds 7 (n.trail (es ++ [.round 7])) = 3 := by
  intro before n es
  have out : (run before).step (.clear 7 0) = some n := rfl
  have busy : n.Busy 7 es := by decide
  have clears : Clears n 7 0 es := run_clear_amid out busy
  have looks : ((n.runFrom es).step (.round 7)).isSome = true := by decide
  have answer : (n.runFrom es).answer? (.round 7) = some (.cleared 2) := by decide
  obtain ⟨n', made⟩ := Option.isSome_iff_exists.mp looks
  have cleared : Cleared n 7 0 es 2 (n.runFrom (es ++ [.round 7])) := by
    rw [runFrom_concat es made]
    exact clears.done n' 2 made answer
  exact ⟨out, busy, clears, cleared, by decide, by decide, by decide⟩

end Traffic

end EventGates
