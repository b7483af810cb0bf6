import EventGates.Proofs.Table.Keys
import EventGates.Remote.Gate
import Mathlib.Data.List.Induction
import Mathlib.Tactic.IntervalCases

/-!
# Withdrawing endpoints

Remote gates are built at a node and terminated, each any number of times. An endpoint is known by
its path alone: a termination stops whatever is served at the path of its gate, and answers whether
there was anything. So the first termination of a gate withdraws the endpoint of that gate, and the
later ones nothing, exactly as long as no gate that was terminated is terminated again while its
path serves somebody else (`run_withdraws_iff`).
-/

namespace EventGates

/-! ## Tables of endpoints -/

namespace Endpoints

variable {t t' : Endpoints} {path : String} {h h' : Handler}

/-- A path that is served is taken. -/
lemma register_of_taken (taken : t.lookup path = some h') (h : Handler) :
    t.register path h = .error ⟨Text.plain path⟩ := by
  rw [register, taken, Option.isSome_some, if_pos rfl]

lemma register_of_free (free : t.lookup path = none) (h : Handler) :
    t.register path h = .ok ⟨t.handlers.insert (Text.plain path) h⟩ := by
  rw [register, free, Option.isSome_none, if_neg Bool.false_ne_true]

/-- A path is served by a new handler only if it was free. -/
lemma lookup_register (made : t.register path h = .ok t') :
    t.lookup path = none ∧
      ∀ p, t'.lookup p = if Text.plain p = Text.plain path then some h else t.lookup p := by
  simp only [register] at made
  split at made
  · cases made
  · next free =>
    cases made
    rw [Bool.not_eq_true, Option.isSome_eq_false_iff, Option.isNone_iff_eq_none] at free
    exact ⟨free, fun p => Table.find?_insert ..⟩

/-- Whatever served a path does so no longer. -/
lemma lookup_unregister (t : Endpoints) (path p : String) :
    (t.unregister path).1.lookup p =
      if Text.plain p = Text.plain path then none else t.lookup p :=
  Table.find?_erase ..

/-- Where nothing is served there is nothing to withdraw. -/
lemma unregister_of_lookup_eq_none (free : t.lookup path = none) :
    t.unregister path = (t, false) := by
  have same : t.handlers.erase (Text.plain path) = t.handlers :=
    Table.erase_of_find?_eq_none free
  rw [unregister, same, free]
  rfl

end Endpoints

namespace System

variable {κ : Type}

/-- A registration is one in the table that it names. -/
lemma endpoints_register {s s' : System κ} {t : TableId} {path : String} {h : Handler}
    (made : s.register t path h = .ok s') :
    (s.endpoints t).register path h = .ok (s'.endpoints t) := by
  simp only [register] at made
  cases added : (s.endpoints t).register path h with
  | error cause =>
    rw [added] at made
    cases made
  | ok table =>
    rw [added] at made
    cases made
    simp [endpoints]

/-- A registration changes one table. -/
lemma register_eq_ok {s s' : System κ} {t : TableId} {path : String} {h : Handler}
    (made : s.register t path h = .ok s') :
    ∃ table, s' = { s with tables := s.tables.insert t table } := by
  simp only [register] at made
  cases added : (s.endpoints t).register path h with
  | error cause =>
    rw [added] at made
    cases made
  | ok table =>
    rw [added] at made
    cases made
    exact ⟨table, rfl⟩

/-- A registration leaves other tables alone. -/
lemma endpoints_of_register {s s' : System κ} {t t' : TableId} {path : String} {h : Handler}
    (made : s.register t path h = .ok s') (other : t' ≠ t) : s'.endpoints t' = s.endpoints t' := by
  obtain ⟨table, rfl⟩ := register_eq_ok made
  rw [endpoints, endpoints, Table.find?_insert, if_neg other]

/-- A withdrawal is one from the table that it names. -/
lemma endpoints_unregister (s : System κ) (t t' : TableId) (path : String) :
    (s.unregister t path).1.endpoints t' =
      if t' = t then ((s.endpoints t).unregister path).1 else s.endpoints t' := by
  simp only [unregister, endpoints, Table.find?_insert]
  split
  · rfl
  · rfl

end System

/-- A remote gate is built with an endpoint of its own in the table that is named. -/
lemma RemoteGate.endpoints_build {κ : Type} {s s' : System κ} {gate : Gate} {http : HttpConfig}
    {facts : Facts} {catalogue : Wire.Catalogue} {t : TableId} {r : RemoteGate}
    (built : RemoteGate.build s gate http facts catalogue t = .ok (s', r)) :
    r.table = t ∧
      (s.endpoints t).register r.path
        (.inbound { gate := r.gate, catalogue, maxBodyBytes := http.maxBodyBytes }) =
          .ok (s'.endpoints t) := by
  simp only [build, bind, Except.bind] at built
  split at built
  · cases built
  · split at built
    · cases built
    · next made =>
      cases built
      have added := System.endpoints_register made
      exact ⟨rfl, added⟩

/-! ## Remote gates of a node -/

/-- A remote gate with the handler that is registered for it. -/
structure Tenant where
  remote : RemoteGate
  handler : Handler

/-- What is done about the endpoints of a node. -/
inductive NodeMove where
  | build (gate : Gate) (http : HttpConfig) (facts : Facts) (catalogue : Wire.Catalogue)
  /-- The remote gate that was built as number `i` is terminated, through whichever handle. -/
  | terminate (i : Nat)
  /-- Somebody serves a path that is no gate's. -/
  | serve (path : String) (h : Handler)

/-- A node, and what became of the remote gates that were built at it. -/
structure Node (κ : Type) where
  system : System κ
  table : TableId
  tenants : List Tenant := []
  /-- The numbers of those that were terminated. -/
  terminated : List Nat := []

namespace Node

variable {κ : Type} {n n' : Node κ} {i : Nat} {r : Tenant}

/-- What serves a path. -/
def served (n : Node κ) (path : String) : Option Handler :=
  (n.system.endpoints n.table).lookup path

/-- What a move leads to, and the answer to a termination. What fails changes nothing. -/
def move (n : Node κ) : NodeMove → Node κ × Option Bool
  | .build gate http facts catalogue =>
    match RemoteGate.build n.system gate http facts catalogue n.table with
    | .error _ => (n, none)
    | .ok (system, remote) =>
      let handler :=
        .inbound { gate := remote.gate, catalogue, maxBodyBytes := http.maxBodyBytes }
      ({ n with system, tenants := n.tenants ++ [⟨remote, handler⟩] }, none)
  | .terminate i =>
    match n.tenants[i]? with
    | none => (n, none)
    | some r =>
      let (system, removed) := r.remote.terminate n.system
      ({ n with system, terminated := i :: n.terminated }, some removed)
  | .serve path h =>
    match n.system.register n.table path h with
    | .error _ => (n, none)
    | .ok system => ({ n with system }, none)

def run (n : Node κ) (ms : List NodeMove) : Node κ := ms.foldl (fun n m => (n.move m).1) n

/-- Each gate that was not terminated is served by its own handler. -/
def Serves (n : Node κ) : Prop :=
  ∀ i r, n.tenants[i]? = some r → i ∉ n.terminated → n.served r.remote.path = some r.handler

/-- A termination withdraws the endpoint of its gate if it is the first, and nothing otherwise. -/
def Withdraws (n : Node κ) (i : Nat) : Prop :=
  ∀ r, n.tenants[i]? = some r →
    (i ∉ n.terminated →
      n.served r.remote.path = some r.handler ∧
      (n.move (.terminate i)).2 = some true ∧
      ∀ path, (n.move (.terminate i)).1.served path =
        if Text.plain path = Text.plain r.remote.path then none else n.served path) ∧
    (i ∈ n.terminated →
      (n.move (.terminate i)).2 = some false ∧
      (n.move (.terminate i)).1.system.endpoints n.table = n.system.endpoints n.table)

/-! ## What a move does -/

/-- The remote gates have their endpoints in the table of the node, and only they were
terminated. -/
structure Sound (n : Node κ) : Prop where
  table : ∀ r ∈ n.tenants, r.remote.table = n.table
  known : ∀ i ∈ n.terminated, i < n.tenants.length

/-- What there is after a gate was built: the gates that there were, and the new one. -/
lemma getElem?_tenants {rs : List Tenant} {new : Tenant} (there : (rs ++ [new])[i]? = some r) :
    rs[i]? = some r ∨ i = rs.length ∧ r = new := by
  obtain inside | outside := Nat.lt_or_ge i rs.length
  · rw [List.getElem?_append_left inside] at there
    exact .inl there
  · rw [List.getElem?_append_right outside, List.getElem?_singleton] at there
    split at there
    · next last =>
      cases there
      exact .inr ⟨by omega, rfl⟩
    · cases there

/-- A move builds a gate at a free path, terminates a gate, serves a free path or has no effect. -/
lemma move_cases (n : Node κ) (m : NodeMove) :
    n.move m = (n, none) ∨
    (∃ system new, (n.move m).1 = { n with system, tenants := n.tenants ++ [new] } ∧
      new.remote.table = n.table ∧
      (n.system.endpoints n.table).register new.remote.path new.handler =
        .ok (system.endpoints n.table)) ∨
    (∃ i r, m = .terminate i ∧ n.tenants[i]? = some r ∧
      n.move m =
        ({ n with
            system := (r.remote.terminate n.system).1
            terminated := i :: n.terminated },
          some (r.remote.terminate n.system).2)) ∨
    ∃ system path h, (n.move m).1 = { n with system } ∧
      (n.system.endpoints n.table).register path h = .ok (system.endpoints n.table) := by
  cases m with
  | build gate http facts catalogue =>
    simp only [move]
    cases built : RemoteGate.build n.system gate http facts catalogue n.table with
    | error cause => exact .inl rfl
    | ok made =>
      obtain ⟨system, remote⟩ := made
      obtain ⟨table, added⟩ := RemoteGate.endpoints_build built
      exact .inr (.inl ⟨system, _, rfl, table, added⟩)
  | terminate i =>
    simp only [move]
    cases there : n.tenants[i]? with
    | none => exact .inl rfl
    | some r => exact .inr (.inr (.inl ⟨i, r, rfl, there, rfl⟩))
  | serve path h =>
    simp only [move]
    cases made : n.system.register n.table path h with
    | error cause => exact .inl rfl
    | ok system =>
      exact .inr (.inr (.inr ⟨system, path, h, rfl, System.endpoints_register made⟩))

/-- Every move keeps a node sound. -/
lemma Sound.move (h : n.Sound) (m : NodeMove) : (n.move m).1.Sound := by
  obtain same | ⟨system, new, moved, table, -⟩ | ⟨i, r, -, there, moved⟩ |
    ⟨system, _, _, moved, -⟩ := n.move_cases m
  · rw [same]
    exact h
  · rw [moved]
    refine ⟨fun r mem => ?_, fun i mem => ?_⟩
    · obtain old | last := List.mem_append.mp mem
      · exact h.table r old
      · rw [List.mem_singleton.mp last]
        exact table
    · rw [List.length_append]
      exact Nat.lt_add_right _ (h.known i mem)
  · rw [moved]
    refine ⟨h.table, fun j mem => ?_⟩
    obtain rfl | earlier := List.mem_cons.mp mem
    · exact (List.getElem?_eq_some_iff.mp there).1
    · exact h.known j earlier
  · rw [moved]
    exact ⟨h.table, h.known⟩

/-- A termination answers whether the path of its gate is served, and stops whatever serves it. -/
lemma Sound.terminate (h : n.Sound) (there : n.tenants[i]? = some r) :
    (n.move (.terminate i)).2 = some (n.served r.remote.path).isSome ∧
      (n.move (.terminate i)).1.system.endpoints n.table =
        ((n.system.endpoints n.table).unregister r.remote.path).1 := by
  have table := h.table r (List.mem_of_getElem? there)
  simp only [Node.move, there, RemoteGate.terminate, table]
  refine ⟨rfl, ?_⟩
  rw [System.endpoints_unregister, if_pos rfl]

/-- What is served after a termination. -/
lemma Sound.served_terminate (h : n.Sound) (there : n.tenants[i]? = some r) (path : String) :
    (n.move (.terminate i)).1.served path =
      if Text.plain path = Text.plain r.remote.path then none else n.served path := by
  have table : (n.move (.terminate i)).1.table = n.table := by
    simp only [Node.move, there]
  rw [served, table, (h.terminate there).2, Endpoints.lookup_unregister]
  rfl

/-! ## Gates with paths of their own -/

/-- Gates that were not terminated are served by their own handlers, each at a path of its own. -/
structure Settled (n : Node κ) : Prop where
  serves : n.Serves
  apart : ∀ i j r r', n.tenants[i]? = some r → n.tenants[j]? = some r' →
    i ∉ n.terminated → j ∉ n.terminated →
    Text.plain r.remote.path = Text.plain r'.remote.path → i = j

/-- Nobody else is served at the path of a gate that was terminated. -/
def Vacant (n : Node κ) (i : Nat) : Prop :=
  ∀ r, n.tenants[i]? = some r → i ∈ n.terminated → n.served r.remote.path = none

/-- A new handler at a free path leaves the gates where they are. -/
lemma served_of_register {e e' : Endpoints} {path p : String} {h h' : Handler}
    (made : e.register path h = .ok e') (own : e.lookup p = some h') :
    Text.plain p ≠ Text.plain path ∧ e'.lookup p = some h' := by
  obtain ⟨free, after⟩ := Endpoints.lookup_register made
  have other : Text.plain p ≠ Text.plain path := by
    intro same
    have taken : e.lookup path = some h' := by
      rw [← own, Endpoints.lookup, Endpoints.lookup, same]
    rw [free] at taken
    cases taken
  exact ⟨other, by rw [after, if_neg other, own]⟩

/-- A gate that is built at a free path has a path of its own. -/
lemma Settled.build (h : n.Settled) {system : System κ} {new : Tenant}
    (made : (n.system.endpoints n.table).register new.remote.path new.handler =
      .ok (system.endpoints n.table)) :
    Settled { n with system, tenants := n.tenants ++ [new] } := by
  refine ⟨fun i r there live => ?_, fun i j r r' there there' live live' same => ?_⟩
  · obtain old | ⟨rfl, rfl⟩ := getElem?_tenants there
    · exact (served_of_register made (h.serves i r old live)).2
    · exact ((Endpoints.lookup_register made).2 _).trans (if_pos rfl)
  · obtain old | ⟨rfl, rfl⟩ := getElem?_tenants there
    · obtain old' | ⟨rfl, rfl⟩ := getElem?_tenants there'
      · exact h.apart i j r r' old old' live live' same
      · exact absurd same (served_of_register made (h.serves i r old live)).1
    · obtain old' | ⟨rfl, rfl⟩ := getElem?_tenants there'
      · exact absurd same.symm (served_of_register made (h.serves j r' old' live')).1
      · rfl

/-- What a termination withdraws is the endpoint of none of the other gates. -/
lemma Settled.other (h : n.Settled) (vacant : n.Vacant i) {j : Nat} {r' : Tenant}
    (there : n.tenants[i]? = some r) (there' : n.tenants[j]? = some r') (other : j ≠ i)
    (live : j ∉ n.terminated) : Text.plain r'.remote.path ≠ Text.plain r.remote.path := by
  intro same
  by_cases gone : i ∈ n.terminated
  · have served := h.serves j r' there' live
    have free := vacant r there gone
    rw [Node.served, Endpoints.lookup, same] at served
    rw [Node.served, Endpoints.lookup, served] at free
    cases free
  · exact other (h.apart j i r' r there' there live gone same)

/-- A termination that strikes nobody else leaves the other gates where they are. -/
lemma Settled.terminate (h : n.Settled) (sound : n.Sound) (vacant : n.Vacant i)
    (there : n.tenants[i]? = some r) : (n.move (.terminate i)).1.Settled := by
  have served := sound.served_terminate there
  simp only [Node.move, there] at served ⊢
  refine ⟨fun j r' there' live => ?_, fun j k r' r'' there' there'' live live' => ?_⟩
  · rw [List.mem_cons, not_or] at live
    rw [served, if_neg (h.other vacant there there' live.1 live.2)]
    exact h.serves j r' there' live.2
  · rw [List.mem_cons, not_or] at live live'
    exact h.apart j k r' r'' there' there'' live.2 live'.2

/-- A move keeps the gates settled unless it terminates a gate whose path went to another. -/
lemma Settled.move (h : n.Settled) (sound : n.Sound) {m : NodeMove}
    (vacant : ∀ i, m = .terminate i → n.Vacant i) : (n.move m).1.Settled := by
  obtain same | ⟨system, new, moved, -, made⟩ | ⟨i, r, rfl, there, -⟩ |
    ⟨system, _, _, moved, made⟩ := n.move_cases m
  · rw [same]
    exact h
  · rw [moved]
    exact h.build made
  · exact h.terminate sound (vacant i rfl) there
  · rw [moved]
    exact ⟨fun i r there live => (served_of_register made (h.serves i r there live)).2, h.apart⟩

/-- A termination does what it should at the path of a gate that nobody took over. -/
lemma Settled.withdraws (h : n.Settled) (sound : n.Sound) (vacant : n.Vacant i) :
    n.Withdraws i := by
  intro r there
  obtain ⟨answer, left⟩ := sound.terminate there
  refine ⟨fun live => ?_, fun gone => ?_⟩
  · have own := h.serves i r there live
    rw [own] at answer
    exact ⟨own, answer, sound.served_terminate there⟩
  · have free := vacant r there gone
    rw [free] at answer
    rw [Endpoints.unregister_of_lookup_eq_none free] at left
    exact ⟨answer, left⟩

/-- A termination does not do what it should where somebody took over. -/
lemma Sound.vacant (h : n.Sound) (withdraws : n.Withdraws i) : n.Vacant i := by
  intro r there gone
  have refused := ((withdraws r there).2 gone).1
  rw [(h.terminate there).1, Option.some.injEq, Option.isSome_eq_false_iff,
    Option.isNone_iff_eq_none] at refused
  exact refused

/-! ## Runs -/

lemma run_concat (n : Node κ) (ms : List NodeMove) (m : NodeMove) :
    n.run (ms ++ [m]) = ((n.run ms).move m).1 :=
  List.foldl_append

/-- A node at which no remote gate was built yet. -/
def opened (s : System κ) (t : TableId) : Node κ := { system := s, table := t }

/-- A node is sound after every run. -/
lemma sound_run (s : System κ) (t : TableId) (ms : List NodeMove) :
    ((opened s t).run ms).Sound := by
  induction ms using List.reverseRecOn with
  | nil => exact ⟨nofun, nofun⟩
  | append_singleton ms m ih =>
    rw [run_concat]
    exact ih.move m

/-- The gates of a node are settled as long as no termination strikes another gate. -/
lemma settled_run (s : System κ) (t : TableId) (ms : List NodeMove)
    (vacant : ∀ before i, before ++ [.terminate i] <+: ms → ((opened s t).run before).Vacant i) :
    ((opened s t).run ms).Settled := by
  induction ms using List.reverseRecOn with
  | nil => exact ⟨nofun, nofun⟩
  | append_singleton ms m ih =>
    rw [run_concat]
    refine (ih fun before i part => vacant before i (part.trans (List.prefix_append ..))).move
      (sound_run s t ms) fun i last => ?_
    exact vacant ms i (last ▸ List.prefix_rfl)

/-- Along a whole run, each gate is served by its own handler until its first termination, which
withdraws that endpoint alone, and later terminations withdraw nothing and say so, exactly if
whenever a gate is terminated again, nobody is served at its path. -/
theorem run_withdraws_iff (s : System κ) (t : TableId) (ms : List NodeMove) :
    ((∀ before, before <+: ms → ((opened s t).run before).Serves) ∧
      ∀ before i, before ++ [.terminate i] <+: ms → ((opened s t).run before).Withdraws i) ↔
    ∀ before i r, before ++ [.terminate i] <+: ms →
      ((opened s t).run before).tenants[i]? = some r →
      i ∈ ((opened s t).run before).terminated →
      ((opened s t).run before).served r.remote.path = none := by
  refine ⟨fun h before i r part there gone => ?_, fun h => ?_⟩
  · exact (sound_run s t before).vacant (h.2 before i part) r there gone
  · have settled : ∀ before, before <+: ms → ((opened s t).run before).Settled :=
      fun before part => settled_run s t before fun earlier i part' r there gone =>
        h earlier i r (part'.trans part) there gone
    refine ⟨fun before part => (settled before part).serves, fun before i part => ?_⟩
    have reached := settled before ((List.prefix_append ..).trans part)
    exact reached.withdraws (sound_run s t before) fun r there gone => h before i r part there gone

/-- A remote gate is built under the name `n`. -/
def buildN : NodeMove :=
  .build { name := "n", capacity := 1 } { advertisedHost := some "host" } {} {}

/-- A path that is used again after its gate was terminated twice is its new gate's own. -/
theorem run_withdraws_reuse :
    let ms := [buildN, .terminate 0, .terminate 0, buildN, .terminate 1]
    let n := (opened ({} : System Unit) 0).run ms
    (∀ before i, before ++ [.terminate i] <+: ms →
      ((opened ({} : System Unit) 0).run before).Withdraws i) ∧
      n.tenants.length = 2 ∧ n.terminated = [1, 0, 0] := by
  intro ms n
  refine ⟨((run_withdraws_iff _ _ ms).mpr ?_).2, by decide +kernel, by decide +kernel⟩
  intro before i r part there gone
  have cut : before = ms.take before.length :=
    List.prefix_iff_eq_take.mp ((List.prefix_append ..).trans part)
  have next : ms[before.length]? = some (.terminate i) := by
    obtain ⟨rest, whole⟩ := part
    rw [← whole, List.append_assoc, List.getElem?_append_right (Nat.le_refl _), Nat.sub_self]
    rfl
  have short : before.length < 5 := (List.getElem?_eq_some_iff.mp next).1
  rw [cut] at there gone ⊢
  interval_cases before.length
  · cases next
  · cases next
    exact absurd gone (by decide +kernel)
  · cases next
    have free : (((opened ({} : System Unit) 0).run (ms.take 2)).tenants[0]?).all fun r =>
        (((opened ({} : System Unit) 0).run (ms.take 2)).served r.remote.path).isNone := by
      decide +kernel
    rw [there] at free
    exact Option.isNone_iff_eq_none.mp free
  · cases next
  · cases next
    exact absurd gone (by decide +kernel)

/-- A gate that is terminated again withdraws the endpoint of the gate that took its path over. -/
theorem not_withdraws_takeover :
    ¬∀ (s : System Unit) (t : TableId) (ms : List NodeMove) (before : List NodeMove) (i : Nat),
      before ++ [.terminate i] <+: ms → ((opened s t).run before).Withdraws i := by
  intro lawful
  let n : Node Unit := (opened {} 0).run [buildN, .terminate 0, buildN]
  have withdraws : n.Withdraws 0 := lawful {} 0 _ [buildN, .terminate 0, buildN] 0 List.prefix_rfl
  have again : 0 ∈ n.terminated := by decide +kernel
  have answer : (n.move (.terminate 0)).2 = some true := by decide +kernel
  have two : n.tenants.length = 2 := by decide +kernel
  have refused := ((withdraws _ (List.getElem?_eq_getElem (two ▸ Nat.two_pos))).2 again).1
  rw [answer] at refused
  cases refused

end Node

end EventGates
