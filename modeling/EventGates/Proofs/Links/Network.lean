import EventGates.Proofs.Links.Graph
import EventGates.Proofs.Links.Traffic
import EventGates.Proofs.Table.Keys

/-!
# What link operations are to do

A `Network` is a graph, and each link operation is to do one thing to it at one instant: two gates are
joined or not any longer, a gate joins the graph or leaves it with its edges. Only the removal of every
link of a gate takes more than one instant. At each it removes one edge, or none where somebody else
was faster, and in the end it gives how many edges it removed itself, which it may do whenever the gate
has no edge.

What the operations say accounts for all edges (`runFrom_balance`): there are as many as were made, less
those that were said to be removed, those that removals under way have removed, and those that went
with a gate.
-/

namespace EventGates

/-- What a link operation says. -/
inductive LinkAnswer where
  /-- Whether a link was made; an error for a gate and itself. -/
  | linked (outcome : Except GateId Bool)
  | unlinked (removed : Bool)
  /-- How many links the removal of every link removed. -/
  | cleared (removed : Nat)
deriving DecidableEq, Repr

namespace LinkAnswer

/-- How many links were made, by what an operation says. -/
def made : LinkAnswer → Nat
  | .linked (.ok made) => made.toNat
  | _ => 0

/-- How many links were removed, by what an operation says. -/
def removed : LinkAnswer → Nat
  | .unlinked removed => removed.toNat
  | .cleared removed => removed
  | _ => 0

end LinkAnswer

/-- What is done to a network at one instant. -/
inductive NetworkStep where
  | add (g : GateId)
  | link (a b : GateId)
  | unlink (a b : GateId)
  /-- A thread sets out to remove every link of a gate. -/
  | clear (t : ThreadId) (g : GateId)
  /-- It removes the link with another gate. -/
  | cut (t : ThreadId) (p : GateId)
  /-- It is done if the gate has no links. -/
  | look (t : ThreadId)
  | remove (g : GateId)
  | idle

/-- A graph, and the removals of every link of a gate that are under way. -/
structure Network where
  graph : Graph
  /-- The gate whose links a thread removes, and how many it removed. -/
  removing : Table ThreadId (GateId × Nat)
  /-- How many edges went with their gates. -/
  lost : Nat
  unique : removing.keys.Nodup

namespace Network

/-- Nothing is there, and nothing is under way. -/
def empty : Network := ⟨.empty, {}, 0, List.nodup_nil⟩

/-- A thread has removed some of the links of a gate. -/
def note (s : Network) (t : ThreadId) (g : GateId) (count : Nat) : Network where
  __ := s
  removing := s.removing.insert t (g, count)
  unique := Table.nodup_keys_insert s.unique t (g, count)

/-- A thread is done. -/
def strike (s : Network) (t : ThreadId) : Network where
  __ := s
  removing := s.removing.erase t
  unique := Table.nodup_keys_erase s.unique t

/-- What a step does, and what the operation says if that ends it. -/
def perform (s : Network) : NetworkStep → Network × Option LinkAnswer
  | .add g => ({ s with graph := s.graph.add g }, none)
  | .link a b =>
    if a = b then (s, some (.linked (.error a)))
    else
      let (graph, made) := s.graph.link a b
      ({ s with graph }, some (.linked (.ok made)))
  | .unlink a b =>
    let (graph, removed) := s.graph.unlink a b
    ({ s with graph }, some (.unlinked removed))
  | .clear t g => if s.removing.contains t then (s, none) else (s.note t g 0, none)
  | .cut t p =>
    match s.removing.find? t with
    | none => (s, none)
    | some (g, count) =>
      let (graph, removed) := s.graph.unlink g p
      (note { s with graph } t g (count + removed.toNat), none)
  | .look t =>
    match s.removing.find? t with
    | none => (s, none)
    | some (g, count) =>
      if s.graph.neighbours g = [] then (s.strike t, some (.cleared count)) else (s, none)
  | .remove g =>
    ({ s with
      graph := s.graph.remove g
      lost := s.lost + (s.graph.neighbours g).length }, none)
  | .idle => (s, none)

/-- Performs one step after the other; gives what the operations say, in order. -/
def runFrom (s : Network) : List NetworkStep → Network × List LinkAnswer
  | [] => (s, [])
  | m :: ms =>
    let (s, answer) := s.perform m
    let (s, answers) := s.runFrom ms
    (s, answer.toList ++ answers)

/-- What steps lead to from a network without gates. -/
def run (ms : List NetworkStep) : Network × List LinkAnswer := empty.runFrom ms

/-! ## Edges are accounted for -/

/-- How many edges were removed by those that have not said so yet. -/
def cut (s : Network) : Nat := (s.removing.values.map Prod.snd).sum

/-- How many edges there are, were lost, or were removed by those that have not said so yet. -/
def size (s : Network) : Nat := s.graph.edges.length + s.cut + s.lost

lemma cut_note (s : Network) (t : ThreadId) (g : GateId) (count : Nat) :
    (s.note t g count).cut + ((s.removing.find? t).map Prod.snd).getD 0 = s.cut + count :=
  Table.sum_values_insert s.removing t (g, count) Prod.snd

lemma cut_strike (s : Network) (t : ThreadId) :
    (s.strike t).cut + ((s.removing.find? t).map Prod.snd).getD 0 = s.cut :=
  Table.sum_values_erase s.unique t Prod.snd

/-- An edge that a step makes or removes is accounted for. -/
lemma perform_balance (s : Network) (m : NetworkStep) :
    (s.perform m).1.size + ((s.perform m).2.map LinkAnswer.removed).getD 0 =
      s.size + ((s.perform m).2.map LinkAnswer.made).getD 0 := by
  cases m with
  | add g => rfl
  | link a b =>
    simp only [perform]
    split
    · rfl
    · have edges := s.graph.length_link a b
      simp only [size, cut, Option.map_some, Option.getD_some, LinkAnswer.made, LinkAnswer.removed]
      omega
  | unlink a b =>
    have edges := s.graph.length_unlink a b
    simp only [perform, size, cut, Option.map_some, Option.getD_some, LinkAnswer.made,
      LinkAnswer.removed]
    omega
  | clear t g =>
    simp only [perform]
    split
    · rfl
    · next out =>
      have absent : s.removing.find? t = none := by simpa [Table.contains] using out
      have noted := s.cut_note t g 0
      simp only [absent, Option.map_none, Option.getD_none, Nat.add_zero] at noted
      simp only [size, noted]
      rfl
  | cut t p =>
    simp only [perform]
    split
    · rfl
    · next g count found =>
      have edges := s.graph.length_unlink g p
      have noted := cut_note { s with graph := (s.graph.unlink g p).1 } t g
        (count + (s.graph.unlink g p).2.toNat)
      simp only [found, Option.map_some, Option.getD_some] at noted
      simp only [size, Option.map_none, Option.getD_none]
      show (s.graph.unlink g p).1.edges.length + _ + s.lost + 0 = _
      have same : cut { s with graph := (s.graph.unlink g p).1 } = s.cut := rfl
      omega
  | look t =>
    simp only [perform]
    split
    · rfl
    · next g count found =>
      split
      · have struck := s.cut_strike t
        simp only [found, Option.map_some, Option.getD_some] at struck
        simp only [size, Option.map_some, Option.getD_some, LinkAnswer.made, LinkAnswer.removed]
        show s.graph.edges.length + _ + s.lost + count = _
        omega
      · rfl
  | remove g =>
    have edges := s.graph.length_remove g
    simp only [perform, size, cut, Option.map_none, Option.getD_none]
    omega
  | idle => rfl

/-- What operations say accounts for the edges that they made and removed. -/
theorem runFrom_balance (s : Network) (ms : List NetworkStep) :
    (s.runFrom ms).1.size + ((s.runFrom ms).2.map LinkAnswer.removed).sum =
      s.size + ((s.runFrom ms).2.map LinkAnswer.made).sum := by
  induction ms generalizing s with
  | nil => rfl
  | cons m ms ih =>
    have first := s.perform_balance m
    have rest := ih (s.perform m).1
    have sum : ∀ (f : LinkAnswer → Nat) (answer : Option LinkAnswer) (answers : List LinkAnswer),
        ((answer.toList ++ answers).map f).sum = (answer.map f).getD 0 + (answers.map f).sum := by
      intro f answer answers
      cases answer with
      | none => simp
      | some a => rfl
    simp only [runFrom, sum]
    omega

end Network

end EventGates
