import EventGates.Proofs.Fabric.Gates
import EventGates.Proofs.Gate.Queue
import Mathlib.Data.List.Perm.Basic
import Mathlib.Data.List.Flatten

/-!
# Producers that post side by side

A producer makes its calls one after the other. A call reads the links of its gate once and then
makes its attempts, each of which offers one event to one gate. A `Crowd` is any number of producers
at work on one fabric, and a schedule says whose turn is next; in a turn a producer reads the links
for its next call or makes its next attempt. Which attempts reach a gate, and in which order,
depends on the schedule; `run_admits` says what becomes of them at each gate, and that the counters
are left the same by all schedules in which every producer comes to the end of its calls.
-/

namespace EventGates

/-! ## A gate to which several events are offered -/

/-- A gate after several events were offered to it, the first of them first. -/
def Gate.offerEach (g : Gate) (es : List Event) : Gate := es.foldl (fun g e => (g.offer e).1) g

namespace Gate

variable (g : Gate)

/-- A gate that is not running counts each event as dropped and changes nothing else. -/
lemma offerEach_of_idle (idle : g.running = false) (es : List Event) :
    g.offerEach es =
      { g with
        counters := { g.counters with droppedIdle := g.counters.droppedIdle + es.length } } := by
  induction es generalizing g with
  | nil => rfl
  | cons e es ih =>
    obtain ⟨running, _⟩ | ⟨_, offered⟩ := g.offer_cases e
    · rw [idle] at running
      cases running
    · have dropped := ih g.dropIdle idle
      rw [offerEach, List.foldl_cons, offered]
      refine Eq.trans dropped ?_
      simp only [dropIdle, List.length_cons, Nat.add_assoc, Nat.add_comm 1]

/-- A running gate takes the first events until its queue is full and counts the others. -/
lemma offerEach_of_running (running : g.running = true) (es : List Event) :
    let kept := min (g.capacity - g.queue.length) es.length
    g.offerEach es =
      { g with
        queue := g.queue ++ es.take kept
        counters :=
          { g.counters with
            accepted := g.counters.accepted + kept
            droppedFull := g.counters.droppedFull + (es.length - kept) } } := by
  induction es generalizing g with
  | nil => simp [offerEach]
  | cons e es ih =>
    have next : g.offerEach (e :: es) = (g.push e).1.offerEach es := by
      obtain ⟨_, offered⟩ | ⟨idle, _⟩ := g.offer_cases e
      · rw [offerEach, List.foldl_cons, offered]
        rfl
      · rw [running] at idle
        cases idle
    have rest := ih (g.push e).1 ((g.running_push e).trans running)
    intro kept
    rw [next]
    refine Eq.trans rest ?_
    obtain ⟨free, pushed⟩ | ⟨full, pushed⟩ := g.push_cases e
    · have one : kept = min (g.capacity - (g.queue.length + 1)) es.length + 1 := by
        simp only [kept, List.length_cons]
        omega
      have longer : (g.queue ++ [e]).length = g.queue.length + 1 := List.length_append
      simp only [pushed, longer, one, List.take_succ_cons, List.append_assoc,
        List.singleton_append, List.length_cons, Nat.add_sub_add_right, Nat.add_assoc,
        Nat.add_comm 1]
    · have none : kept = 0 := by
        simp only [kept]
        omega
      have gone : g.capacity - g.queue.length = 0 := by omega
      simp only [pushed, none, gone, Nat.zero_min, List.take_zero, List.length_cons, Nat.sub_zero,
        Nat.add_zero, Nat.add_assoc, Nat.add_comm 1]

/-- The counters of a gate after several events were offered to it depend on their number only. -/
lemma counters_offerEach {es es' : List Event} (h : es.length = es'.length) :
    (g.offerEach es).counters = (g.offerEach es').counters := by
  cases running : g.running with
  | false => rw [g.offerEach_of_idle running, g.offerEach_of_idle running, h]
  | true => rw [g.offerEach_of_running running, g.offerEach_of_running running, h]

end Gate

/-! ## Calls -/

/-- An event on its way to the queue of a gate. -/
structure Attempt where
  gate : GateId
  event : Event

/-- A call with which a producer sends events. -/
inductive Posting where
  | post (source : GateId) (e : Event)
  | postBatch (source : GateId) (es : List Event)
  /-- Straight to the queue of the gate. -/
  | postLocal (g : GateId) (e : Event)

namespace Posting

/-- What a call attempts, one after the other, given the links that it finds. -/
def attempts (l : Links) : Posting → List Attempt
  | post source e => (l.partners source).map fun p => ⟨p, e⟩
  | postBatch source es => (l.partners source).flatMap fun p => es.map fun e => ⟨p, e⟩
  | postLocal g e => [⟨g, e⟩]

/-- A call that nothing else comes between. -/
def perform (f : Fabric) : Posting → Fabric
  | post source e => f.post source e
  | postBatch source es => f.postBatch source es
  | postLocal g e => f.offer g e

end Posting

namespace Fabric

def attempt (f : Fabric) (a : Attempt) : Fabric := f.offer a.gate a.event

/-- Attempts leave the links as they are. -/
@[simp] lemma links_attempt (f : Fabric) (a : Attempt) : (f.attempt a).links = f.links :=
  links_offer f a.gate a.event

/-- Each gate is offered the events of the attempts that are made at it. -/
lemma find?_foldl_attempt (f : Fabric) (as : List Attempt) (g : GateId) :
    (as.foldl attempt f).gates.find? g =
      (f.gates.find? g).map (·.offerEach ((as.filter (·.gate = g)).map (·.event))) := by
  induction as generalizing f with
  | nil => simp [Gate.offerEach]
  | cons a as ih =>
    rw [List.foldl_cons, ih, attempt, find?_offer]
    by_cases here : a.gate = g
    · subst here
      rw [if_pos rfl, Option.map_map, List.filter_cons_of_pos (by simp)]
      rfl
    · rw [if_neg (Ne.symm here), List.filter_cons_of_neg (by simp [here])]

end Fabric

/-- A call is its attempts, if nothing comes between them. -/
theorem Posting.perform_eq (f : Fabric) (p : Posting) :
    p.perform f = (p.attempts f.links).foldl Fabric.attempt f := by
  cases p with
  | post source e =>
    simp only [perform, attempts, Fabric.post, List.foldl_map]
    rfl
  | postBatch source es =>
    simp only [perform, attempts, Fabric.postBatch, List.foldl_flatMap, List.foldl_map]
    rfl
  | postLocal g e => rfl

/-! ## Producers -/

/-- What a producer has before it. -/
structure Producer where
  /-- The calls that it is still to make. -/
  calls : List Posting
  /-- What is left to attempt of the call that it is in. -/
  pending : List Attempt := []

namespace Producer

/-- A turn of a producer that finds the links `l`: it makes the next attempt, or else begins the
next call. -/
def turn (l : Links) : Producer → Producer × Option Attempt
  | ⟨calls, a :: pending⟩ => (⟨calls, pending⟩, some a)
  | ⟨c :: calls, []⟩ => (⟨calls, c.attempts l⟩, none)
  | ⟨[], []⟩ => (⟨[], []⟩, none)

/-- It has made every call. -/
def isDone (p : Producer) : Bool := p.calls.isEmpty && p.pending.isEmpty

/-- All that it is still to attempt, as long as the links stay as they are. -/
def outlook (l : Links) (p : Producer) : List Attempt := p.pending ++ p.calls.flatMap (·.attempts l)

/-- A turn takes the attempt that it makes from the front of what is to be attempted. -/
lemma outlook_turn (l : Links) (p : Producer) :
    p.outlook l = (p.turn l).2.toList ++ (p.turn l).1.outlook l := by
  obtain ⟨calls, pending⟩ := p
  cases pending with
  | cons a pending => rfl
  | nil =>
    cases calls with
    | nil => rfl
    | cons c calls => rfl

lemma outlook_of_isDone {p : Producer} (done : p.isDone = true) (l : Links) : p.outlook l = [] := by
  simp only [isDone, Bool.and_eq_true, List.isEmpty_iff] at done
  rw [outlook, done.1, done.2]
  rfl

end Producer

/-- Number of a producer. -/
abbrev Producer.Id := Nat

/-- An attempt that was made, and whose it was. -/
structure Arrival where
  producer : Producer.Id
  attempt : Attempt

/-- Producers at work on a fabric. -/
structure Crowd where
  fabric : Fabric
  producers : List Producer

/-- One entry of a list gives up a part of what it stands for. -/
private lemma perm_flatMap_set {α β : Type} {f : α → List β} {xs : List α} {i : Nat} {x y : α}
    {part : List β} (found : xs[i]? = some x) (parts : f x = part ++ f y) :
    (xs.flatMap f).Perm (part ++ (xs.set i y).flatMap f) := by
  induction xs generalizing i with
  | nil => cases found
  | cons z zs ih =>
    cases i with
    | zero =>
      cases found
      rw [List.set_cons_zero, List.flatMap_cons, List.flatMap_cons, parts, List.append_assoc]
    | succ i =>
      rw [List.set_cons_succ, List.flatMap_cons, List.flatMap_cons]
      exact ((ih found).append_left _).trans (List.perm_append_comm_assoc _ _ _)

namespace Crowd

/-- Whoever has the turn takes it; what there is no producer for has no effect. -/
def step (c : Crowd) (i : Producer.Id) : Crowd × Option Arrival :=
  match c.producers[i]? with
  | none => (c, none)
  | some p =>
    let (p, made) := p.turn c.fabric.links
    ({ fabric := made.toList.foldl Fabric.attempt c.fabric, producers := c.producers.set i p },
      made.map (⟨i, ·⟩))

def run (c : Crowd) : List Producer.Id → Crowd
  | [] => c
  | i :: is => (c.step i).1.run is

/-- The attempts that are made in a run, in their order. -/
def arrivals (c : Crowd) : List Producer.Id → List Arrival
  | [] => []
  | i :: is => (c.step i).2.toList ++ (c.step i).1.arrivals is

/-- Those that are made at a gate. -/
def arrivalsAt (c : Crowd) (g : GateId) (is : List Producer.Id) : List Arrival :=
  (c.arrivals is).filter (·.attempt.gate = g)

/-- Everything that all producers are still to attempt at a gate, producer by producer. -/
def outlookAt (c : Crowd) (g : GateId) : List Attempt :=
  c.producers.flatMap fun p => (p.outlook c.fabric.links).filter (·.gate = g)

/-- Every producer has made its calls. -/
def isDone (c : Crowd) : Bool := c.producers.all (·.isDone)

/-! ## One turn -/

@[simp] lemma links_step (c : Crowd) (i : Producer.Id) :
    (c.step i).1.fabric.links = c.fabric.links := by
  simp only [step]
  split
  · rfl
  · cases (Producer.turn _ _).2 with
    | none => rfl
    | some a => exact Fabric.links_attempt _ a

/-- A turn does to the fabric what is attempted in it. -/
lemma fabric_step (c : Crowd) (i : Producer.Id) :
    (c.step i).1.fabric = ((c.step i).2.toList.map (·.attempt)).foldl Fabric.attempt c.fabric := by
  simp only [step]
  split
  · rfl
  · cases (Producer.turn _ _).2 with
    | none => rfl
    | some a => rfl

/-- What a producer has before it comes off the front in its own turns, and stays in those of
others. -/
lemma outlook_step (c : Crowd) (i : Producer.Id) {j : Producer.Id} {p : Producer}
    (found : c.producers[j]? = some p) :
    ∃ p', (c.step i).1.producers[j]? = some p' ∧
      p.outlook c.fabric.links =
        ((c.step i).2.toList.filter (·.producer = j)).map (·.attempt) ++
          p'.outlook c.fabric.links := by
  simp only [step]
  split
  · exact ⟨p, found, rfl⟩
  · next q turned =>
    by_cases own : i = j
    · subst own
      obtain rfl := Option.some.inj (turned.symm.trans found)
      obtain ⟨inside, _⟩ := List.getElem?_eq_some_iff.mp found
      refine ⟨_, List.getElem?_set_self inside, ?_⟩
      rw [q.outlook_turn]
      cases (q.turn c.fabric.links).2 with
      | none => rfl
      | some a => simp
    · refine ⟨p, (List.getElem?_set_ne own).trans found, ?_⟩
      cases (q.turn c.fabric.links).2 with
      | none => rfl
      | some a => simp [own]

/-- All together have before them what they had, but for what is attempted. -/
lemma outlookAt_step (c : Crowd) (i : Producer.Id) (g : GateId) :
    (c.outlookAt g).Perm
      (((c.step i).2.toList.filter (·.attempt.gate = g)).map (·.attempt) ++
        (c.step i).1.outlookAt g) := by
  simp only [outlookAt, links_step]
  simp only [step]
  split
  · rfl
  · next p found =>
    refine perm_flatMap_set found ?_
    rw [p.outlook_turn, List.filter_append]
    cases (p.turn c.fabric.links).2 with
    | none => rfl
    | some a =>
      by_cases here : a.gate = g
      · simp [here]
      · simp [here]

/-! ## A run -/

@[simp] lemma links_run (c : Crowd) (is : List Producer.Id) :
    (c.run is).fabric.links = c.fabric.links := by
  induction is generalizing c with
  | nil => rfl
  | cons i is ih => rw [run, ih, links_step]

/-- A run does to the fabric what is attempted in it. -/
lemma fabric_run (c : Crowd) (is : List Producer.Id) :
    (c.run is).fabric = ((c.arrivals is).map (·.attempt)).foldl Fabric.attempt c.fabric := by
  induction is generalizing c with
  | nil => rfl
  | cons i is ih =>
    rw [run, ih, arrivals, List.map_append, List.foldl_append, ← fabric_step]

/-- A producer attempts what it has before it, from the front. -/
lemma outlook_run (c : Crowd) (is : List Producer.Id) {j : Producer.Id} {p : Producer}
    (found : c.producers[j]? = some p) :
    ∃ p', (c.run is).producers[j]? = some p' ∧
      p.outlook c.fabric.links =
        ((c.arrivals is).filter (·.producer = j)).map (·.attempt) ++ p'.outlook c.fabric.links := by
  induction is generalizing c p with
  | nil => exact ⟨p, found, rfl⟩
  | cons i is ih =>
    obtain ⟨q, found, now⟩ := c.outlook_step i found
    obtain ⟨p', left, later⟩ := ih (c.step i).1 found
    rw [links_step] at later
    refine ⟨p', left, ?_⟩
    rw [now, later, arrivals, List.filter_append, List.map_append, List.append_assoc]

/-- All together attempt at a gate what they have before them. -/
lemma outlookAt_run (c : Crowd) (is : List Producer.Id) (g : GateId) :
    (c.outlookAt g).Perm
      ((c.arrivalsAt g is).map (·.attempt) ++ (c.run is).outlookAt g) := by
  induction is generalizing c with
  | nil => rfl
  | cons i is ih =>
    refine (c.outlookAt_step i g).trans ?_
    rw [run, arrivalsAt, arrivals, List.filter_append, List.map_append, List.append_assoc]
    exact (ih (c.step i).1).append_left _

/-- Nothing is left to attempt once every producer has made its calls. -/
lemma outlookAt_of_isDone {c : Crowd} (done : c.isDone = true) (g : GateId) :
    c.outlookAt g = [] := by
  rw [outlookAt, List.flatMap_eq_nil_iff]
  intro p mem
  rw [Producer.outlook_of_isDone (List.all_eq_true.mp done p mem)]
  rfl

/-- When every producer has made its calls, as many attempts were made at a gate as there were to
make. -/
lemma length_arrivalsAt {c : Crowd} {is : List Producer.Id} (done : (c.run is).isDone = true)
    (g : GateId) : (c.arrivalsAt g is).length = (c.outlookAt g).length := by
  have all := (c.outlookAt_run is g).length_eq
  rw [outlookAt_of_isDone done, List.append_nil, List.length_map] at all
  exact all.symm

/-- What a producer attempted at a gate is the first part of what it had to attempt there, and all
of it when it has made its calls. -/
lemma own_arrivalsAt (c : Crowd) (is : List Producer.Id) (g : GateId) {j : Producer.Id}
    {p : Producer} (found : c.producers[j]? = some p) :
    let own := ((c.arrivalsAt g is).filter (·.producer = j)).map (·.attempt)
    let due := (p.outlook c.fabric.links).filter (·.gate = g)
    own <+: due ∧ ((c.run is).isDone = true → own = due) := by
  obtain ⟨p', left, parts⟩ := c.outlook_run is found
  intro own due
  have here : due = own ++ (p'.outlook c.fabric.links).filter (·.gate = g) := by
    simp only [due, own, parts, List.filter_append, arrivalsAt, List.filter_map, List.filter_filter,
      Function.comp_def, Bool.and_comm]
  refine ⟨⟨_, here.symm⟩, fun done => ?_⟩
  have idle := List.all_eq_true.mp done p' (List.mem_of_getElem? left)
  rw [here, Producer.outlook_of_isDone idle, List.filter_nil, List.append_nil]

/-- A gate is offered, in a run, the events that arrive at it. -/
lemma find?_run (c : Crowd) (is : List Producer.Id) (g : GateId) :
    (c.run is).fabric.gates.find? g =
      (c.fabric.gates.find? g).map
        (·.offerEach ((c.arrivalsAt g is).map (·.attempt.event))) := by
  rw [fabric_run, Fabric.find?_foldl_attempt, arrivalsAt, List.filter_map, List.map_map]
  rfl

/-- However the turns are dealt out, a running gate takes what arrives first until its queue is
full, behind what was there, and counts the rest; a gate that is not running counts everything; the
events of each producer stay in its order; and once all calls are made, everything that there was to
attempt has arrived and the counters are those that any other such schedule leaves. -/
theorem run_admits (c : Crowd) (is : List Producer.Id) {g : GateId} {gate : Gate}
    (found : c.fabric.gates.find? g = some gate) :
    let came := c.arrivalsAt g is
    let kept := min (gate.capacity - gate.queue.length) came.length
    ∃ gate', (c.run is).fabric.gates.find? g = some gate' ∧
      (gate.running = true →
        gate' =
          { gate with
            queue := gate.queue ++ (came.take kept).map (·.attempt.event)
            counters :=
              { gate.counters with
                accepted := gate.counters.accepted + kept
                droppedFull := gate.counters.droppedFull + (came.length - kept) } }) ∧
      (gate.running = false →
        gate' =
          { gate with
            counters :=
              { gate.counters with
                droppedIdle := gate.counters.droppedIdle + came.length } }) ∧
      (∀ i p, c.producers[i]? = some p →
        ((came.take kept).filter (·.producer = i)).map (·.attempt) <+:
          (p.outlook c.fabric.links).filter (·.gate = g)) ∧
      ((c.run is).isDone = true →
        came.length = (c.outlookAt g).length ∧
        (∀ i p, c.producers[i]? = some p →
          (came.filter (·.producer = i)).map (·.attempt) =
            (p.outlook c.fabric.links).filter (·.gate = g)) ∧
        ∀ js, (c.run js).isDone = true →
          ((c.run js).fabric.gates.find? g).map (·.counters) = some gate'.counters) := by
  intro came kept
  have after := c.find?_run is g
  rw [found, Option.map_some] at after
  refine ⟨_, after, fun running => ?_, fun idle => ?_, fun i p own => ?_, fun done => ?_⟩
  · rw [gate.offerEach_of_running running, List.length_map, List.map_take]
  · rw [gate.offerEach_of_idle idle, List.length_map]
  · have first := ((came.take_prefix kept).filter (·.producer = i)).map (·.attempt)
    exact first.trans (c.own_arrivalsAt is g own).1
  · refine ⟨length_arrivalsAt done g, fun i p own => (c.own_arrivalsAt is g own).2 done, ?_⟩
    intro js done'
    rw [c.find?_run js g, found, Option.map_some, Option.map_some]
    refine congrArg some (gate.counters_offerEach ?_)
    rw [List.length_map, List.length_map, length_arrivalsAt done', length_arrivalsAt done]

/-- Two producers take turns. The front gate has two free slots and takes the first two events that
arrive, one from each producer; the other gate takes none. Had the producers made their calls one
after the other, the front gate would hold other events, under the same counters. -/
theorem run_admits_by_turns :
    let event (seq : Nat) : Event := { seq, payload := .addItem { sourceItemUid := "lamp" } }
    let front : Gate :=
      { name := "front", capacity := 3, running := true, handedOut := true, queue := [event 0] }
    let c : Crowd :=
      { fabric :=
          { gates := ⟨[(0, { name := "hub", capacity := 1 }), (1, front),
              (2, { name := "side", capacity := 1 })]⟩
            links := ⟨⟨[(0, [1, 2]), (1, [0]), (2, [0])]⟩⟩ }
        producers :=
          [{ calls := [.post 0 (event 1), .postLocal 1 (event 2)] },
            { calls := [.postBatch 0 [event 3, event 4]] }] }
    let turns := [0, 1, 1, 0, 1, 0, 0, 0, 1, 1]
    let inTurn := [0, 0, 0, 0, 0, 1, 1, 1, 1, 1]
    (∃ gate, (c.run turns).fabric.gates.find? 1 = some gate ∧
      gate.queue.map (·.seq) = [0, 3, 1] ∧ gate.counters = ⟨2, 2, 0, 0, 0⟩ ∧
      ((c.run inTurn).fabric.gates.find? 1).map (·.counters) = some ⟨2, 2, 0, 0, 0⟩) ∧
    ∃ gate, (c.run turns).fabric.gates.find? 2 = some gate ∧
      gate.queue = [] ∧ gate.counters = ⟨0, 0, 3, 0, 0⟩ := by
  intro event front c turns inTurn
  have done : (c.run turns).isDone = true := by decide
  have done' : (c.run inTurn).isDone = true := by decide
  refine ⟨?_, ?_⟩
  · have found : c.fabric.gates.find? 1 = some front := rfl
    obtain ⟨gate, there, taken, _, _, all⟩ := c.run_admits turns found
    obtain rfl := taken rfl
    have same := (all done).2.2 inTurn done'
    refine ⟨_, there, by decide +kernel, by decide +kernel, same.trans ?_⟩
    exact congrArg some (by decide +kernel)
  · have found : c.fabric.gates.find? 2 = some { name := "side", capacity := 1 } := rfl
    obtain ⟨gate, there, _, dropped, _⟩ := c.run_admits turns found
    obtain rfl := dropped rfl
    exact ⟨_, there, rfl, by decide +kernel⟩

end Crowd

end EventGates
