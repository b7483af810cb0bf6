import EventGates.Proofs.Fabric.Producers
import EventGates.Proofs.Fabric.Records
import EventGates.Proofs.Links.Refinement

/-!
# Posting to the partners of a gate

A call that posts at a gate is a list of attempts. What an attempt comes to is a matter of the gate
at which it is made, of whether that gate runs and has a free slot (`Gate.outcome`), and what a list
of attempts does to a gate and makes it report is a matter of those of them that are made there
(`find?_foldl_attempt`, `filter_notices`).

Link operations in any order leave a gate with partners that are live, no two of them the same and
none of them the gate itself. So a post reaches each partner once (`post_reaches_partners`), and it
makes no difference whether several events are posted one after the other or as a batch
(`postBatch_coincides`).
-/

namespace EventGates

/-! ## What an offer comes to -/

/-- What becomes of an event where a dispatcher is running or not and some slots are free. -/
def Admission.given : Bool → Nat → Admission
  | false, _ => .idle
  | true, 0 => .overflow
  | true, _ + 1 => .accepted

namespace Gate

/-- How many slots of the queue are free. -/
def freeSlots (gate : Gate) : Nat := gate.capacity - gate.queue.length

/-- What would become of an event that was offered to a gate. -/
def outcome (gate : Gate) : Admission := .given gate.running gate.freeSlots

/-- A gate after something became of an event that was offered to it. -/
def afterOffer (gate : Gate) (e : Event) : Admission → Gate
  | .accepted =>
    { gate with
      queue := gate.queue ++ [e]
      counters := { gate.counters with accepted := gate.counters.accepted + 1 } }
  | .overflow =>
    { gate with counters := { gate.counters with droppedFull := gate.counters.droppedFull + 1 } }
  | .idle =>
    { gate with counters := { gate.counters with droppedIdle := gate.counters.droppedIdle + 1 } }

/-- What a gate reports about events that are offered to it one after the other. -/
def notices : Gate → List Event → List Notice
  | _, [] => []
  | gate, e :: es => ((gate.offer e).2.notice? gate e).toList ++ (gate.offer e).1.notices es

variable (gate : Gate) (e : Event)

/-- What becomes of an event does not depend on the event. -/
lemma offer_eq : gate.offer e = (gate.afterOffer e gate.outcome, gate.outcome) := by
  obtain ⟨running, offered⟩ | ⟨idle, offered⟩ := gate.offer_cases e
  · obtain ⟨free, pushed⟩ | ⟨full, pushed⟩ := gate.push_cases e
    · obtain ⟨n, slots⟩ := Nat.exists_eq_succ_of_ne_zero (Nat.sub_ne_zero_of_lt free)
      have accepted : gate.outcome = .accepted := by
        rw [outcome, running, freeSlots, slots]
        rfl
      rw [offered, pushed, accepted]
      rfl
    · have overflow : gate.outcome = .overflow := by
        rw [outcome, running, freeSlots, Nat.sub_eq_zero_of_le full]
        rfl
      rw [offered, pushed, overflow]
      rfl
  · have refused : gate.outcome = .idle := by
      rw [outcome, idle]
      rfl
    rw [offered, refused]
    rfl

end Gate

namespace Fabric

variable {f f' f'' : Fabric}

/-! ## What attempts publish -/

/-- The records of notices on a bus, numbered one after the other. -/
def recorded (f : Fabric) (b : BusId) (ns : List Notice) : List Diagnostic :=
  (ns.zipIdx f.records).filterMap fun (n, seq) =>
    if n.bus = some b ∧ f.buses.contains b = true then some { n.finding with seq } else none

/-- One fabric tells what the other has told, and several notices besides, in their order. -/
structure TellsAll (f f' : Fabric) (ns : List Notice) : Prop where
  published : ∀ b, f'.published b = f.published b ++ f.recorded b ns
  records : f'.records = f.records + ns.length
  buses : f'.buses.map Bus.cleared = f.buses.map Bus.cleared

namespace TellsAll

lemma nil (f : Fabric) : f.TellsAll f [] where
  published _ := (List.append_nil _).symm
  records := rfl
  buses := rfl

/-- Several notices are told after one at most. -/
lemma cons {n : Option Notice} {ns : List Notice} (first : f.Tells f' n)
    (rest : f'.TellsAll f'' ns) : f.TellsAll f'' (n.toList ++ ns) where
  published b := by
    have later : f'.recorded b ns =
        (ns.zipIdx (f.records + n.toList.length)).filterMap fun (n, seq) =>
          if n.bus = some b ∧ f.buses.contains b = true then some { n.finding with seq }
          else none := by
      rw [recorded, first.records]
      simp only [first.contains]
    have here : f.added b n =
        (n.toList.zipIdx f.records).filterMap fun (n, seq) =>
          if n.bus = some b ∧ f.buses.contains b = true then some { n.finding with seq }
          else none := by
      cases n with
      | none => rfl
      | some n =>
        simp only [added, record, Option.toList_some, List.zipIdx_singleton, List.filterMap_cons,
          List.filterMap_nil]
        split <;> rfl
    rw [rest.published, first.published, List.append_assoc, later, here, recorded,
      List.zipIdx_append, List.filterMap_append]
  records := by
    rw [rest.records, first.records, List.length_append, Nat.add_assoc]
  buses := rest.buses.trans first.buses

end TellsAll

/-- What an attempt makes the gate report. -/
def notice? (f : Fabric) (a : Attempt) : Option Notice :=
  (f.gates.find? a.gate).bind fun gate => (gate.offer a.event).2.notice? gate a.event

/-- What attempts make gates report, one after the other, each with its gate. -/
def notices : Fabric → List Attempt → List (GateId × Notice)
  | _, [] => []
  | f, a :: as => ((f.notice? a).map (a.gate, ·)).toList ++ (f.attempt a).notices as

/-- An attempt publishes what it makes the gate report. -/
lemma tells_attempt (f : Fabric) (a : Attempt) : f.Tells (f.attempt a) (f.notice? a) := by
  cases there : f.gates.find? a.gate with
  | none =>
    rw [notice?, attempt, offer, there]
    exact .refl f
  | some gate =>
    rw [notice?, there]
    exact f.tells_offer a.gate there a.event

/-- Attempts publish what they make gates report, in this order. -/
lemma tellsAll_attempts (f : Fabric) (as : List Attempt) :
    f.TellsAll (as.foldl attempt f) ((f.notices as).map Prod.snd) := by
  induction as generalizing f with
  | nil => exact .nil f
  | cons a as ih =>
    have all := (ih (f.attempt a)).cons (f.tells_attempt a)
    have head : ((f.notice? a).map (a.gate, ·)).toList.map Prod.snd = (f.notice? a).toList := by
      cases f.notice? a <;> rfl
    rw [notices, List.map_append, head]
    exact all

/-- What a gate reports in a list of attempts is what it reports in those that are made at it. -/
lemma filter_notices (f : Fabric) (as : List Attempt) (g : GateId) :
    (f.notices as).filter (·.1 = g) =
      ((f.gates.find? g).toList.flatMap
        (·.notices ((as.filter (·.gate = g)).map (·.event)))).map (g, ·) := by
  induction as generalizing f with
  | nil => cases f.gates.find? g <;> rfl
  | cons a as ih =>
    rw [notices, List.filter_append, ih, attempt, find?_offer]
    by_cases here : a.gate = g
    · subst here
      rw [if_pos rfl, List.filter_cons_of_pos (by simp), notice?]
      cases there : f.gates.find? a.gate with
      | none => rfl
      | some gate =>
        simp only [Option.bind_some, Option.map_some, Option.toList_some, List.flatMap_singleton,
          List.map_cons, Gate.notices, List.map_append]
        congr 1
        cases (gate.offer a.event).2.notice? gate a.event <;> simp
    · rw [if_neg (Ne.symm here), List.filter_cons_of_neg (by simp [here])]
      have others : ((f.notice? a).map (a.gate, ·)).toList.filter (·.1 = g) = [] := by
        cases f.notice? a <;> simp [here]
      rw [others, List.nil_append]

/-! ## What attempts leave as it is -/

/-- An attempt changes gates, buses and the numbering of records. -/
lemma frame_attempt (f : Fabric) (a : Attempt) :
    f.attempt a =
      { f with
        gates := (f.attempt a).gates
        buses := (f.attempt a).buses
        records := (f.attempt a).records } := by
  simp only [attempt, offer, diagnose, publish]
  repeat' split
  all_goals rfl

/-- Attempts change gates, buses and the numbering of records. -/
lemma frame_attempts (f : Fabric) (as : List Attempt) :
    as.foldl attempt f =
      { f with
        gates := (as.foldl attempt f).gates
        buses := (as.foldl attempt f).buses
        records := (as.foldl attempt f).records } := by
  induction as generalizing f with
  | nil => rfl
  | cons a as ih =>
    rw [List.foldl_cons]
    generalize made : as.foldl attempt (f.attempt a) = f'
    have rest := ih (f.attempt a)
    rw [made, f.frame_attempt a] at rest
    exact rest

end Fabric

/-! ## Attempts at each gate -/

namespace Posting

variable {l : Links} {g : GateId}

/-- An event posted is a batch of one event. -/
lemma attempts_post (l : Links) (g : GateId) (e : Event) :
    attempts l (.post g e) = attempts l (.postBatch g [e]) :=
  List.map_eq_flatMap

/-- A batch is attempted once at each partner, in its order. -/
lemma attempts_at (distinct : (l.partners g).Nodup) (es : List Event) (x : GateId) :
    (attempts l (.postBatch g es)).filter (·.gate = x) =
      if x ∈ l.partners g then es.map fun e => ⟨x, e⟩ else [] := by
  simp only [attempts]
  generalize l.partners g = ps at distinct
  induction ps with
  | nil => rfl
  | cons p ps ih =>
    obtain ⟨apart, distinct⟩ := List.nodup_cons.mp distinct
    rw [List.flatMap_cons, List.filter_append, ih distinct]
    by_cases here : p = x
    · subst here
      rw [if_neg apart, if_pos List.mem_cons_self, List.append_nil, List.filter_eq_self]
      simp
    · have none : (es.map fun e => (⟨p, e⟩ : Attempt)).filter (·.gate = x) = [] := by
        simp [here]
      have same : x ∈ p :: ps ↔ x ∈ ps := by simp [Ne.symm here]
      simp only [none, same, List.nil_append]

/-- Posted one after the other, events are attempted at each partner like a batch. -/
lemma attempts_in_turn (distinct : (l.partners g).Nodup) (es : List Event) (x : GateId) :
    (es.flatMap fun e => attempts l (.post g e)).filter (·.gate = x) =
      (attempts l (.postBatch g es)).filter (·.gate = x) := by
  rw [attempts_at distinct, List.filter_flatMap]
  simp only [attempts_post, attempts_at distinct]
  by_cases partner : x ∈ l.partners g
  · simp only [if_pos partner, List.map_cons, List.map_nil]
    exact List.map_eq_flatMap.symm
  · simp only [if_neg partner, List.flatMap_eq_nil_iff, implies_true]

end Posting

namespace Fabric

variable {f : Fabric}

/-! ## Partners -/

/-- The links of a fabric are those that link operations left, and the gates are those that they
left, in whatever state each of them is. -/
structure LinkedBy (f : Fabric) (steps : List LinkStep) : Prop where
  links : f.links = (Traffic.run steps).fabric.links
  live : ∀ x, f.isLive x = (Traffic.run steps).isLive x

namespace LinkedBy

/-- So are those of the fabric that link operations leave, with any buses. -/
lemma of_run (steps : List LinkStep) (buses : Table BusId Bus) :
    LinkedBy { (Traffic.run steps).fabric with buses } steps where
  links := rfl
  live _ := rfl

variable {steps : List LinkStep} (linked : f.LinkedBy steps) (g : GateId)
include linked

/-- Partners are the neighbours in the graph that the link operations are to make. -/
lemma partners : f.links.partners g =
    (Network.run (Traffic.networkSteps {} steps)).1.graph.neighbours g := by
  rw [linked.links]
  exact (Traffic.mirrors_start.runFrom steps).1.partners g

/-- A gate lists no gate twice, and not itself. -/
lemma entries_nodup : (f.links.entries g).Nodup ∧ g ∉ f.links.entries g := by
  have sound := (Traffic.mirrors_start.runFrom steps).1.sound
  rw [linked.links]
  exact ⟨sound.nodup g, sound.irrefl g⟩

/-- No gate is a partner twice. -/
lemma partners_nodup : (f.links.partners g).Nodup :=
  (linked.entries_nodup g).1.filter _

/-- Partners are the gates listed that are there. -/
lemma mem_partners (p : GateId) :
    p ∈ f.links.partners g ↔ p ∈ f.links.entries g ∧ f.isLive p = true := by
  have sound := (Traffic.mirrors_start.runFrom steps).1.sound
  have agree : f.links.isLive p = f.isLive p := by
    rw [linked.links, linked.live]
    exact sound.agree p
  rw [Links.partners, List.mem_filter, agree]

end LinkedBy

/-- What is attempted once at each of several gates makes each of them report what becomes of it
there. -/
lemma notices_map (f : Fabric) (e : Event) {ps : List GateId} (distinct : ps.Nodup) :
    f.notices (ps.map fun p => ⟨p, e⟩) =
      ps.filterMap fun p =>
        ((f.gates.find? p).bind fun gate => gate.outcome.notice? gate e).map (p, ·) := by
  induction ps generalizing f with
  | nil => rfl
  | cons p ps ih =>
    obtain ⟨apart, distinct⟩ := List.nodup_cons.mp distinct
    rw [List.map_cons, notices, ih _ distinct, List.filterMap_cons]
    -- what was done at the first gate is not seen at the others
    have rest : ∀ q ∈ ps, (f.attempt ⟨p, e⟩).gates.find? q = f.gates.find? q := by
      intro q mem
      rw [attempt, find?_offer, if_neg]
      rintro rfl
      exact apart mem
    have same : ps.filterMap (fun q =>
          (((f.attempt ⟨p, e⟩).gates.find? q).bind fun gate =>
            gate.outcome.notice? gate e).map (q, ·)) =
        ps.filterMap fun q =>
          ((f.gates.find? q).bind fun gate => gate.outcome.notice? gate e).map (q, ·) :=
      List.filterMap_congr fun q mem => by rw [rest q mem]
    rw [same, notice?]
    simp only [Gate.offer_eq]
    cases (f.gates.find? p).bind fun gate => gate.outcome.notice? gate e <;> rfl

/-- An event posted at a gate is offered to each partner, as it is at the time of the call. -/
lemma find?_post (distinct : (f.links.partners g).Nodup) (e : Event) (x : GateId) :
    (f.post g e).gates.find? x =
      (f.gates.find? x).map fun gate =>
        if x ∈ f.links.partners g then gate.afterOffer e gate.outcome else gate := by
  have performed : f.post g e = (Posting.attempts f.links (.post g e)).foldl attempt f :=
    Posting.perform_eq f (.post g e)
  rw [performed, find?_foldl_attempt, Posting.attempts_post, Posting.attempts_at distinct]
  congr 1
  funext gate
  by_cases partner : x ∈ f.links.partners g
  · simp only [if_pos partner, List.map_cons, List.map_nil, Gate.offerEach, List.foldl_cons,
      List.foldl_nil, Gate.offer_eq]
  · simp only [if_neg partner, List.map_nil, Gate.offerEach, List.foldl_nil]

/-- Events posted one after the other are attempted one after the other. -/
lemma foldl_post (f : Fabric) (g : GateId) (es : List Event) :
    es.foldl (·.post g ·) f =
      (es.flatMap fun e => Posting.attempts f.links (.post g e)).foldl attempt f := by
  induction es generalizing f with
  | nil => rfl
  | cons e es ih =>
    have first : f.post g e = (Posting.attempts f.links (.post g e)).foldl attempt f :=
      Posting.perform_eq f (.post g e)
    have links : (f.post g e).links = f.links := by
      rw [first, frame_attempts]
    rw [List.foldl_cons, ih, links, first, List.flatMap_cons, List.foldl_append]

/-! ## Posting -/

/-- In every graph that link operations leave, whatever the state of its gates, a post makes one
attempt at each live partner of its gate, in the order in which their links were made. Each partner
takes the event, or counts it as dropped, as its own dispatcher and its own free slots have it; what
the partners report about that is published in the same order. Every other gate, the gate itself
among them, stays as it is, and so do the links and whatever else there is. -/
theorem post_reaches_partners {f : Fabric} {steps : List LinkStep} (linked : f.LinkedBy steps)
    (g : GateId) (e : Event) :
    let graph := (Network.run (Traffic.networkSteps {} steps)).1.graph
    let ps := graph.neighbours g
    let f' := f.post g e
    f' = (ps.map fun p => ⟨p, e⟩).foldl attempt f ∧
      (ps.Nodup ∧ g ∉ ps ∧ ∀ p, p ∈ ps ↔ p ∈ f.links.entries g ∧ f.isLive p = true) ∧
      (ps.Pairwise fun p q =>
        ∃ d ∈ graph.edges, ∃ d' ∈ graph.edges,
          d.ends = s(g, p) ∧ d'.ends = s(g, q) ∧ d.time < d'.time) ∧
      (∀ x, f'.gates.find? x =
        (f.gates.find? x).map fun gate =>
          if x ∈ ps then gate.afterOffer e gate.outcome else gate) ∧
      f.TellsAll f'
        (ps.filterMap fun p =>
          (f.gates.find? p).bind fun gate => gate.outcome.notice? gate e) ∧
      f' = { f with gates := f'.gates, buses := f'.buses, records := f'.records } := by
  intro graph ps f'
  have partners : f.links.partners g = ps := linked.partners g
  have distinct := linked.partners_nodup g
  have performed : f' = (ps.map fun p => ⟨p, e⟩).foldl attempt f := by
    rw [← partners]
    exact Posting.perform_eq f (.post g e)
  refine ⟨performed, ⟨partners ▸ distinct, ?_, ?_⟩, graph.pairwise_neighbours g, ?_, ?_, ?_⟩
  · rw [← partners, linked.mem_partners]
    exact fun own => (linked.entries_nodup g).2 own.1
  · intro p
    rw [← partners]
    exact linked.mem_partners g p
  · intro x
    rw [← partners]
    exact find?_post distinct e x
  · have told := f.tellsAll_attempts (ps.map fun p => ⟨p, e⟩)
    rw [← performed, f.notices_map e (partners ▸ distinct), List.map_filterMap] at told
    simpa only [Option.map_map, Function.comp_def, Option.map_id'] using told
  · rw [performed]
    exact f.frame_attempts _

/-- The hub was linked with the gates 1 to 4; the first link was cut and made again, and gate 4 went
away but is still listed. Of the three partners one takes the event, one is full and one has no
dispatcher. Gate 5, which is linked with a partner, sees nothing of it. -/
theorem post_reaches_partners_relinked :
    let event (seq : Nat) : Event := { seq, payload := .addItem { sourceItemUid := "lamp" } }
    let steps : List LinkStep :=
      [.create { name := "hub", capacity := 1, bus := some 0, running := true },
        .create { name := "idle", capacity := 1, bus := some 0 },
        .create
          { name := "free", capacity := 2, bus := some 0, running := true, queue := [event 0] },
        .create
          { name := "full", capacity := 1, bus := some 0, running := true, queue := [event 1] },
        .create { name := "gone", capacity := 1, bus := some 0, running := true },
        .create { name := "far", capacity := 1, bus := some 0, running := true },
        .link 0 1, .link 0 2, .link 3 0, .link 0 4, .link 2 5, .unlink 1 0, .link 0 1, .depart 4]
    let f : Fabric := { (Traffic.run steps).fabric with buses := ⟨[(0, .ofCapacity 4)]⟩ }
    let f' := f.post 0 (event 2)
    f.links.entries 0 = [2, 3, 4, 1] ∧
      ([0, 1, 2, 3, 4, 5].map fun x => (f'.gates.find? x).map fun gate =>
        (gate.queue.map (·.seq), gate.counters)) =
        [some ([], {}), some ([], { droppedIdle := 1 }), some ([0, 2], { accepted := 1 }),
          some ([1], { droppedFull := 1 }), none, some ([], {})] ∧
      f'.published 0 =
        [⟨⟨.queueOverflow, some "full", some AddItem.typeName, none⟩, 0⟩,
          ⟨⟨.gateIdle, some "idle", some AddItem.typeName, none⟩, 1⟩] := by
  intro event steps f f'
  have linked : f.LinkedBy steps := .of_run steps _
  obtain ⟨-, -, -, gates, told, -⟩ := post_reaches_partners linked 0 (event 2)
  refine ⟨by decide +kernel, ?_, ?_⟩
  · simp only [f', gates]
    decide +kernel
  · refine (told.published 0).trans ?_
    decide +kernel

/-- Notices that are the same for each gate are the same up to their order. -/
lemma perm_of_filter {ns ns' : List (GateId × Notice)}
    (same : ∀ x, ns.filter (·.1 = x) = ns'.filter (·.1 = x)) : ns.Perm ns' := by
  classical
  rw [List.perm_iff_count]
  intro n
  have own : ∀ ns : List (GateId × Notice), (ns.filter (·.1 = n.1)).count n = ns.count n :=
    fun ns => List.count_filter (by simp)
  rw [← own ns, same, own]

/-- In every graph that link operations leave, whatever the state of its gates, events posted as a
batch lead to the same gates, links and numbers as the same events posted one after the other. What
is published is the same up to the order of different gates: each gate reports the same, in the same
order. -/
theorem postBatch_coincides {f : Fabric} {steps : List LinkStep} (linked : f.LinkedBy steps)
    (g : GateId) (es : List Event) :
    let batch := f.postBatch g es
    let single := es.foldl (·.post g ·) f
    let told := f.notices (Posting.attempts f.links (.postBatch g es))
    let told' := f.notices (es.flatMap fun e => Posting.attempts f.links (.post g e))
    (∀ x, batch.gates.find? x = single.gates.find? x) ∧
      batch = { single with gates := batch.gates, buses := batch.buses } ∧
      f.TellsAll batch (told.map Prod.snd) ∧
      f.TellsAll single (told'.map Prod.snd) ∧
      ∀ x, told.filter (·.1 = x) = told'.filter (·.1 = x) := by
  intro batch single told told'
  have distinct := linked.partners_nodup g
  have batched : batch = (Posting.attempts f.links (.postBatch g es)).foldl attempt f :=
    Posting.perform_eq f (.postBatch g es)
  have posted : single =
      (es.flatMap fun e => Posting.attempts f.links (.post g e)).foldl attempt f :=
    f.foldl_post g es
  have tells : f.TellsAll batch (told.map Prod.snd) := batched ▸ f.tellsAll_attempts _
  have tells' : f.TellsAll single (told'.map Prod.snd) := posted ▸ f.tellsAll_attempts _
  have same : ∀ x, told.filter (·.1 = x) = told'.filter (·.1 = x) := by
    intro x
    simp only [told, told', filter_notices, Posting.attempts_in_turn distinct]
  refine ⟨fun x => ?_, ?_, tells, tells', same⟩
  · rw [batched, posted, find?_foldl_attempt, find?_foldl_attempt,
      Posting.attempts_in_turn distinct]
  · have records : batch.records = single.records := by
      rw [tells.records, tells'.records, ((perm_of_filter same).map Prod.snd).length_eq]
    have frame := f.frame_attempts (Posting.attempts f.links (.postBatch g es))
    have frame' := f.frame_attempts (es.flatMap fun e => Posting.attempts f.links (.post g e))
    rw [← batched] at frame
    rw [← posted] at frame'
    rw [frame, frame', records]

/-- Of two partners one has no dispatcher, and the queue of the other fills up after the first
event. The batch leaves the same two gates as three posts do, and other records first. -/
theorem postBatch_coincides_overflowing :
    let event (seq : Nat) : Event := { seq, payload := .addItem { sourceItemUid := "lamp" } }
    let steps : List LinkStep :=
      [.create { name := "hub", capacity := 1, bus := some 0 },
        .create { name := "idle", capacity := 1, bus := some 0 },
        .create
          { name := "front", capacity := 2, bus := some 0, running := true, queue := [event 0] },
        .link 0 1, .link 0 2]
    let f : Fabric := { (Traffic.run steps).fabric with buses := ⟨[(0, .ofCapacity 8)]⟩ }
    let es := [event 1, event 2, event 3]
    let batch := f.postBatch 0 es
    let single := es.foldl (·.post 0 ·) f
    (∀ x, batch.gates.find? x = single.gates.find? x) ∧
      ((batch.gates.find? 2).map fun gate => (gate.queue.map (·.seq), gate.counters)) =
        some ([0, 1], { accepted := 1, droppedFull := 2 }) ∧
      ((single.gates.find? 1).map (·.counters)) = some { droppedIdle := 3 } ∧
      batch.records = 5 ∧ single.records = 5 ∧
      (batch.published 0).map (·.gate) =
        [some "idle", some "idle", some "idle", some "front", some "front"] ∧
      (single.published 0).map (·.gate) =
        [some "idle", some "idle", some "front", some "idle", some "front"] := by
  intro event steps f es batch single
  have linked : f.LinkedBy steps := .of_run steps _
  obtain ⟨gates, -, told, told', -⟩ := postBatch_coincides linked 0 es
  refine ⟨gates, by decide +kernel, by decide +kernel, ?_, ?_, ?_, ?_⟩
  · exact told.records.trans (by decide +kernel)
  · exact told'.records.trans (by decide +kernel)
  · rw [told.published 0]
    decide +kernel
  · rw [told'.published 0]
    decide +kernel

end Fabric

end EventGates
