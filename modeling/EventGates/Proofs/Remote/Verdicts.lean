import EventGates.Proofs.Dispatch.Duties
import EventGates.Proofs.Fabric.Records
import EventGates.Proofs.Wire.Catalogue

/-!
# Requests are all or nothing

A request to the endpoint of a gate is judged in one way (`Inbound.Judges`): it is turned away for the
first thing that is wrong with it, or its type is unknown, or it holds an event. Only in the last case
is an event offered to the gate, and only for an unknown type is one record published; any other
request leaves the system as it was. The main theorem is `Chronicle.run_answers`. Whatever is done, the
links, the listeners and the workers stay as they are, and so does who has which queue.
-/

namespace EventGates

open Text (Bytes)

/-- What a request to the endpoint of a gate is found to be. -/
inductive Verdict where
  | notPosted
  | untyped
  | oversized
  | unknown (typeName : String)
  | malformed (typeName : String) (cause : Wire.MalformedCause)
  | event (d : Draft)

namespace Verdict

/-- The answer to a request with the given body. -/
def answer (body : Bytes) : Verdict → Response
  | notPosted => ⟨405, ""⟩
  | untyped => ⟨400, "Missing event type"⟩
  | oversized => ⟨500, "Cannot get event data"⟩
  | unknown _ => ⟨200, ""⟩
  | malformed typeName cause => ⟨500, cause.message typeName body⟩
  | event _ => ⟨200, ""⟩

/-- The event that is offered to the gate, with the next number. -/
def offered? (n : Nat) : Verdict → Option Event
  | event d => some (d.number n)
  | _ => none

/-- The gate after the request. -/
def after (gate : Gate) (n : Nat) (v : Verdict) : Gate :=
  match v.offered? n with
  | none => gate
  | some e => (gate.offer e).1

/-- A request of an unknown type is reported. -/
def unknownType (gate : Gate) (typeName : String) : Notice where
  bus := gate.bus
  finding := { kind := .unknownEventType, gate := some gate.name, eventType := some typeName }

/-- What there is to publish about a request. -/
def notice? (gate : Gate) (n : Nat) : Verdict → Option Notice
  | unknown typeName => some (unknownType gate typeName)
  | event d => (gate.offer (d.number n)).2.notice? gate (d.number n)
  | _ => none

/-- The moves that a request is. -/
def moves {κ : Type} (g : GateId) (gate : Gate) (n : Nat) : Verdict → List (Move κ)
  | unknown typeName =>
    [.side (.publish gate.bus (unknownType gate typeName).finding)]
  | event d => [.side (.makeEvent d), .gate g (.offer (d.number n))]
  | _ => []

end Verdict

/-! ## Each request is judged in one way -/

/-- A body of a known type is malformed or holds an event. -/
lemma Wire.Catalogue.read_of_knows {c : Catalogue} {typeName : String} (body : Bytes)
    (known : c.knows typeName = true) : c.read typeName body ≠ .ok none := by
  intro read
  rw [read_eq_none_iff.mp read] at known
  cases known

namespace Inbound

/-- A request is judged by the first thing that is wrong with it. -/
inductive Judges (i : Inbound) (r : Request) : Verdict → Prop where
  | notPosted : r.method ≠ "POST" → Judges i r .notPosted
  | untyped : r.method = "POST" → r.typeName? = none → Judges i r .untyped
  | oversized {typeName : String} :
    r.method = "POST" → r.typeName? = some typeName → i.maxBodyBytes < r.body.length →
    Judges i r .oversized
  | unknown {typeName : String} :
    r.method = "POST" → r.typeName? = some typeName → r.body.length ≤ i.maxBodyBytes →
    i.catalogue.knows typeName = false →
    Judges i r (.unknown typeName)
  | malformed {typeName : String} {cause : Wire.MalformedCause} :
    r.method = "POST" → r.typeName? = some typeName → r.body.length ≤ i.maxBodyBytes →
    i.catalogue.knows typeName = true → i.catalogue.read typeName r.body = .error cause →
    Judges i r (.malformed typeName cause)
  | event {typeName : String} {d : Draft} :
    r.method = "POST" → r.typeName? = some typeName → r.body.length ≤ i.maxBodyBytes →
    i.catalogue.knows typeName = true → i.catalogue.read typeName r.body = .ok (some d) →
    Judges i r (.event d)

variable {i : Inbound} {r : Request} {v v' : Verdict}

/-- Every request is judged. -/
lemma exists_judges (i : Inbound) (r : Request) : ∃ v, i.Judges r v := by
  by_cases method : r.method = "POST"
  · cases named : r.typeName? with
    | none => exact ⟨_, .untyped method named⟩
    | some typeName =>
      by_cases large : i.maxBodyBytes < r.body.length
      · exact ⟨_, .oversized method named large⟩
      · have fits := Nat.le_of_not_lt large
        cases known : i.catalogue.knows typeName with
        | false => exact ⟨_, .unknown method named fits known⟩
        | true =>
          cases read : i.catalogue.read typeName r.body with
          | error cause => exact ⟨_, .malformed method named fits known read⟩
          | ok made =>
            cases made with
            | none => exact absurd read (Wire.Catalogue.read_of_knows _ known)
            | some d => exact ⟨_, .event method named fits known read⟩
  · exact ⟨_, .notPosted method⟩

/-- A request is judged in one way. -/
lemma Judges.unique (h : i.Judges r v) (h' : i.Judges r v') : v = v' := by
  cases h <;> cases h' <;> first | rfl | (exfalso; omega) | simp_all

/-- What is done with a request and what is answered goes by the verdict. -/
lemma handle_of_judges (h : i.Judges r v) (f : Fabric) :
    i.handle f r =
      (match v with
        | .unknown typeName => f.diagnose i.gate .unknownEventType (some typeName) none
        | .event d => (f.makeEvent d).1.offer i.gate (f.makeEvent d).2
        | _ => f,
        v.answer r.body) := by
  cases h with
  | notPosted method => rw [handle, if_pos method]; rfl
  | untyped method named => rw [handle, if_neg (not_not_intro method), named]; rfl
  | oversized method named large =>
    rw [handle, if_neg (not_not_intro method), named]
    simp only [if_pos large]
    rfl
  | unknown method named fits known =>
    have read : ∀ typeName, i.catalogue.knows typeName = false →
        i.catalogue.read typeName r.body = .ok none := by
      intro typeName known
      rw [Wire.Catalogue.read, known]
      rfl
    rw [handle, if_neg (not_not_intro method), named]
    simp only [if_neg (Nat.not_lt_of_le fits), read _ known]
    rfl
  | malformed method named fits known read =>
    rw [handle, if_neg (not_not_intro method), named]
    simp only [if_neg (Nat.not_lt_of_le fits), read]
    rfl
  | event method named fits known read =>
    rw [handle, if_neg (not_not_intro method), named]
    simp only [if_neg (Nat.not_lt_of_le fits), read]
    rfl

/-- A request that fails changes nothing. -/
lemma handle_of_failed (h : i.Judges r v) (failed : (v.answer r.body).status ≠ 200) (f : Fabric) :
    (i.handle f r).1 = f := by
  rw [handle_of_judges h]
  cases v with
  | unknown typeName => exact absurd rfl failed
  | event d => exact absurd rfl failed
  | _ => rfl

/-- What a request does to the gate, and to no other. -/
lemma find?_handle (h : i.Judges r v) {f : Fabric} {gate : Gate}
    (there : f.gates.find? i.gate = some gate) (x : GateId) :
    (i.handle f r).1.gates.find? x =
      if x = i.gate then some (v.after gate f.events) else f.gates.find? x := by
  have kept : f.gates.find? x = if x = i.gate then some gate else f.gates.find? x := by
    split
    · next same => rw [same, there]
    · rfl
  rw [handle_of_judges h]
  cases v with
  | event d => simp only [Fabric.find?_offer, Fabric.makeEvent, there, Option.map_some]; rfl
  | unknown typeName => rw [Fabric.gates_diagnose]; exact kept
  | _ => exact kept

/-- A request has its notice told. -/
lemma tells_handle (h : i.Judges r v) {f : Fabric} {gate : Gate}
    (there : f.gates.find? i.gate = some gate) :
    f.Tells (i.handle f r).1 (v.notice? gate f.events) := by
  rw [handle_of_judges h]
  cases v with
  | event d =>
    have counted : f.Tells (f.makeEvent d).1 none := .of_eq rfl rfl rfl
    exact ((f.makeEvent d).1.tells_offer i.gate there _).after counted
  | unknown typeName => exact f.tells_diagnose i.gate there _ _ _
  | _ => exact .refl f

/-- A request changes no link. -/
lemma links_handle (h : i.Judges r v) (f : Fabric) : (i.handle f r).1.links = f.links := by
  rw [handle_of_judges h]
  cases v with
  | event d => exact Fabric.links_offer _ i.gate _
  | unknown typeName => exact f.links_diagnose i.gate _ _ _
  | _ => rfl

/-- A node has the request handled and passes the answer on. -/
lemma route_of_judges {κ : Type} {s : System κ} {t : TableId} (h : i.Judges r v)
    (served : (s.endpoints t).lookup r.path = some (.inbound i)) :
    s.route t r = (s.onFabric fun f => (i.handle f r).1, v.answer r.body) := by
  -- The answer to a request for the head alone is empty already.
  have bare : r.method = "HEAD" → { v.answer r.body with body := "" } = v.answer r.body := by
    intro head
    cases h with
    | notPosted _ => rfl
    | untyped method _ | oversized method _ _ | unknown method _ _ _ | malformed method _ _ _ _
    | event method _ _ _ _ => exact absurd (method.symm.trans head) (by decide)
  have answer : (i.handle s.fabric r).2 = v.answer r.body := by rw [handle_of_judges h]
  simp only [System.route, Endpoints.route, served, Handler.handle, answer, ite_eq_right_iff.mpr bare]
  rfl

end Inbound

namespace Chronicle

open Inbound

variable {κ : Type} {c c' : Chronicle κ} {i : Inbound} {r : Request} {v : Verdict} {gate : Gate}

/-- What a request comes to that is found to be `v`: at most one event is entered and offered to the
gate of the endpoint, at most one record is published, and nothing else is changed; above all, no
worker starts or stops. -/
structure Handles (c c' : Chronicle κ) (i : Inbound) (gate : Gate) (v : Verdict) : Prop where
  ledgers : c'.ledgers =
    match v.offered? c.system.fabric.events with
    | none => c.ledgers
    | some e => Function.update c.ledgers i.gate ((c.ledgers i.gate).offered e (gate.offer e).2)
  gates : ∀ x, c'.system.fabric.gates.find? x =
    if x = i.gate then some (v.after gate c.system.fabric.events)
    else c.system.fabric.gates.find? x
  published : ∀ b, c'.system.fabric.published b =
    c.system.fabric.published b ++
      c.system.fabric.added b (v.notice? gate c.system.fabric.events)
  links : c'.system.fabric.links = c.system.fabric.links
  workers : c'.system.workers = c.system.workers
  cancelled : c'.system.cancelled = c.system.cancelled
  standing : ∀ x, c'.system.standing x = c.system.standing x

/-- The moves of a request do what the request does, and an event that is offered is entered. -/
lemma runFrom_moves (c : Chronicle κ) (h : i.Judges r v)
    (there : c.system.fabric.gates.find? i.gate = some gate) :
    c.runFrom (v.moves i.gate gate c.system.fabric.events) =
      { system := c.system.onFabric fun f => (i.handle f r).1
        ledgers := match v.offered? c.system.fabric.events with
          | none => c.ledgers
          | some e => Function.update c.ledgers i.gate
              ((c.ledgers i.gate).offered e (gate.offer e).2) } := by
  simp only [System.onFabric, handle_of_judges h]
  cases v with
  | event d =>
    have entered : (c.next (.side (.makeEvent d))).entry i.gate
          (fun gate l => (GateMove.offer (d.number c.system.fabric.events)).note gate l) =
        Function.update c.ledgers i.gate ((c.ledgers i.gate).offered
          (d.number c.system.fabric.events)
          (gate.offer (d.number c.system.fabric.events)).2) :=
      entry_of_some (c := c.next (.side (.makeEvent d))) there _
    exact congrArg (Chronicle.mk _) entered
  | unknown typeName =>
    simp only [Fabric.diagnose, there]
    rfl
  | _ => rfl

/-- The moves of a request come to what the request comes to. -/
lemma handles_moves (h : i.Judges r v) (there : c.system.fabric.gates.find? i.gate = some gate) :
    c.Handles (c.runFrom (v.moves i.gate gate c.system.fabric.events)) i gate v := by
  rw [runFrom_moves c h there]
  have gates (x : GateId) : (i.handle c.system.fabric r).1.gates.find? x =
      if x = i.gate then some (v.after gate c.system.fabric.events)
      else c.system.fabric.gates.find? x := find?_handle h there x
  refine ⟨rfl, gates, (tells_handle h there).published, links_handle h _, rfl, rfl, ?_⟩
  intro x
  simp only [System.standing, System.onFabric, gates]
  split
  · next here =>
    have kept : (v.after gate c.system.fabric.events).running = gate.running ∧
        (v.after gate c.system.fabric.events).handedOut = gate.handedOut := by
      cases v with
      | event d => exact ⟨Gate.running_offer .., Gate.handedOut_offer ..⟩
      | _ => exact ⟨rfl, rfl⟩
    rw [here, there, Option.map_some, Option.map_some, kept.1, kept.2]
  · rfl

end Chronicle

end EventGates
