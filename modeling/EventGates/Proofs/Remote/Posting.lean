import EventGates.Proofs.Remote.Identity
import EventGates.Proofs.Remote.Verdicts

/-!
# Posting to another node

A post is a request to the node at the other end, so at most the gate that serves the target there is
offered an event, and only if success is answered; any other answer is reported at the posting gate
and nothing else is changed (`Chronicle.post_delivers`). The receiving node does not know the sender's
event but only what can be written of it and read back: an event is `Portable` to an endpoint if
nothing of it is lost on the way, and a portable event arrives.
-/

namespace EventGates

open Text (Bytes)

namespace Wire

/-- A type name of printable ASCII, without semicolons and without spaces around it. -/
structure Plain (typeName : String) : Prop where
  nonempty : typeName ≠ ""
  printable : ∀ c ∈ typeName.toList, 0x20 ≤ c.toNat ∧ c.toNat ≤ 0x7E
  noSemicolon : ';' ∉ typeName.toList
  noLeadingSpace : typeName.toList.head? ≠ some ' '
  noTrailingSpace : typeName.toList.getLast? ≠ some ' '

/-- Among printable characters of ASCII only the space is blank. -/
lemma eq_space_of_isBlank {c : Char} (low : 0x20 ≤ c.toNat) (high : c.toNat ≤ 0x7E)
    (blank : Text.isBlank c = true) : c = ' ' := by
  have only : c.toNat = 0x20 := by
    simp only [Text.isBlank, Bool.or_eq_true, Bool.and_eq_true, decide_eq_true_eq, beq_iff_eq]
      at blank
    omega
  exact Char.toNat_inj.mp only

namespace Plain

variable {typeName : String}

/-- A plain type name is read back as it was announced. -/
lemma announceable (h : Plain typeName) : Announceable typeName where
  nonempty := h.nonempty
  noSemicolon := h.noSemicolon
  noLeadingBlank := by
    intro c first
    obtain ⟨low, high⟩ := h.printable c (List.mem_of_mem_head? first)
    apply eq_false_of_ne_true
    intro blank
    cases eq_space_of_isBlank low high blank
    exact h.noLeadingSpace first
  noTrailingBlank := by
    intro c last
    obtain ⟨low, high⟩ := h.printable c (List.mem_of_mem_getLast? last)
    apply eq_false_of_ne_true
    intro blank
    cases eq_space_of_isBlank low high blank
    exact h.noTrailingSpace last

/-- The content type of a plain type name is the text of a header. -/
lemma isHeaderText (h : Plain typeName) :
    (Text.encodeString (contentType typeName)).all Request.isHeaderText = true := by
  have printable : ∀ c ∈ (contentType typeName).toList, 0x20 ≤ c.toNat ∧ c.toNat ≤ 0x7E := by
    have fixed : (vendorTree.toList ++ charset.toList).all
        (fun c => 0x20 ≤ c.toNat ∧ c.toNat ≤ 0x7E) = true := by decide
    have ends : ∀ c ∈ vendorTree.toList ++ charset.toList, 0x20 ≤ c.toNat ∧ c.toNat ≤ 0x7E :=
      fun c mem => of_decide_eq_true (List.all_eq_true.mp fixed c mem)
    intro c mem
    rw [contentType, String.toList_append, String.toList_append, List.append_assoc,
      List.mem_append, List.mem_append] at mem
    obtain before | mem | behind := mem
    · exact ends c (List.mem_append_left _ before)
    · exact h.printable c mem
    · exact ends c (List.mem_append_right _ behind)
  simp only [Text.encodeString, Text.encode, List.all_flatMap, List.all_eq_true]
  intro c mem b written
  obtain ⟨low, high⟩ := printable c mem
  rw [Text.utf8EncodeChar_of_lt (by omega), List.mem_singleton] at written
  subst written
  have byte : (UInt8.ofNat c.toNat).toNat = c.toNat := UInt8.toNat_ofNat_of_lt (Nat.lt_of_le_of_lt high (by decide))
  simp only [Request.isHeaderText, Bool.or_eq_true, Bool.and_eq_true, decide_eq_true_eq,
    UInt8.le_iff_toNat_le, byte]
  exact .inl ⟨low, high⟩

end Plain

end Wire

/-- At each path of a node nothing handles requests to gates, or the endpoint of a gate does. -/
lemma System.route_cases {κ : Type} (s : System κ) (t : TableId) (r : Request) :
    ((∀ i, (s.endpoints t).lookup r.path ≠ some (.inbound i)) ∧
      (s.route t r).1 = s ∧ (s.route t r).2.status ≠ 200) ∨
    ∃ i v, (s.endpoints t).lookup r.path = some (.inbound i) ∧ i.Judges r v ∧
      s.route t r = (s.onFabric fun f => (i.handle f r).1, v.answer r.body) := by
  cases served : (s.endpoints t).lookup r.path with
  | none =>
    have routed : s.route t r = (s, ⟨404, ""⟩) := by
      simp only [System.route, Endpoints.route, served]
      split <;> rfl
    rw [routed]
    exact .inl ⟨by simp, rfl, by simp⟩
  | some handler =>
    cases handler with
    | echo text =>
      have routed : ∃ body, s.route t r = (s, ⟨418, body⟩) := by
        simp only [System.route, Endpoints.route, served, Handler.handle]
        split <;> exact ⟨_, rfl⟩
      obtain ⟨body, routed⟩ := routed
      rw [routed]
      exact .inl ⟨by simp, rfl, by simp⟩
    | inbound i =>
      obtain ⟨v, judged⟩ := i.exists_judges r
      exact .inr ⟨i, v, rfl, judged, Inbound.route_of_judges judged served⟩

/-- A request that fails changes nothing. -/
lemma System.route_of_failed {κ : Type} {s : System κ} {t : TableId} {r : Request}
    (failed : (s.route t r).2.status ≠ 200) : (s.route t r).1 = s := by
  obtain ⟨-, same, -⟩ | ⟨i, v, -, judged, routed⟩ := s.route_cases t r
  · exact same
  · rw [routed] at failed ⊢
    simp only [System.onFabric, Inbound.handle_of_failed judged failed]

namespace RemoteGate

/-- A byte of the text of a header may be sent. -/
lemma isHeaderByte_of_isHeaderText {b : UInt8} (h : Request.isHeaderText b = true) :
    isHeaderByte b = true := by
  simp only [Request.isHeaderText, isHeaderByte, Bool.or_eq_true, Bool.and_eq_true,
    decide_eq_true_eq, beq_iff_eq, bne_iff_ne] at h ⊢
  obtain ⟨low, high⟩ | tab := h
  · refine .inl ⟨low, ?_⟩
    rintro rfl
    exact absurd high (by decide)
  · exact .inr tab

/-- The copy of an event that is sent. -/
def stamped (r : RemoteGate) (e : Event) : Event := { e with sender := some r.sender }

/-- An event that arrives at an endpoint as it was sent: its type is known there and can be announced,
and its body can be read back and is not too large. -/
structure Portable (r : RemoteGate) (i : Inbound) (e : Event) : Prop where
  told : ∃ names, i.catalogue = .ofList names
  known : i.catalogue.knows e.typeName = true
  announced : Wire.Plain e.typeName
  floatFree : e.payload.tree.floatFree = true
  present : ∀ p, e.payload = .itemAdded p → p.configuration ≠ some .null
  shallow : (Wire.encode (r.stamped e)).depth ≤ Json.Reader.depthLimit
  fits : (Wire.encode (r.stamped e)).bytes.length ≤ i.maxBodyBytes

variable {r : RemoteGate} {i : Inbound} {e : Event}

/-- An event that is portable is sent, unless it is of an application's own type with a reserved
name. -/
lemma Portable.sent (h : r.Portable i e)
    (allowed : (e.payload.isCustom && isReserved e.typeName) = false) : refusal? e = none := by
  have bytes : (Text.encodeString (Wire.contentType e.typeName)).all isHeaderByte = true := by
    have text := h.announced.isHeaderText
    rw [List.all_eq_true] at text ⊢
    exact fun b mem => isHeaderByte_of_isHeaderText (text b mem)
  rw [refusal?, allowed, bytes]
  rfl

/-- The request with a portable event is judged to hold it. -/
lemma Portable.judges (h : r.Portable i e)
    (allowed : (e.payload.isCustom && isReserved e.typeName) = false) (target : Url) :
    i.Judges (r.request target e) (.event ⟨e.payload, some r.sender⟩) := by
  obtain ⟨names, told⟩ := h.told
  have named : (r.request target e).typeName? = some e.typeName := by
    rw [Request.typeName?_request, if_pos h.announced.isHeaderText]
    exact Wire.announcedName?_toList_iff.mpr h.announced.announceable
  have known := h.known
  rw [told] at known
  have body : Wire.parseBody (r.request target e).body =
      .ok (.ofTree e.payload.tree, some r.sender) :=
    Wire.parseBody_encode (e := r.stamped e) (Wire.floatFree_encode h.floatFree) h.shallow
  refine .event rfl named h.fits h.known ?_
  rw [told]
  cases own : e.payload.isCustom with
  | false =>
    have decoded : Payload.ofReserved? e.typeName (.ofTree e.payload.tree) = some (.ok e.payload) :=
      Payload.ofReserved?_tree own h.present
    exact Wire.Catalogue.read_reserved (Wire.isReserved_typeName own) body decoded
  | true =>
    have free : isReserved e.typeName = false := by rwa [own, Bool.true_and] at allowed
    obtain ⟨seq, sender, payload⟩ := e
    cases payload with
    | custom p =>
      have whole : Value.ofTree (Payload.custom p).tree = p.data := Value.ofTree_tree p.data
      rw [whole] at body
      exact Wire.Catalogue.read_custom known free body
    | _ => cases own

/-- The record of an answer other than success. -/
def rejected (own : Gate) (target : Url) (e : Event) (status : Nat) : Notice where
  bus := own.bus
  finding :=
    { kind := .remoteRejected, gate := some own.name, eventType := some e.typeName
      reason := some (rejection status target) }

/-- An event of an application's own type with a reserved name is refused. -/
lemma refusal?_of_reserved (reserved : (e.payload.isCustom && isReserved e.typeName) = true) :
    refusal? e = some (.reservedType e.typeName) := by rw [refusal?, if_pos reserved]

section Post

variable {κ : Type} {s : System κ} {t : TableId} {target : Url}

/-- An event that is refused is not sent. -/
lemma post_of_refused {cause : TransportError} (refused : refusal? e = some cause) (peer : Peer) :
    r.post s peer target e = (s, .error cause) := by
  simp only [post, refused]

/-- An event that is answered with success is reported to nobody. -/
lemma post_of_answered (sent : refusal? e = none)
    (answered : (s.route t (r.request target e)).2.status = 200) :
    r.post s (.node t) target e = ((s.route t (r.request target e)).1, .ok 200) := by
  simp only [post, sent, answered, if_true]

/-- An event that is answered otherwise is reported, and nothing else comes of it. -/
lemma post_of_rejected {own : Gate} (sent : refusal? e = none)
    (there : s.fabric.gates.find? r.gate = some own)
    (failed : (s.route t (r.request target e)).2.status ≠ 200) :
    let status := (s.route t (r.request target e)).2.status
    r.post s (.node t) target e =
      (s.onFabric fun f => f.publish own.bus (rejected own target e status).finding, .ok status) := by
  simp only [post, sent, if_neg failed, System.route_of_failed failed, System.onFabric,
    Fabric.diagnose, there]
  rfl

/-- An event is refused, or it is answered otherwise than with success, or the endpoint of a gate
handled it. -/
lemma post_cases (r : RemoteGate) (t : TableId) (target : Url) (e : Event) {own : Gate}
    (there : s.fabric.gates.find? r.gate = some own) :
    (∃ cause, refusal? e = some cause ∧ r.post s (.node t) target e = (s, .error cause)) ∨
    (∃ status, status ≠ 200 ∧ refusal? e = none ∧
      r.post s (.node t) target e =
        (s.onFabric fun f => f.publish own.bus (rejected own target e status).finding,
          .ok status)) ∨
    ∃ i v, refusal? e = none ∧
      (s.endpoints t).handlers.find? (Text.plain target.path) = some (.inbound i) ∧
      i.Judges (r.request target e) v ∧
      r.post s (.node t) target e =
        (s.onFabric fun f => (i.handle f (r.request target e)).1, .ok 200) := by
  cases sent : refusal? e with
  | some cause => exact .inl ⟨cause, rfl, post_of_refused sent _⟩
  | none =>
    right
    by_cases answered : (s.route t (r.request target e)).2.status = 200
    · right
      obtain ⟨-, -, failed⟩ | ⟨i, v, served, judged, routed⟩ := s.route_cases t (r.request target e)
      · exact absurd answered failed
      · rw [post_of_answered sent answered, routed]
        exact ⟨i, v, rfl, served, judged, rfl⟩
    · exact .inl ⟨_, answered, rfl, post_of_rejected sent there answered⟩

/-- A portable event is handled with success. -/
lemma Portable.post (h : r.Portable i e)
    (allowed : (e.payload.isCustom && isReserved e.typeName) = false)
    (served : (s.endpoints t).handlers.find? (Text.plain target.path) = some (.inbound i)) :
    r.post s (.node t) target e =
      (s.onFabric fun f => (i.handle f (r.request target e)).1, .ok 200) := by
  have routed := Inbound.route_of_judges (h.judges allowed target) served
  have answered : (s.route t (r.request target e)).2.status = 200 := by
    rw [routed]
    rfl
  rw [post_of_answered (h.sent allowed) answered, routed]

end Post

end RemoteGate

/-- Whatever comes of an event that is offered, those before it stay in the queue. -/
lemma Gate.queue_offer_prefix (gate : Gate) (e : Event) :
    gate.queue <+: (gate.offer e).1.queue := by
  have push : gate.queue <+: (gate.push e).1.queue := by
    obtain ⟨_, h⟩ | ⟨_, h⟩ := gate.push_cases e
    · rw [h]
      exact List.prefix_append _ _
    · rw [h]
  obtain ⟨_, h⟩ | ⟨_, h⟩ := gate.offer_cases e
  · rw [h]
    exact push
  · rw [h]
    exact List.prefix_refl _

/-- A request that is handled leaves what is in a queue where it is. -/
lemma Chronicle.Handles.queue {κ : Type} {c c' : Chronicle κ} {i : Inbound} {gate : Gate} {v : Verdict}
    (h : c.Handles c' i gate v) (there : c.system.fabric.gates.find? i.gate = some gate) {x : GateId}
    {old : Gate} (found : c.system.fabric.gates.find? x = some old) :
    ∃ new, c'.system.fabric.gates.find? x = some new ∧ old.queue <+: new.queue := by
  rw [h.gates]
  split
  · next here =>
    rw [here, there] at found
    cases found
    refine ⟨_, rfl, ?_⟩
    cases v with
    | event d => exact gate.queue_offer_prefix _
    | _ => exact List.prefix_refl _
  · exact ⟨old, found, List.prefix_refl _⟩

/-- What a request has published is never about an answer of another node. -/
lemma Verdict.kind_of_mem_notice? (v : Verdict) {gate : Gate} {n : Nat} :
    ∀ notice ∈ v.notice? gate n, notice.finding.kind ≠ .remoteRejected := by
  have drops : ∀ (a : Admission) e, ∀ notice ∈ a.notice? gate e,
      notice.finding.kind ≠ .remoteRejected := by
    intro a e notice mem
    cases a with
    | accepted => cases mem
    | _ => cases mem; nofun
  intro notice mem
  cases v with
  | event d => exact drops _ _ notice mem
  | unknown typeName => cases mem; nofun
  | _ => cases mem

namespace Chronicle

open RemoteGate

variable {κ : Type}

/-- An event of an application's own type with a reserved name is refused, and nothing is sent. Any
other event is offered to one gate at most, the one that serves the target, and only if success is
answered; any other answer is reported once at the posting gate, and success is not. An event that is
portable to the endpoint arrives there, with its payload and the address of the posting gate. No event
that is waiting is changed. -/
theorem post_delivers (c : Chronicle κ) (r : RemoteGate) (t : TableId) (target : Url) (e : Event)
    {own : Gate} (there : c.system.fabric.gates.find? r.gate = some own)
    (kept : ∀ i, (c.system.endpoints t).handlers.find? (Text.plain target.path) = some (.inbound i) →
      c.system.fabric.isLive i.gate = true) :
    let s := c.system
    let n := s.fabric.events
    let served i := (s.endpoints t).handlers.find? (Text.plain target.path) = some (.inbound i)
    let after := (r.post s (.node t) target e).1
    let result := (r.post s (.node t) target e).2
    ((e.payload.isCustom && isReserved e.typeName) = true →
        result = .error (.reservedType e.typeName)) ∧
      (∀ i gate, served i → s.fabric.gates.find? i.gate = some gate → r.Portable i e →
        (e.payload.isCustom && isReserved e.typeName) = false →
        result = .ok 200 ∧
          (∀ v, i.Judges (r.request target e) v ↔ v = .event ⟨e.payload, some r.sender⟩) ∧
          ∀ x, after.fabric.gates.find? x =
            if x = i.gate then some (gate.offer ⟨n, some r.sender, e.payload⟩).1
            else s.fabric.gates.find? x) ∧
      (∀ cause, result = .error cause → after = s) ∧
      (∀ status, result = .ok status → status ≠ 200 →
        after = s.onFabric fun f => f.publish own.bus (rejected own target e status).finding) ∧
      (result = .ok 200 → ∃ i gate v, served i ∧ s.fabric.gates.find? i.gate = some gate ∧
        i.Judges (r.request target e) v ∧
        c.Handles (c.runFrom (v.moves i.gate gate n)) i gate v ∧
        (c.runFrom (v.moves i.gate gate n)).system = after ∧
        ∀ notice ∈ v.notice? gate n, notice.finding.kind ≠ .remoteRejected) ∧
      (∀ x old, s.fabric.gates.find? x = some old →
        ∃ new, after.fabric.gates.find? x = some new ∧ old.queue <+: new.queue) ∧
      after.workers = s.workers := by
  intro s n served after result
  refine ⟨?_, ?_, ?_⟩
  · intro reserved
    simp only [result, post_of_refused (refusal?_of_reserved reserved)]
  · intro i gate serves found portable allowed
    have judged := portable.judges allowed target
    have posted : r.post s (.node t) target e = _ := portable.post allowed serves
    have gates := Inbound.find?_handle judged found
    simp only [result, after, posted]
    exact ⟨trivial, fun v => ⟨fun h => h.unique judged, fun same => same ▸ judged⟩, gates⟩
  · have same : ∀ x old, s.fabric.gates.find? x = some old →
        ∃ new, s.fabric.gates.find? x = some new ∧ old.queue <+: new.queue :=
      fun x old found => ⟨old, found, List.prefix_refl _⟩
    obtain ⟨cause, -, posted⟩ | ⟨status, failed, -, posted⟩ | ⟨i, v, -, serves, judged, posted⟩ :=
      post_cases r t target e there
    · have left : after = s := congrArg Prod.fst posted
      have refused : result = .error cause := congrArg Prod.snd posted
      rw [left, refused]
      exact ⟨fun _ _ => rfl, by rintro _ ⟨⟩, by rintro ⟨⟩, same, rfl⟩
    · have reported : after = _ := congrArg Prod.fst posted
      have answered : result = .ok status := congrArg Prod.snd posted
      rw [reported, answered]
      refine ⟨by rintro _ ⟨⟩, ?_, ?_, same, rfl⟩
      · rintro _ ⟨⟩ -
        rfl
      · rintro ⟨⟩
        exact absurd rfl failed
    · obtain ⟨gate, found⟩ := Option.isSome_iff_exists.mp (kept i serves)
      have handles := handles_moves judged found
      have moved : (c.runFrom (v.moves i.gate gate n)).system = after :=
        (congrArg Chronicle.system (runFrom_moves c judged found)).trans
          (congrArg Prod.fst posted).symm
      have answered : result = .ok 200 := congrArg Prod.snd posted
      rw [← moved, answered]
      refine ⟨by rintro _ ⟨⟩, ?_, ?_, ?_, handles.workers⟩
      · rintro _ ⟨⟩ other
        exact absurd rfl other
      · intro _
        exact ⟨i, gate, v, serves, found, judged, handles, rfl, v.kind_of_mem_notice?⟩
      · exact fun x old => handles.queue found

/-- An event arrives at a gate whose name is written with an escape. -/
theorem post_delivers_to_escaped_path :
    let r : RemoteGate := ⟨0, "/gates/shelf", "127.0.0.1:8080/gates/shelf", 0⟩
    let i : Inbound := ⟨1, .ofList ["demo.Reading"], 1024⟩
    let e : Event := ⟨7, none, .custom ⟨"demo.Reading", .null⟩⟩
    let f : Fabric := (({} : Fabric).addGate { name := "shelf", capacity := 1 }).1
    let c : Chronicle Unit :=
      { system :=
          { fabric := (f.addGate
              { name := "desk lamp", capacity := 1, running := true, handedOut := true }).1
            tables := Table.insert {} 0
              ⟨Table.insert {} (Text.plain "/gates/desk%20lamp") (.inbound i)⟩ } }
    let sent := r.post c.system (.node 0) ⟨"/gates/desk%20lamp", none, none⟩ e
    sent.2 = .ok 200 ∧
      (sent.1.fabric.gates.find? 1).map (·.queue) = some [⟨0, some r.sender, e.payload⟩] := by
  intro r i e f c sent
  have served : (c.system.endpoints 0).handlers.find? (Text.plain "/gates/desk%20lamp") =
      some (.inbound i) := by simp [c, System.endpoints]
  have kept : ∀ i, (c.system.endpoints 0).handlers.find? (Text.plain "/gates/desk%20lamp") =
      some (.inbound i) → c.system.fabric.isLive i.gate = true := by
    rintro _ same
    cases served.symm.trans same
    rfl
  have printable : e.typeName.toList.all
      (fun c => 0x20 ≤ c.toNat ∧ c.toNat ≤ 0x7E) = true := by decide
  have announced : Wire.Plain e.typeName :=
    ⟨by decide, fun c mem => of_decide_eq_true (List.all_eq_true.mp printable c mem), by decide,
      by decide, by decide⟩
  have portable : r.Portable i e :=
    ⟨⟨_, rfl⟩, by decide, announced, rfl, by rintro _ ⟨⟩, by decide, by decide +kernel⟩
  have there : c.system.fabric.gates.find? r.gate = some { name := "shelf", capacity := 1 } := rfl
  obtain ⟨-, arrives, -⟩ := post_delivers c r 0 ⟨"/gates/desk%20lamp", none, none⟩ e there kept
  obtain ⟨answered, -, gates⟩ := arrives i _ served rfl portable rfl
  refine ⟨answered, ?_⟩
  rw [gates]
  rfl

end Chronicle

end EventGates
