import EventGates.Proofs.Wire.RoundTrip
import EventGates.Remote.Gate

/-!
# What a node takes an event for

A node takes the event in a request for one of the type that the content type announces, and makes
of it a payload of that very type. A sender looks at the type identity as a whole and refuses the
reserved ones, but announces only the part of it before the first semicolon, without the blanks
around it. So an event of an application's own type keeps its type exactly if the identity is
announceable, or if nothing can be read of it.
-/

namespace EventGates

open Text (Bytes)

namespace Wire.Catalogue

/-- What is read under a name that is not reserved is a payload of the type of that name. -/
lemma custom_of_read {c : Catalogue} {typeName : String} {body : Bytes} {d : Draft}
    (free : isReserved typeName = false) (read : c.read typeName body = .ok (some d)) :
    ∃ data, d.payload = .custom ⟨typeName, data⟩ := by
  cases reading_of_read read with
  | @custom v sender told parsed => exact ⟨v, rfl⟩
  | reserved untold reserved parsed decoded =>
    rw [free] at reserved
    cases reserved

end Wire.Catalogue

namespace Request

/-- The type that a request announces is read if the header is text. -/
lemma typeName?_request (r : RemoteGate) (target : Url) (e : Event) :
    (r.request target e).typeName? =
      if (Text.encodeString (Wire.contentType e.typeName)).all isHeaderText then
        Wire.announcedName? e.typeName.toList
      else none := by
  show ((headerText? (Text.encodeString (Wire.contentType e.typeName))).bind Wire.typeIdentity?) = _
  rw [headerText?]
  split
  · rw [Text.decodeString?_encodeString]
    exact Wire.typeIdentity?_contentType e.typeName
  · rfl

end Request

namespace Inbound

/-- What a handler makes an event of, if the method and the size of a request are allowed. -/
def rebuilt? (i : Inbound) (r : Request) : Option Draft :=
  r.typeName?.bind fun typeName => (i.catalogue.read typeName r.body).toOption.join

/-- A node takes a request for one of the given type of an application's own and makes nothing else
of it, or it reads no type, refuses the request and makes nothing of it. -/
def KeepsType (i : Inbound) (r : Request) (typeName : String) : Prop :=
  (r.typeName? = some typeName ∧
    ∀ d, i.rebuilt? r = some d → ∃ data, d.payload = .custom ⟨typeName, data⟩) ∨
  (r.typeName? = none ∧ i.rebuilt? r = none ∧ ∀ f, i.handle f r = (f, untyped))

/-- A request whose type is read as it is keeps it. -/
lemma keepsType_of_typeName? {i : Inbound} {r : Request} {typeName : String}
    (free : isReserved typeName = false) (same : r.typeName? = some typeName) :
    i.KeepsType r typeName := by
  refine .inl ⟨same, ?_⟩
  intro d made
  rw [rebuilt?, same] at made
  change (i.catalogue.read typeName r.body).toOption.join = some d at made
  cases result : i.catalogue.read typeName r.body with
  | error cause =>
    rw [result] at made
    cases made
  | ok found =>
    rw [result] at made
    cases made
    exact Wire.Catalogue.custom_of_read free result

/-- A request that announces no type keeps whatever type there was. -/
lemma keepsType_of_untyped {i : Inbound} {r : Request} (method : r.method = "POST")
    (nothing : r.typeName? = none) (typeName : String) : i.KeepsType r typeName := by
  refine .inr ⟨nothing, ?_, ?_⟩
  · rw [rebuilt?, nothing]
    rfl
  · intro f
    rw [handle, if_neg (not_not_intro method), nothing]

end Inbound

namespace RemoteGate

/-- An event of an application's own type that is sent keeps its type exactly if the type identity is
announceable, or no header text, or blank up to its first semicolon. -/
theorem keepsType_request_iff (r : RemoteGate) (target : Url) {e : Event} {p : CustomEvent}
    (own : e.payload = .custom p) (sent : refusal? e = none) (i : Inbound) :
    i.KeepsType (r.request target e) p.typeName ↔
      Wire.Announceable p.typeName ∨
        (Text.encodeString (Wire.contentType p.typeName)).all Request.isHeaderText = false ∨
        ∀ c ∈ p.typeName.toList.takeWhile (· ≠ ';'), Text.isBlank c = true := by
  have name : e.typeName = p.typeName := by
    rw [Event.typeName, own]
    rfl
  have free : isReserved p.typeName = false := by
    rw [refusal?, own, name] at sent
    split at sent
    · cases sent
    · next allowed => exact eq_false_of_ne_true allowed
  have read := Request.typeName?_request r target e
  rw [name] at read
  rw [← Wire.announcedName?_toList_iff, ← Wire.announcedName?_eq_none_iff]
  cases text : (Text.encodeString (Wire.contentType p.typeName)).all Request.isHeaderText with
  | false =>
    rw [text] at read
    exact iff_of_true (Inbound.keepsType_of_untyped rfl read _) (.inr (.inl rfl))
  | true =>
    rw [text, if_pos rfl] at read
    rw [← read]
    constructor
    · rintro (⟨same, -⟩ | ⟨nothing, -⟩)
      · exact .inl same
      · exact .inr (.inr nothing)
    · rintro (same | impossible | nothing)
      · exact Inbound.keepsType_of_typeName? free same
      · cases impossible
      · exact Inbound.keepsType_of_untyped rfl nothing _

/-- An announceable type is kept. -/
theorem keepsType_request_reading :
    Inbound.KeepsType ⟨0, .ofList ["demo.Reading"], 1024⟩
      (request ⟨0, "/gates/a", "127.0.0.1:8080/gates/a", 0⟩ ⟨"/gates/b", none, none⟩
        ⟨0, none, .custom ⟨"demo.Reading", .null⟩⟩) "demo.Reading" := by
  have own : (⟨0, none, .custom ⟨"demo.Reading", .null⟩⟩ : Event).payload =
      .custom ⟨"demo.Reading", .null⟩ := rfl
  have sent : refusal? ⟨0, none, .custom ⟨"demo.Reading", .null⟩⟩ = none := by decide +kernel
  have announceable : Wire.Announceable "demo.Reading" :=
    Wire.announcedName?_toList_iff.mp (by decide)
  exact (keepsType_request_iff _ _ own sent _).mpr (.inl announceable)

/-- An event with a reserved identity before a semicolon. -/
def forgedAddItem : Event :=
  ⟨0, none, .custom ⟨"gatefabric.pem.AddItem;v=2",
    .ofTree (.object [("sourceItemUid", .string "forged")])⟩⟩

/-- The request that carries it to another node. -/
def forgedRequest : Request :=
  request ⟨0, "/gates/a", "127.0.0.1:8080/gates/a", 0⟩ ⟨"/gates/b", none, none⟩ forgedAddItem

lemma typeName?_forgedRequest : forgedRequest.typeName? = some AddItem.typeName := by
  have text : (Text.encodeString (Wire.contentType forgedAddItem.typeName)).all
      Request.isHeaderText = true := by decide +kernel
  rw [forgedRequest, Request.typeName?_request, if_pos text]
  decide

lemma parseBody_forgedRequest : Wire.parseBody forgedRequest.body =
    .ok (.ofTree forgedAddItem.payload.tree, some "127.0.0.1:8080/gates/a") := by
  have deep : (Wire.encode { forgedAddItem with sender := some "127.0.0.1:8080/gates/a" }).depth = 2 := by
    decide
  exact Wire.parseBody_encode (by decide) (Nat.le_trans (Nat.le_of_eq deep) (by decide))

/-- It is not refused, and a node takes it for one of the reserved type. -/
theorem not_keepsType_forgedRequest :
    refusal? forgedAddItem = none ∧
      Inbound.rebuilt? ⟨0, {}, 1024⟩ forgedRequest =
        some ⟨.addItem ⟨"forged", .empty, none⟩, some "127.0.0.1:8080/gates/a"⟩ ∧
      ¬Inbound.KeepsType ⟨0, {}, 1024⟩ forgedRequest forgedAddItem.typeName := by
  refine ⟨by decide +kernel, ?_, ?_⟩
  · have decoded : Payload.ofReserved? AddItem.typeName (.ofTree forgedAddItem.payload.tree) =
        some (.ok (.addItem ⟨"forged", .empty, none⟩)) := by
      rw [Payload.ofReserved?, if_neg (by decide), if_pos rfl]
      rfl
    have known : Wire.Catalogue.knows {} AddItem.typeName = true := by decide
    have untold : ([] : List String).contains AddItem.typeName = false := rfl
    rw [Inbound.rebuilt?, typeName?_forgedRequest, Option.bind_some, Wire.Catalogue.read,
      parseBody_forgedRequest]
    simp only [known, Bool.not_true, Bool.false_eq_true, if_false, untold, decoded]
    rfl
  · have other : AddItem.typeName ≠ forgedAddItem.typeName := by decide
    rintro (⟨same, -⟩ | ⟨nothing, -⟩)
    · rw [typeName?_forgedRequest] at same
      exact other (Option.some.inj same)
    · rw [typeName?_forgedRequest] at nothing
      cases nothing

end RemoteGate

end EventGates
