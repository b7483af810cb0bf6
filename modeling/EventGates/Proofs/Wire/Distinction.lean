import EventGates.Proofs.Json.Distinction
import EventGates.Proofs.Wire.RoundTrip

/-!
# What the wire keeps apart

The content type and the body of an event are the same as those of another event exactly if both
have the same sender and the same payload, but for a configuration of null, which is written as an
absent one (`encode_eq_iff`). So events that differ in anything else are told apart by whoever
receives them.
-/

namespace EventGates

/-- A payload as the wire shows it: a configuration of null is none. -/
def Payload.onWire : Payload → Payload
  | .itemAdded p => .itemAdded
    { p with
      configuration := match p.configuration with
        | some ⟨.null, _⟩ => none
        | configuration => configuration }
  | p => p

namespace Payload

variable {p q : Payload}

@[simp] lemma isCustom_onWire (p : Payload) : p.onWire.isCustom = p.isCustom := by
  cases p with
  | _ => rfl

@[simp] lemma typeName_onWire (p : Payload) : p.onWire.typeName = p.typeName := by
  cases p with
  | _ => rfl

/-- A payload is written as the wire shows it. -/
@[simp] lemma tree_onWire (p : Payload) : p.onWire.tree = p.tree := by
  cases p with
  | itemAdded p =>
    simp only [onWire]
    split
    · next canonical null =>
      simp only [tree, null]
      rfl
    · rfl
  | _ => rfl

/-- The wire shows no configuration of null. -/
lemma configuration_onWire (p : Payload) (a : ItemAdded) (shown : p.onWire = .itemAdded a) :
    a.configuration ≠ some .null := by
  cases p with
  | itemAdded p =>
    cases shown
    intro null
    simp only at null
    split at null
    · cases null
    · next other => exact other _ null
  | _ => cases shown

/-- Payloads of one type that are written alike look alike on the wire. -/
lemma onWire_eq_of_tree (typeName : p.typeName = q.typeName) (own : p.isCustom = q.isCustom)
    (tree : p.tree = q.tree) : p.onWire = q.onWire := by
  cases custom : p.isCustom with
  | false =>
    have read : ∀ {r : Payload}, r.isCustom = false →
        ofReserved? r.typeName (Value.ofTree r.tree) = some (.ok r.onWire) := by
      intro r reserved
      have decoded := ofReserved?_tree (r.isCustom_onWire.trans reserved) r.configuration_onWire
      rw [typeName_onWire, tree_onWire] at decoded
      exact decoded
    have readP := read custom
    rw [typeName, tree, read (own.symm.trans custom)] at readP
    exact (Except.ok.inj (Option.some.inj readP)).symm
  | true =>
    rw [custom] at own
    cases p with
    | custom p =>
      cases q with
      | custom q =>
        obtain ⟨name, data⟩ := p
        obtain ⟨name', data'⟩ := q
        cases typeName
        cases Value.ext tree
        rfl
      | _ => cases own
    | _ => cases custom

end Payload

namespace Wire

/-- Content types are told apart by the identities that they announce. -/
lemma contentType_injective : Function.Injective contentType := by
  intro s t same
  have chars := congrArg String.toList same
  simp only [contentType, String.toList_append] at chars
  exact String.toList_inj.mp (List.append_cancel_left (List.append_cancel_right chars))

/-- Bodies are told apart by the sender and the tree of the payload. -/
lemma encode_eq {e e' : Event} (same : encode e = encode e') :
    e.sender = e'.sender ∧ e.payload.tree = e'.payload.tree := by
  obtain ⟨seq, sender, payload⟩ := e
  obtain ⟨seq', sender', payload'⟩ := e'
  have members := Json.object.inj same
  cases sender with
  | none =>
    cases sender' with
    | none => exact ⟨rfl, (Prod.mk.inj (List.cons.inj members).1).2⟩
    | some t => cases (List.cons.inj members).2
  | some s =>
    cases sender' with
    | none => cases (List.cons.inj members).2
    | some t =>
      obtain ⟨first, second⟩ := List.cons.inj members
      obtain rfl := Json.string.inj (Prod.mk.inj first).2
      exact ⟨rfl, (Prod.mk.inj (List.cons.inj second).1).2⟩

/-- The type identity tells whether an event is of an application's own type. -/
lemma isCustom_eq {e : Event} (free : e.payload.isCustom = true → isReserved e.typeName = false) :
    e.payload.isCustom = !isReserved e.typeName := by
  cases own : e.payload.isCustom with
  | false =>
    have reserved : isReserved e.typeName = true := isReserved_typeName own
    rw [reserved]
    rfl
  | true =>
    rw [free own]
    rfl

/-- Two events, neither of them of an application's own type under a reserved name, are sent as the
same content type and body exactly if their senders are the same and their payloads are, but for a
configuration of null in the place of none. -/
theorem encode_eq_iff {e e' : Event}
    (free : e.payload.isCustom = true → isReserved e.typeName = false)
    (free' : e'.payload.isCustom = true → isReserved e'.typeName = false) :
    contentType e.typeName = contentType e'.typeName ∧ (encode e).bytes = (encode e').bytes ↔
      e.sender = e'.sender ∧ e.payload.onWire = e'.payload.onWire := by
  constructor
  · rintro ⟨announced, bytes⟩
    have typeName : e.typeName = e'.typeName := contentType_injective announced
    obtain ⟨sender, tree⟩ := encode_eq (Json.bytes_injective bytes)
    have own : e.payload.isCustom = e'.payload.isCustom := by
      rw [isCustom_eq free, isCustom_eq free', typeName]
    exact ⟨sender, Payload.onWire_eq_of_tree typeName own tree⟩
  · rintro ⟨sender, payload⟩
    have typeName : e.typeName = e'.typeName := by
      rw [Event.typeName, Event.typeName, ← Payload.typeName_onWire, payload,
        Payload.typeName_onWire]
    have tree : e.payload.tree = e'.payload.tree := by
      rw [← Payload.tree_onWire, payload, Payload.tree_onWire]
    rw [typeName, encode, encode, sender, tree]
    exact ⟨rfl, rfl⟩

/-- An item that was added with a configuration. -/
def added (configuration : Option Value) : Event where
  seq := 0
  payload := .itemAdded
    { sourceItemUid := "lamp", pemUid := "pem", itemType := .actuator, configuration }

/-- It is of a type of the fabric. -/
lemma free_added (c : Option Value) :
    (added c).payload.isCustom = true → isReserved (added c).typeName = false := nofun

/-- Two configurations that are neighbouring floating-point numbers are told apart. -/
theorem encode_ne_neighbours :
    let tenth (last : Nat) (fits : Binary64.Fits (0x19999999999990 + last) (-56)) : Value :=
      .ofTree (.number (.real ⟨false, _, _, fits⟩))
    let e := added (some (tenth 10 (by decide)))
    let e' := added (some (tenth 11 (by decide)))
    ¬(contentType e.typeName = contentType e'.typeName ∧
      (encode e).bytes = (encode e').bytes) := by
  intro tenth e e' same
  have equal := ((encode_eq_iff (free_added _) (free_added _)).mp same).2
  cases equal

/-- A configuration of null is not told apart from none. -/
theorem not_encode_ne_null :
    ¬∀ e e' : Event, (e.payload.isCustom = true → isReserved e.typeName = false) →
      (e'.payload.isCustom = true → isReserved e'.typeName = false) →
      e.typeName ≠ e'.typeName ∨ e.sender ≠ e'.sender ∨ e.payload ≠ e'.payload →
      ¬(contentType e.typeName = contentType e'.typeName ∧
        (encode e).bytes = (encode e').bytes) := by
  intro apart
  refine apart (added none) (added (some .null)) (free_added _) (free_added _) (.inr (.inr ?_))
    ⟨rfl, rfl⟩
  intro same
  cases same

end Wire

end EventGates
