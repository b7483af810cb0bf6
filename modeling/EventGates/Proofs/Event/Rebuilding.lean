import EventGates.Proofs.Event.Decoding
import EventGates.Proofs.Json.Nesting

/-!
# What payloads are rebuilt from

A field of a payload is decoded from a value right inside the one that the payload is rebuilt from,
or it has its default (`Field`), whether the fields stand in an object or in an array. So nothing that
is rebuilt needs more levels to be written than what it was rebuilt from had, but for the two that
every payload takes (`Payload.Decoded.depth_tree_le`), and null is never rebuilt as a configuration
(`Payload.Decoded.configuration_ne_null`).
-/

namespace EventGates

namespace Json

/-- The values right inside an array or an object. -/
def parts : Json → List Json
  | .array xs => xs
  | .object ms => ms.map Prod.snd
  | _ => []

/-- What is inside a value nests less deeply. -/
lemma depth_lt_of_mem_parts {x y : Json} (mem : y ∈ x.parts) : y.depth < x.depth := by
  cases x with
  | array xs =>
    rw [depth]
    exact Nat.lt_succ_of_le (depth_le_depthItems mem)
  | object ms =>
    obtain ⟨m, there, rfl⟩ := List.mem_map.mp mem
    rw [depth]
    exact Nat.lt_succ_of_le (depth_le_depthMembers there)
  | _ => cases mem

end Json

namespace Decoding

variable {α : Type}

/-! ## Fields -/

/-- A field is decoded from something inside a value, or it has its default. -/
inductive Field (decoder : Decoder α) (default : α) (x : Json) : α → Prop where
  | absent : Field decoder default x default
  | present {y : Json} {a : α} :
    y ∈ x.parts →
    decoder y = .ok a →
    Field decoder default x a

/-- A member of an object that need not be there is a field. -/
lemma field_of_member? {ms : Members} {key : String} {decoder : Decoder α} {a : Option α}
    (default : α) (read : member? ms key decoder = .ok a) :
    Field decoder default (.object ms) (a.getD default) := by
  rw [member?] at read
  split at read
  · cases read
    exact .absent
  · next y found =>
    cases decoded : decoder y with
    | error e =>
      rw [decoded] at read
      cases read
    | ok b =>
      rw [decoded] at read
      cases read
      apply Field.present _ decoded
      obtain ⟨before, after, rfl, -⟩ := List.lookup_eq_some_iff.mp found
      exact List.mem_map.mpr ⟨(key, y), List.mem_append_right _ List.mem_cons_self, rfl⟩

/-- An item of an array that need not be there is a field. -/
lemma field_of_itemOr {xs : List Json} {index : Nat} {decoder : Decoder α} {default a : α}
    (read : itemOr xs index default decoder = .ok a) : Field decoder default (.array xs) a := by
  rw [itemOr] at read
  split at read
  · cases read
    exact .absent
  · next y found => exact .present (List.mem_of_getElem? found) read

/-- The properties of a payload nest less deeply than what they are rebuilt from, or are empty. -/
lemma Field.depth_properties_lt {x : Json} {ps : Properties} (field : Field object .empty x ps) :
    (Json.object ps.members).depth < max 2 x.depth := by
  cases field with
  | absent => exact Nat.lt_of_lt_of_le (show 1 < 2 by decide) (Nat.le_max_left ..)
  | @present y _ mem decoded =>
    have inside := Json.depth_lt_of_mem_parts mem
    cases y with
    | object ms =>
      cases decoded
      have same : Json.object (Properties.ofMembers ms).members = (Json.object ms).canonicalise := by
        rw [Json.canonicalise]
        rfl
      have kept := (Json.object ms).depth_canonicalise_le
      rw [← same] at kept
      exact Nat.lt_of_le_of_lt kept (Nat.lt_of_lt_of_le inside (Nat.le_max_right ..))
    | _ => cases decoded

/-- A configuration is decoded from anything but null. -/
lemma optional_anything_cases {y : Json} {c : Option Value}
    (decoded : optional anything y = .ok c) :
    y = .null ∧ c = none ∨ y ≠ .null ∧ c = some (.ofTree y) := by
  cases y with
  | null =>
    cases decoded
    exact .inl ⟨rfl, rfl⟩
  | _ =>
    cases decoded
    exact .inr ⟨nofun, rfl⟩

/-- Only null denotes null. -/
lemma ofTree_ne_null {y : Json} (other : y ≠ .null) : Value.ofTree y ≠ .null := by
  intro same
  have trees : y.canonicalise = .null := congrArg Value.tree same
  cases y with
  | null => exact other rfl
  | _ =>
    rw [Json.canonicalise] at trees
    cases trees

/-- A configuration is never rebuilt as null. -/
lemma Field.configuration_ne_null {x : Json} {c : Option Value}
    (field : Field (optional anything) none x c) : c ≠ some .null := by
  cases field with
  | absent => nofun
  | present mem decoded =>
    obtain ⟨-, rfl⟩ | ⟨other, rfl⟩ := optional_anything_cases decoded
    · nofun
    · rw [ne_eq, Option.some_inj]
      exact ofTree_ne_null other

/-- A configuration nests less deeply than what it is rebuilt from, if it nests at all. -/
lemma Field.depth_configuration_lt {x : Json} {c : Option Value}
    (field : Field (optional anything) none x c) :
    ((c.map Value.tree).getD .null).depth < max 2 x.depth := by
  have nothing : Json.null.depth < max 2 x.depth :=
    Nat.lt_of_lt_of_le (show 0 < 2 by decide) (Nat.le_max_left ..)
  cases field with
  | absent => exact nothing
  | @present y _ mem decoded =>
    obtain ⟨-, rfl⟩ | ⟨-, rfl⟩ := optional_anything_cases decoded
    · exact nothing
    · have inside := Nat.lt_of_le_of_lt y.depth_canonicalise_le (Json.depth_lt_of_mem_parts mem)
      exact Nat.lt_of_lt_of_le inside (Nat.le_max_right ..)

end Decoding

/-! ## Payloads -/

open Decoding

/-- The properties of a request for an item are a field, in an object or in an array. -/
lemma AddItem.field_of_decode {x : Json} {p : AddItem} (decoded : AddItem.decode x = .ok p) :
    Field object .empty x p.userProperties := by
  cases x with
  | object ms =>
    obtain ⟨capabilities, -, decoded⟩ := bind_eq_ok_iff.mp decoded
    obtain ⟨source, -, decoded⟩ := bind_eq_ok_iff.mp decoded
    obtain ⟨properties, here, decoded⟩ := bind_eq_ok_iff.mp decoded
    obtain ⟨uid, -, same⟩ := bind_eq_ok_iff.mp decoded
    cases same
    exact field_of_member? .empty here
  | array xs =>
    obtain ⟨source, -, decoded⟩ := bind_eq_ok_iff.mp decoded
    obtain ⟨properties, here, decoded⟩ := bind_eq_ok_iff.mp decoded
    obtain ⟨capabilities, -, decoded⟩ := bind_eq_ok_iff.mp decoded
    obtain ⟨_, -, same⟩ := bind_eq_ok_iff.mp decoded
    cases same
    exact field_of_itemOr here
  | _ => cases decoded

/-- The properties and the configuration of an item are fields, in an object or in an array. -/
lemma ItemAdded.fields_of_decode {x : Json} {p : ItemAdded} (decoded : ItemAdded.decode x = .ok p) :
    Field object .empty x p.userProperties ∧ Field (optional anything) none x p.configuration := by
  cases x with
  | object ms =>
    obtain ⟨capabilities, -, decoded⟩ := bind_eq_ok_iff.mp decoded
    obtain ⟨configuration, there, decoded⟩ := bind_eq_ok_iff.mp decoded
    obtain ⟨kind, -, decoded⟩ := bind_eq_ok_iff.mp decoded
    obtain ⟨pem, -, decoded⟩ := bind_eq_ok_iff.mp decoded
    obtain ⟨source, -, decoded⟩ := bind_eq_ok_iff.mp decoded
    obtain ⟨properties, here, decoded⟩ := bind_eq_ok_iff.mp decoded
    obtain ⟨uid, -, decoded⟩ := bind_eq_ok_iff.mp decoded
    obtain ⟨pemUid, -, decoded⟩ := bind_eq_ok_iff.mp decoded
    obtain ⟨itemType, -, same⟩ := bind_eq_ok_iff.mp decoded
    cases same
    refine ⟨field_of_member? .empty here, ?_⟩
    cases configuration with
    | none => exact field_of_member? none there
    | some c => exact field_of_member? none there
  | array xs =>
    obtain ⟨source, -, decoded⟩ := bind_eq_ok_iff.mp decoded
    obtain ⟨pem, -, decoded⟩ := bind_eq_ok_iff.mp decoded
    obtain ⟨kind, -, decoded⟩ := bind_eq_ok_iff.mp decoded
    obtain ⟨properties, here, decoded⟩ := bind_eq_ok_iff.mp decoded
    obtain ⟨capabilities, -, decoded⟩ := bind_eq_ok_iff.mp decoded
    obtain ⟨configuration, there, decoded⟩ := bind_eq_ok_iff.mp decoded
    obtain ⟨_, -, same⟩ := bind_eq_ok_iff.mp decoded
    cases same
    exact ⟨field_of_itemOr here, field_of_itemOr there⟩
  | _ => cases decoded

namespace Payload

variable {x : Json} {typeName : String} {p : Payload}

/-- A list of texts nests one level. -/
lemma depth_texts (ss : List String) : (Json.texts ss).depth ≤ 1 := by
  rw [Json.texts, Json.depth]
  apply Nat.succ_le_succ
  apply Json.depthItems_le_iff.mpr
  intro y mem
  obtain ⟨s, -, rfl⟩ := List.mem_map.mp mem
  exact Nat.zero_le 0

/-- What is rebuilt nests no more deeply, as it is written, than what it was rebuilt from, if that
nests in two levels at least. -/
lemma Decoded.depth_tree_le (decoded : Decoded x typeName p) : p.tree.depth ≤ max 2 x.depth := by
  cases decoded with
  | @newItem p made =>
    have capabilities := depth_texts p.capabilities
    simp only [tree, Json.depth, Json.depthMembers]
    omega
  | @addItem p made =>
    have properties := (AddItem.field_of_decode made).depth_properties_lt
    have capabilities : ((p.capabilities.map Json.texts).getD .null).depth ≤ 1 := by
      cases p.capabilities with
      | none => exact Nat.zero_le 1
      | some ss => exact depth_texts ss
    simp only [tree, Json.depth, Json.depthMembers] at properties ⊢
    omega
  | @itemAdded p made =>
    obtain ⟨properties, configuration⟩ := ItemAdded.fields_of_decode made
    have properties := properties.depth_properties_lt
    have configuration := configuration.depth_configuration_lt
    have capabilities := depth_texts p.capabilities
    simp only [tree, Json.depth, Json.depthMembers] at properties ⊢
    omega

/-- Null is never rebuilt as a configuration. -/
lemma Decoded.configuration_ne_null {q : ItemAdded}
    (decoded : Decoded x typeName (.itemAdded q)) : q.configuration ≠ some .null := by
  cases decoded with
  | itemAdded made => exact (ItemAdded.fields_of_decode made).2.configuration_ne_null

end Payload

end EventGates
