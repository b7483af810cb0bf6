import EventGates.Event.Decoding
import Mathlib.Tactic.Common

/-!
# Payloads are decoded from what they are written as

A payload is written as an object of its fields, and a receiver sees the value that this tree
denotes, with its members in order. Each decoder gives back the field that was written, so a payload
of a reserved type is decoded as itself; only a configuration of null is taken for an absent one.
-/

namespace EventGates

namespace Decoding

/-! ## Fields -/

/-- A list of texts is in order. -/
lemma canonicalise_texts (ss : List String) : (Json.texts ss).canonicalise = .texts ss := by
  apply Json.canonicalise_of_canonical
  rw [Json.texts, Json.Canonical, Json.canonicalItems_iff]
  intro x mem
  obtain ⟨s, -, rfl⟩ := List.mem_map.mp mem
  trivial

lemma canonicalise_string (s : String) : (Json.string s).canonicalise = .string s := by
  rw [Json.canonicalise]

/-- The properties of a payload are in order. -/
lemma canonicalise_members (ps : Properties) :
    (Json.object ps.members).canonicalise = .object ps.members :=
  Json.canonicalise_of_canonical ps.canonical

/-- An optional field is in order if what it may hold is. -/
lemma canonicalise_getD {α : Type} {tree : α → Json}
    (canonical : ∀ a, (tree a).canonicalise = tree a) (a : Option α) :
    ((a.map tree).getD .null).canonicalise = (a.map tree).getD .null := by
  cases a with
  | none => rfl
  | some a => exact canonical a

lemma texts_texts (ss : List String) : texts (.texts ss) = .ok ss := by
  show (ss.map Json.string).mapM text = .ok ss
  induction ss with
  | nil => rfl
  | cons s ss ih =>
    rw [List.map_cons, List.mapM_cons, ih]
    rfl

lemma object_members (ps : Properties) : object (.object ps.members) = .ok ps := by
  have same := Json.canonicalise_of_canonical ps.canonical
  rw [Json.canonicalise, Json.object.injEq] at same
  exact congrArg Except.ok (Properties.ext same)

lemma optional_texts (ss : Option (List String)) :
    optional texts ((ss.map Json.texts).getD .null) = .ok ss := by
  cases ss with
  | none => rfl
  | some ss =>
    show some <$> texts (.texts ss) = .ok (some ss)
    rw [texts_texts]
    rfl

/-- Null is not written for any configuration but null and none. -/
lemma optional_anything {v : Option Value} (present : v ≠ some .null) :
    optional anything ((v.map Value.tree).getD .null) = .ok v := by
  cases v with
  | none => rfl
  | some v =>
    obtain ⟨x, canonical⟩ := v
    have same := Json.canonicalise_of_canonical canonical
    have decoded : optional anything x = some <$> anything x := by
      cases x with
      | null => exact absurd rfl present
      | bool b => rfl
      | number n => rfl
      | string s => rfl
      | array xs => rfl
      | object ms => rfl
    show optional anything x = _
    rw [decoded]
    exact congrArg (fun v => Except.ok (some v)) (Value.ext same)

lemma itemType_wireName (t : ItemType) : itemType (.string t.wireName) = .ok t := by
  cases t <;> rfl

lemma capabilitySelection_wireName (c : CapabilitySelection) :
    capabilitySelection (.string c.wireName) = .ok c := by
  cases c <;> rfl

end Decoding

/-! ## Payloads -/

open Decoding

/-- A payload that announces an item is decoded as itself. -/
lemma NewItem.decode_tree (p : NewItem) :
    NewItem.decode (Value.ofTree (Payload.newItem p).tree).tree = .ok p := by
  show NewItem.ofMembers _ = _
  simp only [Members.ofList, Json.canonicaliseMembers, canonicalise_string, canonicalise_texts,
    List.foldl_cons, List.foldl_nil, NewItem.ofMembers, member?, Members.find?_insert,
    String.reduceEq, if_true, if_false, texts_texts, capabilitySelection_wireName,
    itemType_wireName, text]
  rfl

/-- A payload that asks for an item is decoded as itself. -/
lemma AddItem.decode_tree (p : AddItem) :
    AddItem.decode (Value.ofTree (Payload.addItem p).tree).tree = .ok p := by
  show AddItem.ofMembers _ = _
  simp only [Members.ofList, Json.canonicaliseMembers, canonicalise_string, canonicalise_members,
    canonicalise_getD canonicalise_texts,
    List.foldl_cons, List.foldl_nil, AddItem.ofMembers, member?, Members.find?_insert,
    String.reduceEq, if_true, if_false, optional_texts, object_members, text]
  rfl

/-- A payload that confirms an item is decoded as itself. -/
lemma ItemAdded.decode_tree {p : ItemAdded} (present : p.configuration ≠ some .null) :
    ItemAdded.decode (Value.ofTree (Payload.itemAdded p).tree).tree = .ok p := by
  show ItemAdded.ofMembers _ = _
  simp only [Members.ofList, Json.canonicaliseMembers, canonicalise_string, canonicalise_members,
    canonicalise_texts, canonicalise_getD fun v : Value => Json.canonicalise_of_canonical v.canonical,
    List.foldl_cons, List.foldl_nil, ItemAdded.ofMembers, member?, Members.find?_insert,
    String.reduceEq, if_true, if_false, optional_anything present, object_members, texts_texts,
    itemType_wireName, text]
  rfl

/-- Something is decoded, or refused, exactly under a reserved name. -/
lemma Payload.isSome_ofReserved? (typeName : String) (value : Value) :
    (Payload.ofReserved? typeName value).isSome = isReserved typeName := by
  rw [Payload.ofReserved?, isReserved]
  split
  · next new => simp [new]
  next notNew =>
  split
  · next add => simp [add]
  next notAdd =>
  split
  · next added => simp [added]
  · next notAdded => simp [notNew, notAdd, notAdded]

/-- A payload of the reserved type with a name is decoded from a tree. -/
inductive Payload.Decoded (x : Json) : String → Payload → Prop where
  | newItem {p : NewItem} :
    NewItem.decode x = .ok p →
    Decoded x NewItem.typeName (.newItem p)
  | addItem {p : AddItem} :
    AddItem.decode x = .ok p →
    Decoded x AddItem.typeName (.addItem p)
  | itemAdded {p : ItemAdded} :
    ItemAdded.decode x = .ok p →
    Decoded x ItemAdded.typeName (.itemAdded p)

/-- What is decoded under a reserved name is a payload of that type. -/
lemma Payload.decoded_of_ofReserved? {typeName : String} {v : Value} {p : Payload}
    (made : Payload.ofReserved? typeName v = some (.ok p)) : Decoded v.tree typeName p := by
  have decoded {α : Type} {result : Except DecodeError α} {f : α → Payload}
      (made : some (f <$> result) = some (.ok p)) : ∃ a, result = .ok a ∧ f a = p := by
    cases result with
    | error e => cases made
    | ok a =>
      cases made
      exact ⟨a, rfl, rfl⟩
  rw [Payload.ofReserved?] at made
  split at made
  · next same =>
    obtain ⟨q, read, rfl⟩ := decoded made
    rw [same]
    exact .newItem read
  split at made
  · next same =>
    obtain ⟨q, read, rfl⟩ := decoded made
    rw [same]
    exact .addItem read
  split at made
  · next same =>
    obtain ⟨q, read, rfl⟩ := decoded made
    rw [same]
    exact .itemAdded read
  cases made

lemma Payload.Decoded.typeName_eq {x : Json} {typeName : String} {p : Payload}
    (decoded : Decoded x typeName p) : p.typeName = typeName := by
  cases decoded <;> rfl

lemma Payload.Decoded.isCustom_eq {x : Json} {typeName : String} {p : Payload}
    (decoded : Decoded x typeName p) : p.isCustom = false := by
  cases decoded <;> rfl

/-- What a payload of a reserved type is written as is decoded as that payload. -/
theorem Payload.ofReserved?_tree {p : Payload} (reserved : p.isCustom = false)
    (present : ∀ q, p = .itemAdded q → q.configuration ≠ some .null) :
    Payload.ofReserved? p.typeName (Value.ofTree p.tree) = some (.ok p) := by
  cases p with
  | newItem q =>
    show some (Payload.newItem <$> NewItem.decode _) = _
    rw [NewItem.decode_tree]
    rfl
  | addItem q =>
    show some (Payload.addItem <$> AddItem.decode _) = _
    rw [AddItem.decode_tree]
    rfl
  | itemAdded q =>
    show some (Payload.itemAdded <$> ItemAdded.decode _) = _
    rw [ItemAdded.decode_tree (present q rfl)]
    rfl
  | custom q => cases reserved

end EventGates
