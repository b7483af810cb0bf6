import EventGates.Proofs.Event.Rebuilding
import EventGates.Proofs.Wire.Acceptance
import EventGates.Proofs.Wire.RoundTrip

/-!
# Forwarding

A body may hold more than an event needs, in any order, and leave out what has a default; what is
rebuilt of it is written in one way only. Writing it again loses nothing: the body that is written
nests no more deeply than readers allow, since the one that was read did not, and the same payload and
sender are read of it (`Catalogue.read_forwarded`).
-/

namespace EventGates.Wire

open Text (Bytes)
open Json.Grammar

/-! ## How deeply the event in a body nests -/

namespace Envelope

/-- The event among the members of an object nests within the limit. -/
lemma depth_le_of_spellsObject {x : Json} {sender : Option String} {body : Bytes}
    (object : SpellsObject x sender body) : x.depth ≤ eventDepth := by
  obtain ⟨-, members, -, found, -, -⟩ := object
  obtain ⟨⟨key, e⟩, mem, same⟩ :=
    List.mem_filterMap.mp (show x ∈ events _ from found ▸ List.mem_cons_self)
  obtain ⟨_, member⟩ := members.exists_spelling _ mem
  obtain ⟨text, entry⟩ := member.exists_spelling
  cases entry with
  | sender spells => cases same
  | event spells =>
    cases same
    exact spells.depth_le
  | other noSender noEvent passed => cases same

/-- The event behind a sender nests within the limit. -/
lemma depth_le_of_spellsPair {x : Json} {sender : Option String} {body : Bytes}
    (pair : SpellsPair x sender body) : x.depth ≤ eventDepth := by
  obtain ⟨-, -, -, led, -, -⟩ := pair
  obtain ⟨w, tok, -, spells, -⟩ := led
  exact spells.depth_le

end Envelope

/-- What is read of a body nests within the limit for events. -/
lemma depth_le_of_parseBody {body : Bytes} {v : Value} {sender : Option String}
    (parsed : parseBody body = .ok (v, sender)) : v.tree.depth ≤ Envelope.eventDepth := by
  obtain ⟨x, rfl, object | pair⟩ := parseBody_eq_ok_iff.mp parsed
  · exact Nat.le_trans x.depth_canonicalise_le (Envelope.depth_le_of_spellsObject object)
  · exact Nat.le_trans x.depth_canonicalise_le (Envelope.depth_le_of_spellsPair pair)

/-- A body nests one level more deeply than its event. -/
lemma depth_encode (e : Event) : (encode e).depth = e.payload.tree.depth + 1 := by
  obtain ⟨seq, sender, payload⟩ := e
  cases sender with
  | none => simp [encode, Json.depth, Json.depthMembers]
  | some sender => simp [encode, Json.depth, Json.depthMembers]

/-! ## Writing again what was read -/

namespace Catalogue

variable {c : Catalogue} {typeName : String} {body : Bytes} {d : Draft}

/-- What was read can be written within the limit for events. -/
lemma depth_tree_le_of_read (read : c.read typeName body = .ok (some d)) :
    d.payload.tree.depth ≤ Envelope.eventDepth := by
  cases reading_of_read read with
  | custom told parsed => exact depth_le_of_parseBody parsed
  | reserved untold reserved parsed decoded =>
    apply Nat.le_trans decoded.depth_tree_le
    apply Nat.max_le.mpr
    exact ⟨by decide, depth_le_of_parseBody parsed⟩

/-- A configuration is never read as null. -/
lemma configuration_ne_null_of_read (read : c.read typeName body = .ok (some d)) :
    ∀ p, d.payload = .itemAdded p → p.configuration ≠ some .null := by
  intro p added
  cases reading_of_read read with
  | custom told parsed => cases added
  | reserved untold reserved parsed decoded =>
    cases added
    exact decoded.configuration_ne_null

/-- What was read of a body of a known type, in whatever way it was written, can be written again:
that takes no more levels than a reader allows, no item is confirmed with a configuration of null, and
without floating-point numbers the same payload and sender are read again. -/
theorem read_forwarded (c : Catalogue) (typeName : String) (body : Bytes) (d : Draft) (seq : Nat)
    (read : c.read typeName body = .ok (some d)) :
    (encode (d.number seq)).depth ≤ Json.Reader.depthLimit ∧
      (∀ p, d.payload = .itemAdded p → p.configuration ≠ some .null) ∧
      (d.payload.tree.floatFree = true →
        c.read typeName (encode (d.number seq)).bytes = .ok (some d)) := by
  have deep : (encode (d.number seq)).depth ≤ Json.Reader.depthLimit := by
    rw [depth_encode]
    exact Nat.succ_le_succ (depth_tree_le_of_read read)
  have present := configuration_ne_null_of_read read
  refine ⟨deep, present, fun free => ?_⟩
  have again : parseBody (encode (d.number seq)).bytes = .ok (.ofTree d.payload.tree, d.sender) :=
    parseBody_encode (floatFree_encode free) deep
  cases reading_of_read read with
  | @custom v sender told parsed =>
    have whole : Value.ofTree (Payload.ofCustom typeName v).tree = v := Value.ofTree_tree v
    rw [whole] at again
    exact read_of_told told again
  | @reserved v sender p untold reserved parsed decoded =>
    have same := Payload.ofReserved?_tree decoded.isCustom_eq present
    rw [decoded.typeName_eq] at same
    exact read_of_decoded untold reserved again same

/-- An event in which a member is unknown, one is given twice and one is left out. -/
def untidyEvent : Json := .object
  [("userProperties", .object
      [("b", .number (.natural 1)), ("a", .array []), ("b", .number (.negative 1))]),
    ("z", .null), ("sourceItemUid", .string "lamp")]

/-- A member of the envelope that is unknown, and what is untidy in the event, are no part of what is
forwarded. -/
theorem read_forwarded_untidy :
    let body := Text.encodeString ("\x7b\"x\":[1.5],\"event\":\x7b\"userProperties\":" ++
      "\x7b\"b\":1,\"a\":[],\"b\":-2\x7d,\"z\":null,\"sourceItemUid\":\"lamp\"\x7d,\"sender\":\"h:1\"\x7d")
    let d : Draft :=
      { payload := .addItem
          { sourceItemUid := "lamp"
            userProperties := .ofMembers [("a", .array []), ("b", .number (.negative 1))] }
        sender := some "h:1" }
    (ofList []).read AddItem.typeName body = .ok (some d) ∧
      (encode (d.number 3)).depth ≤ Json.Reader.depthLimit ∧
      (ofList []).read AddItem.typeName (encode (d.number 3)).bytes = .ok (some d) := by
  intro body d
  have parsed : parseBody body = .ok (.ofTree untidyEvent, some "h:1") := rfl
  have tidied : (Value.ofTree untidyEvent).tree = .object
      [("sourceItemUid", .string "lamp"),
        ("userProperties", .object [("a", .array []), ("b", .number (.negative 1))]),
        ("z", .null)] := rfl
  have decoded : Payload.ofReserved? AddItem.typeName (.ofTree untidyEvent) =
      some (.ok d.payload) := by
    show some (Payload.addItem <$> AddItem.decode _) = _
    rw [tidied]
    rfl
  have read : (ofList []).read AddItem.typeName body = .ok (some d) :=
    read_of_decoded List.not_mem_nil rfl parsed decoded
  obtain ⟨deep, -, again⟩ := read_forwarded (ofList []) AddItem.typeName body d 3 read
  exact ⟨read, deep, again rfl⟩

end Catalogue

end EventGates.Wire
