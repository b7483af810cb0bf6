import EventGates.Proofs.Json.ReadBack
import EventGates.Proofs.Wire.Catalogue
import EventGates.Proofs.Wire.Names

/-!
# What is sent arrives

An envelope is written as an object of the sender, if there is one, and the tree of the payload, and
takes one level of the nesting that readers allow. It is read back as these two. So a receiver that
knows the type of an event rebuilds its payload and sender from the name that the content type
announces and the bytes of the body.
-/

namespace EventGates.Wire

open Text (Bytes)

namespace Envelope

open Json.Reader (ReadsBack endsNumeral encode_key_append)

lemma part_of_ok {α : Type} {r : Json.Reader α} {bs : Bytes} {x : α × Bytes} (h : r bs = .ok x) :
    part r bs = .ok x := by
  rw [part, h]

/-- A sender is read back. -/
lemma memberPart_sender (sender : String) (rest : Bytes) :
    ∃ body, Text.encode (Json.stringText "sender" ++ ':' :: Json.stringText sender) = 0x22 :: body ∧
      memberPart {} (body ++ rest) = .ok ({ sender := some (some sender) }, rest) := by
  obtain ⟨value, written, read⟩ := Json.Reader.stringBody_stringText sender rest
  obtain ⟨key, writtenKey, readKey⟩ :=
    Json.Reader.stringBody_stringText "sender" (0x3A :: 0x22 :: (value ++ rest))
  refine ⟨key ++ 0x3A :: 0x22 :: value, ?_, ?_⟩
  · rw [Text.encode_append, writtenKey, Text.encode_cons, written]
    rfl
  · have here : senderPart (0x22 :: (value ++ rest)) = .ok (some sender, rest) := by
      show (part Json.Reader.stringBody (value ++ rest) >>= fun r => .ok (some r.1, r.2)) = _
      rw [part_of_ok read]
      rfl
    rw [List.append_assoc, List.cons_append, List.cons_append, memberPart, part_of_ok readKey]
    show (senderPart (0x22 :: (value ++ rest)) >>= fun r =>
      .ok (({ sender := some r.1 } : Partial), r.2)) = _
    rw [here]
    rfl

/-- The tree of an event is read back. -/
lemma memberPart_event {seen : Partial} (fresh : seen.event = none) {x : Json}
    (read : ReadsBack (Json.Reader.valueWithin eventDepth) x) {rest : Bytes}
    (stop : endsNumeral rest = true) :
    ∃ body, Text.encode (Json.stringText "event" ++ ':' :: x.chars) = 0x22 :: body ∧
      memberPart seen (body ++ rest) = .ok ({ seen with event := some x }, rest) := by
  obtain ⟨key, writtenKey, readKey⟩ :=
    Json.Reader.stringBody_stringText "event" (0x3A :: (Text.encode x.chars ++ rest))
  refine ⟨key ++ 0x3A :: Text.encode x.chars, ?_, ?_⟩
  · rw [Text.encode_append, writtenKey]
    rfl
  · have other : ¬"event" = "sender" := by decide
    have here : eventPart (Text.encode x.chars ++ rest) = .ok (x, rest) :=
      part_of_ok (read rest stop)
    rw [List.append_assoc, List.cons_append, memberPart, part_of_ok readKey]
    simp only [bind, Except.bind, other, if_false, if_true, fresh, Option.isSome_none,
      Bool.false_eq_true]
    show (eventPart (Text.encode x.chars ++ rest) >>= fun r =>
      .ok ({ seen with event := some r.1 }, r.2)) = _
    rw [here]
    rfl

/-- An envelope is what its members say. -/
lemma read_of_members {bs : Bytes} {x : Json} {sender : Option (Option String)}
    (h : members bs = .ok (⟨sender, some x⟩, [0x7D])) :
    Envelope.read (0x7B :: bs) = .ok ⟨x, sender.join⟩ := by
  have whole : envelopePart (0x7B :: bs) = .ok (⟨x, sender.join⟩, []) := by
    show objectPart bs = _
    rw [objectPart, h]
    rfl
  rw [Envelope.read, whole]
  rfl

/-- What is written of an event is read back as the tree of its payload and its sender. -/
lemma read_encode {e : Event} (read : ReadsBack (Json.Reader.valueWithin eventDepth) e.payload.tree) :
    Envelope.read (encode e).bytes = .ok ⟨e.payload.tree, e.sender⟩ := by
  obtain ⟨seq, sender, payload⟩ := e
  change ReadsBack _ payload.tree at read
  have brace : endsNumeral [0x7D] = true := rfl
  cases sender with
  | none =>
    obtain ⟨event, written, here⟩ :=
      memberPart_event (show ({} : Partial).event = none from rfl) read brace
    have bytes : (encode ⟨seq, none, payload⟩).bytes = 0x7B :: 0x22 :: (event ++ [0x7D]) := by
      show Text.encode ('\x7b' :: (Json.stringText "event" ++ ':' :: (payload.tree.chars ++ _))) = _
      rw [Text.encode_cons, encode_key_append, written]
      rfl
    have all : members (0x22 :: (event ++ [0x7D])) = .ok (⟨none, some payload.tree⟩, [0x7D]) := by
      show (memberPart {} (event ++ [0x7D]) >>= fun r => moreMembers (0 :: r.2) r.1 r.2) = _
      rw [here]
      rfl
    rw [bytes]
    exact read_of_members all
  | some sender =>
    obtain ⟨event, written, here⟩ :=
      memberPart_event (show (⟨some (some sender), none⟩ : Partial).event = none from rfl) read brace
    obtain ⟨first, writtenSender, readSender⟩ :=
      memberPart_sender sender (0x2C :: 0x22 :: (event ++ [0x7D]))
    have bytes : (encode ⟨seq, some sender, payload⟩).bytes =
        0x7B :: 0x22 :: (first ++ 0x2C :: 0x22 :: (event ++ [0x7D])) := by
      show Text.encode ('\x7b' :: (Json.stringText "sender" ++ ':' :: (Json.stringText sender ++
        ',' :: (Json.stringText "event" ++ ':' :: (payload.tree.chars ++ _))))) = _
      rw [Text.encode_cons, encode_key_append, writtenSender, Text.encode_cons, encode_key_append,
        written]
      rfl
    have all : members (0x22 :: (first ++ 0x2C :: 0x22 :: (event ++ [0x7D]))) =
        .ok (⟨some (some sender), some payload.tree⟩, [0x7D]) := by
      show (memberPart {} (first ++ 0x2C :: 0x22 :: (event ++ [0x7D])) >>= fun r =>
        moreMembers (0 :: r.2) r.1 r.2) = _
      rw [readSender]
      show (memberPart { sender := some (some sender) } (event ++ [0x7D]) >>= fun r =>
        moreMembers (0x2C :: 0x22 :: (event ++ [0x7D])) r.1 r.2) = _
      rw [here]
      rfl
    rw [bytes]
    exact read_of_members all

end Envelope

/-- The type identity of a payload that is not of an application's own type is reserved. -/
lemma isReserved_typeName {p : Payload} (h : p.isCustom = false) : isReserved p.typeName = true := by
  cases p with
  | newItem p => rfl
  | addItem p => rfl
  | itemAdded p => rfl
  | custom p => cases h

/-- A body holds the tree of the payload. -/
lemma mem_encode (e : Event) : ∃ ms, encode e = .object ms ∧ ("event", e.payload.tree) ∈ ms := by
  refine ⟨_, rfl, ?_⟩
  cases e.sender with
  | none => exact List.mem_cons_self
  | some sender => exact List.mem_cons_of_mem _ List.mem_cons_self

/-- A body holds no floating-point number if its event does not. -/
lemma floatFree_encode {e : Event} (free : e.payload.tree.floatFree = true) :
    (encode e).floatFree = true := by
  obtain ⟨seq, sender, payload⟩ := e
  change payload.tree.floatFree = true at free
  cases sender with
  | none => simp [encode, Json.floatFree, Json.floatFreeMembers, free]
  | some sender => simp [encode, Json.floatFree, Json.floatFreeMembers, free]

/-- A body gives back the value of its event and the sender. -/
lemma parseBody_encode {e : Event} (free : (encode e).floatFree = true)
    (deep : (encode e).depth ≤ Json.Reader.depthLimit) :
    parseBody (encode e).bytes = .ok (.ofTree e.payload.tree, e.sender) := by
  obtain ⟨ms, written, mem⟩ := mem_encode e
  rw [written, Json.floatFree, Json.floatFreeMembers_iff] at free
  rw [written, Json.depth] at deep
  have inside : e.payload.tree.depth ≤ Envelope.eventDepth :=
    Nat.le_trans (Json.depth_le_depthMembers mem) (Nat.le_of_succ_le_succ deep)
  rw [parseBody, Envelope.read_encode (Json.Reader.valueWithin_chars (free _ mem) inside)]
  rfl

namespace Catalogue

/-- The types that a catalogue was told of are none of the reserved ones. -/
lemma not_isReserved_of_mem_ofList {names : List String} {typeName : String}
    (mem : typeName ∈ (ofList names).custom) : isReserved typeName = false :=
  (mem_custom_ofList.mp mem).2

/-- A body of a reserved type is decoded. -/
lemma read_reserved {names : List String} {typeName : String} {body : Bytes} {value : Value}
    {sender : Option String} {payload : Payload} (reserved : isReserved typeName = true)
    (parsed : parseBody body = .ok (value, sender))
    (decoded : Payload.ofReserved? typeName value = some (.ok payload)) :
    (ofList names).read typeName body = .ok (some ⟨payload, sender⟩) := by
  apply read_of_decoded _ reserved parsed decoded
  intro told
  rw [not_isReserved_of_mem_ofList told] at reserved
  cases reserved

/-- A body of an application's own type is taken as it is. -/
lemma read_custom {c : Catalogue} {typeName : String} {body : Bytes} {value : Value}
    {sender : Option String} (known : c.knows typeName = true) (free : isReserved typeName = false)
    (parsed : parseBody body = .ok (value, sender)) :
    c.read typeName body = .ok (some ⟨.ofCustom typeName value, sender⟩) := by
  apply read_of_told _ parsed
  rw [knows, free, Bool.false_or] at known
  exact List.contains_iff_mem.mp known

/-- A receiver that knows the type of an event rebuilds its payload and its sender from the name that
the content type announces and the bytes of the body, unless the event holds floating-point numbers,
nests too deeply, confirms an item with a configuration of null, or is of an application's own type
with a reserved name or one that is not announceable. -/
theorem read_bytes_encode (names : List String) (e : Event) (free : (encode e).floatFree = true)
    (deep : (encode e).depth ≤ Json.Reader.depthLimit)
    (present : ∀ p, e.payload = .itemAdded p → p.configuration ≠ some .null)
    (custom : ∀ p, e.payload = .custom p →
      Announceable p.typeName ∧ isReserved p.typeName = false)
    (known : (ofList names).knows e.typeName = true) :
    ∃ name, typeIdentity? (contentType e.typeName) = some name ∧
      (ofList names).read name (encode e).bytes = .ok (some ⟨e.payload, e.sender⟩) := by
  have body := parseBody_encode free deep
  have announced : Announceable e.typeName →
      typeIdentity? (contentType e.typeName) = some e.typeName := by
    rw [typeIdentity?_contentType]
    exact announcedName?_toList_iff.mpr
  cases own : e.payload.isCustom with
  | false =>
    have reserved : isReserved e.typeName = true := isReserved_typeName own
    refine ⟨e.typeName, announced (.of_isReserved reserved), ?_⟩
    have untold : (ofList names).custom.contains e.typeName = false := by
      cases told : (ofList names).custom.contains e.typeName with
      | false => rfl
      | true =>
        rw [not_isReserved_of_mem_ofList (List.contains_iff_mem.mp told)] at reserved
        cases reserved
    have decoded : Payload.ofReserved? e.typeName (Value.ofTree e.payload.tree) =
      some (.ok e.payload) := Payload.ofReserved?_tree own present
    rw [read, known, body]
    simp only [Bool.not_true, Bool.false_eq_true, if_false, untold, decoded]
  | true =>
    obtain ⟨seq, sender, payload⟩ := e
    cases payload with
    | newItem p => cases own
    | addItem p => cases own
    | itemAdded p => cases own
    | custom p =>
      obtain ⟨announceable, free⟩ := custom p rfl
      refine ⟨p.typeName, announced announceable, ?_⟩
      have told : (ofList names).custom.contains p.typeName = true := by
        have either : (isReserved p.typeName || (ofList names).custom.contains p.typeName) = true :=
          known
        rwa [free, Bool.false_or] at either
      have whole : Value.ofTree (Payload.custom p).tree = p.data := Value.ofTree_tree p.data
      have known : (ofList names).knows p.typeName = true := known
      rw [read, known, body]
      simp only [Bool.not_true, Bool.false_eq_true, if_false, told, if_true, whole]
      rfl

/-- Data with a sender of its own is not taken for the envelope. -/
theorem read_bytes_encode_own_sender :
    let e : Event := ⟨0, some "127.0.0.1:8080", .custom ⟨"demo.Reading",
      .ofTree (.object [("sender", .array [.string "\n\"", .number (.negative 2), .null])])⟩⟩
    ∃ name, typeIdentity? (contentType e.typeName) = some name ∧
      (ofList ["demo.Other", "demo.Reading"]).read name (encode e).bytes =
        .ok (some ⟨e.payload, e.sender⟩) := by
  intro e
  apply read_bytes_encode ["demo.Other", "demo.Reading"] e
  · rfl
  · show (encode e).depth ≤ 127
    decide
  · rintro p ⟨⟩
  · rintro p ⟨⟩
    exact ⟨announcedName?_toList_iff.mp (by decide), rfl⟩
  · rfl

end Catalogue

end EventGates.Wire
