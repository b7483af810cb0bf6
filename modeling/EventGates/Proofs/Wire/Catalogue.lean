import EventGates.Proofs.Event.Decoding
import EventGates.Proofs.Wire.Acceptance
import EventGates.Wire.Catalogue

/-!
# What is known by name

A catalogue is told of names, and takes up those that are not reserved. So it knows a name exactly if
it is reserved or was told, in whatever order and however often (`knows_ofList_iff`). What is read
under a name goes by that name (`Reading`): nothing is made of a body of an unknown type, and a known
one is malformed, the data of an application's own type, or decoded as the reserved type. The data of an
application's own type is the event of the envelope that the body spells, and every envelope is taken.
The main theorem is `read_heeds`.
-/

namespace EventGates.Wire.Catalogue

open Text (Bytes)

variable {c c' : Catalogue} {names : List String} {typeName : String} {body : Bytes}

/-! ## Names that are told -/

/-- A name is taken up unless it is reserved. -/
lemma mem_custom_insert {name : String} :
    typeName ∈ (c.insert name).custom ↔
      typeName ∈ c.custom ∨ typeName = name ∧ isReserved name = false := by
  rw [insert]
  split
  · next idle =>
    constructor
    · exact .inl
    · rintro (there | ⟨rfl, free⟩)
      · exact there
      · rw [free, Bool.false_or] at idle
        exact List.contains_iff_mem.mp idle
  · next fresh =>
    rw [Bool.not_eq_true, Bool.or_eq_false_iff] at fresh
    rw [List.mem_cons, or_comm]
    apply or_congr_right
    exact (and_iff_left fresh.1).symm

/-- A catalogue holds the names that it was told, but for the reserved ones. -/
lemma mem_custom_ofList :
    typeName ∈ (ofList names).custom ↔ typeName ∈ names ∧ isReserved typeName = false := by
  have later : ∀ (names : List String) (c : Catalogue),
      typeName ∈ (names.foldl insert c).custom ↔
        typeName ∈ c.custom ∨ typeName ∈ names ∧ isReserved typeName = false := by
    intro names
    induction names with
    | nil => simp
    | cons name names ih =>
      intro c
      rw [List.foldl_cons, ih, mem_custom_insert, List.mem_cons, or_assoc, or_and_right]
      apply or_congr_right
      apply or_congr_left
      apply and_congr_right
      rintro rfl
      rfl
  rw [ofList, later]
  exact or_iff_right List.not_mem_nil

/-- A name is known if it is reserved or was told. -/
lemma knows_ofList_iff :
    (ofList names).knows typeName = true ↔ isReserved typeName = true ∨ typeName ∈ names := by
  rw [knows, Bool.or_eq_true, List.contains_iff_mem, mem_custom_ofList]
  cases isReserved typeName with
  | true => exact iff_of_true (.inl rfl) (.inl rfl)
  | false => simp

/-! ## What is read under a name -/

/-- What is made of a body goes by the name it is announced under. -/
inductive Reading (c : Catalogue) (typeName : String) (body : Bytes) :
    Except MalformedCause (Option Draft) → Prop where
  | unknown :
    c.knows typeName = false →
    Reading c typeName body (.ok none)
  | malformed {cause : MalformedCause} :
    c.knows typeName = true →
    Reading c typeName body (.error cause)
  | custom {v : Value} {sender : Option String} :
    typeName ∈ c.custom →
    parseBody body = .ok (v, sender) →
    Reading c typeName body (.ok (some ⟨.ofCustom typeName v, sender⟩))
  | reserved {v : Value} {sender : Option String} {p : Payload} :
    typeName ∉ c.custom →
    isReserved typeName = true →
    parseBody body = .ok (v, sender) →
    Payload.Decoded v.tree typeName p →
    Reading c typeName body (.ok (some ⟨p, sender⟩))

/-- Every body is read in one of these ways. -/
lemma reading_of_read {result : Except MalformedCause (Option Draft)}
    (made : c.read typeName body = result) : Reading c typeName body result := by
  subst made
  rw [read]
  split
  · next unknown =>
    rw [Bool.not_eq_true'] at unknown
    exact .unknown unknown
  next known =>
  rw [Bool.not_eq_true', Bool.not_eq_false] at known
  split
  · exact .malformed known
  next v sender parsed =>
  split
  · next told => exact .custom (List.contains_iff_mem.mp told) parsed
  next untold =>
  have reserved : isReserved typeName = true := by
    rw [knows, Bool.or_eq_true] at known
    exact known.resolve_right untold
  split
  · next nothing =>
    have something := Payload.isSome_ofReserved? typeName v
    rw [nothing, reserved] at something
    cases something
  · exact .malformed known
  · next made =>
    rw [List.contains_iff_mem] at untold
    exact .reserved untold reserved parsed (Payload.decoded_of_ofReserved? made)

/-- Nothing is made of a body exactly if its type is unknown. -/
lemma read_eq_none_iff : c.read typeName body = .ok none ↔ c.knows typeName = false := by
  constructor
  · intro read
    cases reading_of_read read with
    | unknown unknown => exact unknown
  · intro unknown
    rw [read, unknown]
    rfl

/-- A body is refused only under a name that is known. -/
lemma knows_of_read_eq_error {cause : MalformedCause} (read : c.read typeName body = .error cause) :
    c.knows typeName = true := by
  cases reading_of_read read with
  | malformed known => exact known

/-- A body of a type that was told is taken as it is. -/
lemma read_of_told {v : Value} {sender : Option String} (told : typeName ∈ c.custom)
    (parsed : parseBody body = .ok (v, sender)) :
    c.read typeName body = .ok (some ⟨.ofCustom typeName v, sender⟩) := by
  simp [read, knows, told, parsed]

/-- A body of a reserved type is decoded. -/
lemma read_of_decoded {v : Value} {sender : Option String} {p : Payload}
    (untold : typeName ∉ c.custom) (reserved : isReserved typeName = true)
    (parsed : parseBody body = .ok (v, sender))
    (decoded : Payload.ofReserved? typeName v = some (.ok p)) :
    c.read typeName body = .ok (some ⟨p, sender⟩) := by
  simp [read, knows, untold, reserved, parsed, decoded]

/-- Only whether a name was told counts for what is read under it. -/
lemma read_congr (same : typeName ∈ c.custom ↔ typeName ∈ c'.custom) :
    c.read typeName body = c'.read typeName body := by
  have told : c.custom.contains typeName = c'.custom.contains typeName := by
    rw [Bool.eq_iff_iff, List.contains_iff_mem, List.contains_iff_mem]
    exact same
  rw [read, read, knows, knows, told]

/-! ## Catalogues that were told names -/

/-- What a catalogue that was told some names makes of a body goes by the name of its type. -/
structure Heeds (names : List String) (typeName : String) (body : Bytes) : Prop where
  /-- Nothing is made of it, whatever it is, if the name is neither reserved nor told. -/
  unknown : (ofList names).read typeName body = .ok none ↔
    isReserved typeName = false ∧ typeName ∉ names
  /-- Only what is known is refused. -/
  refused : ∀ cause, (ofList names).read typeName body = .error cause →
    isReserved typeName = true ∨ typeName ∈ names
  named : ∀ d, (ofList names).read typeName body = .ok (some d) → d.payload.typeName = typeName
  own : ∀ d, (ofList names).read typeName body = .ok (some d) →
    (d.payload.isCustom = true ↔ isReserved typeName = false)
  /-- An application's own data is what the envelope holds that the body spells. -/
  whole : ∀ d p, (ofList names).read typeName body = .ok (some d) → d.payload = .custom p →
    parseBody body = .ok (p.data, d.sender) ∧ ∃ x, p.data = .ofTree x ∧
      (Envelope.SpellsObject x d.sender body ∨ Envelope.SpellsPair x d.sender body)
  /-- Every envelope is taken under a name that was told and is not reserved. -/
  taken : isReserved typeName = false → typeName ∈ names → ∀ x sender,
    Envelope.SpellsObject x sender body ∨ Envelope.SpellsPair x sender body →
    (ofList names).read typeName body = .ok (some ⟨.ofCustom typeName (.ofTree x), sender⟩)
  /-- Telling further names changes nothing for others and for reserved ones. -/
  telling : ∀ more, isReserved typeName = true ∨ typeName ∉ more →
    (ofList (names ++ more)).read typeName body = (ofList names).read typeName body
  /-- The order of the names and how often they are told do not count. -/
  told : ∀ names', (∀ name, name ∈ names' ↔ name ∈ names) →
    (ofList names').read typeName body = (ofList names).read typeName body

/-- Whatever names a catalogue was told, what it makes of a body goes by the name of its type. -/
theorem read_heeds (names : List String) (typeName : String) (body : Bytes) :
    Heeds names typeName body where
  unknown := by
    rw [read_eq_none_iff, ← Bool.not_eq_true, knows_ofList_iff, not_or, Bool.not_eq_true]
  refused cause read := knows_ofList_iff.mp (knows_of_read_eq_error read)
  named d read := by
    cases reading_of_read read with
    | custom told parsed => rfl
    | reserved untold reserved parsed decoded => exact decoded.typeName_eq
  own d read := by
    cases reading_of_read read with
    | custom told parsed => exact iff_of_true rfl (mem_custom_ofList.mp told).2
    | reserved untold reserved parsed decoded =>
      rw [reserved]
      exact iff_of_false (by rw [decoded.isCustom_eq]; nofun) nofun
  whole d p read own := by
    cases reading_of_read read with
    | custom told parsed =>
      cases own
      exact ⟨parsed, spells_of_parseBody parsed⟩
    | reserved untold reserved parsed decoded =>
      cases own
      have noCustom := decoded.isCustom_eq
      cases noCustom
  taken free told x sender spells :=
    read_of_told (mem_custom_ofList.mpr ⟨told, free⟩) (parseBody_of_spells spells)
  telling more other := by
    apply read_congr
    rw [mem_custom_ofList, mem_custom_ofList, List.mem_append]
    apply and_congr_left
    intro free
    apply or_iff_left
    obtain reserved | untold := other
    · rw [free] at reserved
      cases reserved
    · exact untold
  told names' same := by
    apply read_congr
    rw [mem_custom_ofList, mem_custom_ofList, same]

/-- The object with the event 1 under x, the sender h:1 and a member that nobody reads. -/
def noteBody : Bytes :=
  [0x7B, 0x22, 0x65, 0x76, 0x65, 0x6E, 0x74, 0x22, 0x3A, 0x7B, 0x22, 0x78, 0x22, 0x3A, 0x31, 0x7D, 0x2C,
    0x22, 0x73, 0x65, 0x6E, 0x64, 0x65, 0x72, 0x22, 0x3A, 0x22, 0x68, 0x3A, 0x31, 0x22, 0x2C,
    0x22, 0x76, 0x22, 0x3A, 0x32, 0x7D]

/-- A name that is told twice, beside a reserved one, is told once and alone. The body is taken with the
event and the sender that it spells, and is not looked at under a name that was not told. -/
theorem read_heeds_note :
    let names := ["app.note", "gatefabric.pem.AddItem", "app.note"]
    let d : Draft :=
      ⟨.ofCustom "app.note" (.ofTree (.object [("x", .number (.natural 1))])), some "h:1"⟩
    (ofList names).read "app.note" noteBody = .ok (some d) ∧
      (ofList ["app.note"]).read "app.note" noteBody = .ok (some d) ∧
      (ofList names).read "app.memo" noteBody = .ok none ∧
      d.payload.typeName = "app.note" ∧ d.payload.isCustom = true ∧
      ∃ x, Value.ofTree (.object [("x", .number (.natural 1))]) = .ofTree x ∧
        (Envelope.SpellsObject x (some "h:1") noteBody ∨
          Envelope.SpellsPair x (some "h:1") noteBody) := by
  intro names d
  have heeds := read_heeds names "app.note" noteBody
  have read : (ofList names).read "app.note" noteBody = .ok (some d) := rfl
  have once := (read_heeds ["app.note"] "app.note" noteBody).telling ["gatefabric.pem.AddItem"]
    (.inr (by decide))
  have same : ∀ name, name ∈ ["app.note"] ++ ["gatefabric.pem.AddItem"] ↔ name ∈ names := by
    simp [names, or_comm]
  refine ⟨read, ?_, ?_, heeds.named d read, ?_, (heeds.whole d _ read rfl).2⟩
  · rw [← once, heeds.told _ same, read]
  · exact (read_heeds names "app.memo" noteBody).unknown.mpr (by decide)
  · exact (heeds.own d read).mpr (by decide)

end EventGates.Wire.Catalogue
