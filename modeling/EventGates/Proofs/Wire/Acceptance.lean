import EventGates.Proofs.Json.Values
import EventGates.Wire.Envelope

/-!
# Which bodies are accepted

A body is an object with one event and at most one sender, whatever else it holds (`SpellsObject`),
or the pair of the two (`SpellsPair`). The readers of an envelope accept these and nothing else.
Members are taken one by one; what has been seen of them takes each sender and each event but no
second one (`Partial.absorb`), so in the end there was at most one of each. The main theorem about
envelopes is `Envelope.read_eq_ok_iff`.
-/

namespace EventGates.Wire

open Text (Bytes)
open Json.Grammar
open Json.Reader (skipBlanks isBlankByte endsNumeral)

namespace Envelope

/-! ## The grammar of bodies -/

/-- What a member of a body says. -/
inductive Entry where
  | sender (given : Option String)
  | event (x : Json)
  | other

/-- The sender that a member gives, maybe as absent. -/
def Entry.sender? : Entry → Option (Option String)
  | .sender given => some given
  | _ => none

/-- The event that a member gives. -/
def Entry.event? : Entry → Option Json
  | .event x => some x
  | _ => none

/-- A sender: null or a string. -/
inductive SpellsSender : Option String → Bytes → Prop where
  | null : SpellsSender none [0x6E, 0x75, 0x6C, 0x6C]
  | string {s : String} {body : Bytes} :
    SpellsBody s body →
    SpellsSender (some s) (0x22 :: body)

/-- What may stand under a key of a body. -/
inductive SpellsEntry : String → Entry → Bytes → Prop where
  | sender {given : Option String} {tok : Bytes} :
    SpellsSender given tok →
    SpellsEntry "sender" (.sender given) tok
  | event {x : Json} {tok : Bytes} :
    Spells eventDepth x tok →
    SpellsEntry "event" (.event x) tok
  | other {key : String} {tok : Bytes} :
    key ≠ "sender" →
    key ≠ "event" →
    Passed tok →
    SpellsEntry key .other tok

/-- The senders that members give. -/
def senders (ms : List (String × Entry)) : List (Option String) := ms.filterMap (·.2.sender?)

/-- The events that members give. -/
def events (ms : List (String × Entry)) : List Json := ms.filterMap (·.2.event?)

/-- A text that is one object, with one event and with no sender or one. -/
inductive SpellsObject (x : Json) (sender : Option String) : Bytes → Prop where
  | mk {w tok w' : Bytes} {ms : List (String × Entry)} {given : Option (Option String)} :
    Blank w →
    Enclosed 0x7D (Member SpellsBody SpellsEntry) ms tok →
    Blank w' →
    events ms = [x] →
    senders ms = given.toList →
    given.join = sender →
    SpellsObject x sender (w ++ 0x7B :: (tok ++ w'))

/-- An object begins with a brace. -/
lemma SpellsObject.skipBlanks {x : Json} {sender : Option String} {body : Bytes}
    (object : SpellsObject x sender body) : ∃ bs, Json.Reader.skipBlanks body = 0x7B :: bs := by
  obtain ⟨blank⟩ := object
  exact ⟨_, blank.skip rfl⟩

/-- A text that is an array of a sender and an event. -/
inductive SpellsPair (x : Json) (sender : Option String) : Bytes → Prop where
  | mk {w first between second behind w' : Bytes} :
    Blank w →
    Led SpellsSender sender first →
    Blank between →
    Led (Spells eventDepth) x second →
    Blank behind →
    Blank w' →
    SpellsPair x sender
      (w ++ 0x5B :: (first ++ (between ++ 0x2C :: (second ++ (behind ++ 0x5D :: w')))))

/-! ## Parts -/

lemma part_eq_ok_iff {α : Type} {r : Json.Reader α} {bs : Bytes} {x : α × Bytes} :
    part r bs = .ok x ↔ r bs = .ok x := by
  rw [part]
  cases r bs with
  | ok y => simp
  | error f => exact iff_of_false nofun nofun

/-- What is refused is not read. -/
lemma refuse_ne_ok {α : Type} {expected : String} {bs : Bytes} {x : α × Bytes} :
    refuse expected bs ≠ .ok x := by
  intro read
  obtain ⟨y, -, impossible⟩ := bind_eq_ok_iff.mp read
  cases impossible

/-- A sender begins with no blank and with no closing bracket. -/
lemma SpellsSender.begins : Begins 0x5D SpellsSender := by
  intro given tok spells
  cases spells with
  | null => exact ⟨_, _, rfl, rfl, by decide⟩
  | string spells => exact ⟨_, _, rfl, rfl, by decide⟩

/-- A sender is read behind blanks. -/
lemma takes_senderPart : Takes (takes senderPart) (Led SpellsSender) := by
  refine takes_led SpellsSender.begins (fun bs => ?_) refuse_ne_ok ?_ ?_
  · funext given rest
    simp only [takes, senderPart, skipBlanks_skipBlanks]
  · intro b bs given rest noBlank read
    have skip : skipBlanks (b :: bs) = b :: bs := Blank.nil.skip noBlank
    rw [takes, senderPart, skip] at read
    split at read
    · next same =>
      cases same
      obtain ⟨⟨x, left⟩, word, same⟩ := bind_eq_ok_iff.mp read
      cases same
      obtain ⟨rfl, rfl⟩ := literal_eq_ok_iff.mp (part_eq_ok_iff.mp word)
      exact ⟨_, .null, rfl⟩
    · next same =>
      cases same
      obtain ⟨⟨s, left⟩, string, same⟩ := bind_eq_ok_iff.mp read
      cases same
      obtain ⟨body, spells, rfl⟩ := takes_stringBody.sound (part_eq_ok_iff.mp string)
      exact ⟨_, .string spells, rfl⟩
    · exact absurd read refuse_ne_ok
  · intro given tok rest spells stop
    cases spells with
    | null => rfl
    | string spells =>
      have string := part_eq_ok_iff.mpr (takes_stringBody.complete spells stop)
      exact bind_eq_ok_iff.mpr ⟨_, string, rfl⟩

lemma takes_eventPart : Takes (takes eventPart) (Led (Spells eventDepth)) :=
  (takes_valueWithin eventDepth).congr part_eq_ok_iff

/-! ## Members -/

/-- What a member says is taken behind its colon. -/
def takesEntry (key : String) : Intake Entry
  | bs, .sender given, rest => key = "sender" ∧ senderPart bs = .ok (given, rest)
  | bs, .event x, rest => key = "event" ∧ eventPart bs = .ok (x, rest)
  | bs, .other, rest => key ≠ "sender" ∧ key ≠ "event" ∧ Json.Skipper.value bs = .ok rest

lemma takes_entry (key : String) : Takes (takesEntry key) (Led (SpellsEntry key)) where
  sound {bs rest e} := by
    intro taken
    cases e with
    | sender given =>
      obtain ⟨rfl, read⟩ := taken
      obtain ⟨_, ⟨w, tok, blank, spells, rfl⟩, parts⟩ := takes_senderPart.sound read
      exact ⟨_, ⟨w, tok, blank, .sender spells, rfl⟩, parts⟩
    | event x =>
      obtain ⟨rfl, read⟩ := taken
      obtain ⟨_, ⟨w, tok, blank, spells, rfl⟩, parts⟩ := takes_eventPart.sound read
      exact ⟨_, ⟨w, tok, blank, .event spells, rfl⟩, parts⟩
    | other =>
      obtain ⟨noSender, noEvent, read⟩ := taken
      obtain ⟨_, ⟨w, tok, blank, passed, rfl⟩, parts⟩ := passes_value.sound (x := ()) read
      exact ⟨_, ⟨w, tok, blank, .other noSender noEvent passed, rfl⟩, parts⟩
  complete {_ rest e} := by
    rintro ⟨w, tok, blank, spells, rfl⟩ stop
    cases spells with
    | sender spells => exact ⟨rfl, takes_senderPart.complete ⟨w, tok, blank, spells, rfl⟩ stop⟩
    | event spells => exact ⟨rfl, takes_eventPart.complete ⟨w, tok, blank, spells, rfl⟩ stop⟩
    | other noSender noEvent passed =>
      exact ⟨noSender, noEvent,
        passes_value.complete (x := ()) ⟨w, tok, blank, passed, rfl⟩ stop⟩

/-- What has been seen of an object takes a member, unless that repeats a sender or an event. -/
def Partial.absorb (seen : Partial) : Entry → Option Partial
  | .sender given => if seen.sender.isSome then none else some { seen with sender := some given }
  | .event x => if seen.event.isSome then none else some { seen with event := some x }
  | .other => some seen

/-- The misfit of an object is no reading. -/
lemma objectMisfit_ne_ok {α : Type} {m : Misfit} {bs : Bytes} {x : α × Bytes} :
    objectMisfit m bs ≠ .ok x := by
  unfold objectMisfit
  split
  · exact nofun
  · exact nofun

/-- A member is taken, and what has been seen takes it. -/
lemma memberPart_eq_ok_iff {seen seen' : Partial} {bs rest : Bytes} :
    memberPart seen bs = .ok (seen', rest) ↔ ∃ m,
      takesMember (takes Json.Reader.stringBody) takesEntry bs m rest ∧
        seen.absorb m.2 = some seen' := by
  constructor
  · intro read
    obtain ⟨⟨key, left⟩, name, read⟩ := bind_eq_ok_iff.mp read
    have name := part_eq_ok_iff.mp name
    simp only at read
    split at read
    · next isSender =>
      split at read
      · exact absurd read objectMisfit_ne_ok
      · next fresh =>
        obtain ⟨⟨_, left'⟩, colon, read⟩ := bind_eq_ok_iff.mp read
        obtain ⟨⟨given, rest'⟩, sender, same⟩ := bind_eq_ok_iff.mp read
        cases same
        have colon := part_eq_ok_iff.mp colon
        refine ⟨(key, .sender given), ⟨left, left', name, colon, isSender, sender⟩, ?_⟩
        rw [Partial.absorb, if_neg fresh]
    · next noSender =>
      split at read
      · next isEvent =>
        split at read
        · exact absurd read objectMisfit_ne_ok
        · next fresh =>
          obtain ⟨⟨_, left'⟩, colon, read⟩ := bind_eq_ok_iff.mp read
          obtain ⟨⟨x, rest'⟩, event, same⟩ := bind_eq_ok_iff.mp read
          cases same
          have colon := part_eq_ok_iff.mp colon
          refine ⟨(key, .event x), ⟨left, left', name, colon, isEvent, event⟩, ?_⟩
          rw [Partial.absorb, if_neg fresh]
      · next noEvent =>
        obtain ⟨⟨_, left'⟩, colon, read⟩ := bind_eq_ok_iff.mp read
        simp only at read
        split at read
        · next passed =>
          cases read
          exact ⟨(key, .other),
            ⟨left, left', name, part_eq_ok_iff.mp colon, noSender, noEvent, passed⟩, rfl⟩
        · cases read
  · rintro ⟨⟨key, e⟩, ⟨left, left', name, colon, taken⟩, absorbed⟩
    have name : part Json.Reader.stringBody bs = .ok (key, left) := part_eq_ok_iff.mpr name
    have colon : part Json.Reader.colon left = .ok ((), left') := part_eq_ok_iff.mpr colon
    rw [memberPart, name]
    cases e with
    | sender given =>
      obtain ⟨rfl, sender⟩ := taken
      simp only [Partial.absorb] at absorbed
      split at absorbed
      · cases absorbed
      · next fresh =>
        cases absorbed
        simp only [bind, Except.bind, if_true, fresh, colon, sender]
        rfl
    | event x =>
      obtain ⟨rfl, event⟩ := taken
      simp only [Partial.absorb] at absorbed
      split at absorbed
      · cases absorbed
      · next fresh =>
        cases absorbed
        have other : ¬"event" = "sender" := by decide
        simp only [bind, Except.bind, other, if_false, if_true, fresh, colon, event]
        rfl
    | other =>
      obtain ⟨noSender, noEvent, passed⟩ := taken
      cases absorbed
      change key ≠ "sender" at noSender
      change key ≠ "event" at noEvent
      simp only [bind, Except.bind, noSender, noEvent, if_false, colon, passed]

/-- What has been seen of an object takes members one by one. -/
def Partial.absorbAll (seen : Partial) : List (String × Entry) → Option Partial
  | [] => some seen
  | m :: ms => (seen.absorb m.2).bind fun seen => seen.absorbAll ms

/-- All members are taken if there is no second sender and no second event, and these are what has
been seen then. -/
lemma Partial.absorbAll_eq_some_iff {seen seen' : Partial} {ms : List (String × Entry)} :
    seen.absorbAll ms = some seen' ↔
      seen.sender.toList ++ senders ms = seen'.sender.toList ∧
        seen.event.toList ++ events ms = seen'.event.toList := by
  -- a list of two is none of an option
  have noSecond : ∀ {β : Type} {x y : β} {xs : List β} {given : Option β},
      x :: y :: xs ≠ given.toList := by
    intro β x y xs given
    cases given with
    | none => nofun
    | some z => nofun
  have same : ∀ {β : Type} {given given' : Option β},
      given.toList = given'.toList → given = given' := by
    intro β given given' same
    rw [← Option.head?_toList (o := given), same, Option.head?_toList]
  induction ms generalizing seen with
  | nil =>
    simp only [absorbAll, senders, events, List.filterMap_nil, List.append_nil,
      Option.some.injEq]
    constructor
    · rintro rfl
      exact ⟨rfl, rfl⟩
    · obtain ⟨sender, event⟩ := seen
      obtain ⟨sender', event'⟩ := seen'
      rintro ⟨sent, found⟩
      cases same sent
      cases same found
      rfl
  | cons m ms ih =>
    obtain ⟨key, e⟩ := m
    obtain ⟨sender, event⟩ := seen
    rw [absorbAll]
    cases e with
    | sender given =>
      cases sender with
      | none => exact ih
      | some first => exact iff_of_false nofun fun same => noSecond same.1
    | event x =>
      cases event with
      | none => exact ih
      | some first => exact iff_of_false nofun fun same => noSecond same.2
    | other => exact ih

/-- A member behind the quote of its key. -/
abbrev takesMembers : Intake (String × Entry) :=
  behindQuote (takesMember (takes Json.Reader.stringBody) takesEntry)

/-- The members behind the first one are taken up to the closing brace, which is left. -/
lemma moreMembers_eq_ok_iff {budget : Bytes} {seen seen' : Partial} {bs rest : Bytes} :
    moreMembers budget seen bs = .ok (seen', rest) ↔ ∃ ms rest',
      takesMore 0x7D takesMembers budget bs ms rest' ∧ rest = 0x7D :: rest' ∧
        seen.absorbAll ms = some seen' := by
  induction budget generalizing bs seen with
  | nil => exact iff_of_false nofun fun ⟨_, _, taken, _⟩ => taken
  | cons _ budget ih =>
    constructor
    · intro read
      unfold moreMembers at read
      split at read
      · cases read
      · next rest' left =>
        cases read
        exact ⟨[], rest', left, rfl, rfl⟩
      · next bs' left =>
        split at read
        · cases read
        · next bs'' left' =>
          obtain ⟨⟨seen'', mid⟩, here, more⟩ := bind_eq_ok_iff.mp read
          obtain ⟨m, taken, absorbed⟩ := memberPart_eq_ok_iff.mp here
          obtain ⟨ms, rest', others, brace, all⟩ := ih.mp more
          refine ⟨m :: ms, rest', ⟨bs', mid, left, ⟨bs'', left', taken⟩, others⟩, brace, ?_⟩
          rw [Partial.absorbAll, absorbed]
          exact all
        · cases read
        · cases read
      · cases read
    · rintro ⟨ms, rest', taken, rfl, absorbed⟩
      cases ms with
      | nil =>
        have left : skipBlanks bs = 0x7D :: rest' := taken
        cases absorbed
        simp only [moreMembers, left]
      | cons m ms =>
        obtain ⟨bs', mid, left, ⟨bs'', left', taken⟩, others⟩ := taken
        obtain ⟨seen'', here, more⟩ := Option.bind_eq_some_iff.mp absorbed
        simp only [moreMembers, left, left']
        exact bind_eq_ok_iff.mpr ⟨_, memberPart_eq_ok_iff.mpr ⟨m, taken, here⟩,
          ih.mpr ⟨ms, rest', others, rfl, more⟩⟩

lemma members_eq_ok_iff {seen : Partial} {bs rest : Bytes} :
    members bs = .ok (seen, rest) ↔ ∃ ms rest',
      takesEnclosed 0x7D (fun _ mid => mid) takesMembers takesMembers bs ms rest' ∧
        rest = 0x7D :: rest' ∧ ({} : Partial).absorbAll ms = some seen := by
  constructor
  · intro read
    unfold members at read
    split at read
    · cases read
    · next rest' left =>
      cases read
      exact ⟨[], rest', left, rfl, rfl⟩
    · next bs' left =>
      obtain ⟨⟨seen', mid⟩, here, more⟩ := bind_eq_ok_iff.mp read
      obtain ⟨m, taken, absorbed⟩ := memberPart_eq_ok_iff.mp here
      obtain ⟨ms, rest', others, brace, all⟩ := moreMembers_eq_ok_iff.mp more
      refine ⟨m :: ms, rest', ⟨mid, ⟨bs', left, taken⟩, others⟩, brace, ?_⟩
      rw [Partial.absorbAll, absorbed]
      exact all
    · cases read
  · rintro ⟨ms, rest', taken, rfl, absorbed⟩
    cases ms with
    | nil =>
      have left : skipBlanks bs = 0x7D :: rest' := taken
      cases absorbed
      simp only [members, left]
    | cons m ms =>
      obtain ⟨mid, ⟨bs', left, taken⟩, others⟩ := taken
      obtain ⟨seen', here, more⟩ := Option.bind_eq_some_iff.mp absorbed
      simp only [members, left]
      exact bind_eq_ok_iff.mpr ⟨_, memberPart_eq_ok_iff.mpr ⟨m, taken, here⟩,
        moreMembers_eq_ok_iff.mpr ⟨ms, rest', others, rfl, more⟩⟩

/-! ## Objects and arrays -/

/-- An object is read if its members give one event and at most one sender. -/
lemma objectPart_eq_ok_iff {x : Json} {sender : Option String} {bs rest : Bytes} :
    objectPart bs = .ok (⟨x, sender⟩, rest) ↔ ∃ ms given,
      takesEnclosed 0x7D (fun _ mid => mid) takesMembers takesMembers bs ms rest ∧
        events ms = [x] ∧ senders ms = Option.toList given ∧ given.join = sender := by
  constructor
  · intro read
    obtain ⟨⟨⟨given, event⟩, left⟩, all, read⟩ := bind_eq_ok_iff.mp read
    obtain ⟨ms, rest', taken, rfl, absorbed⟩ := members_eq_ok_iff.mp all
    obtain ⟨sent, found⟩ := Partial.absorbAll_eq_some_iff.mp absorbed
    cases event with
    | none => exact absurd read objectMisfit_ne_ok
    | some event =>
      cases read
      exact ⟨ms, given, taken, found, sent, rfl⟩
  · rintro ⟨ms, given, taken, found, sent, rfl⟩
    have absorbed : ({} : Partial).absorbAll ms = some ⟨given, some x⟩ :=
      Partial.absorbAll_eq_some_iff.mpr ⟨sent, found⟩
    exact bind_eq_ok_iff.mpr ⟨_, members_eq_ok_iff.mpr ⟨ms, rest, taken, rfl, absorbed⟩, rfl⟩

/-- The misfit of an array is no reading. -/
lemma arrayMisfit_ne_ok {α : Type} {m : Misfit} {bs : Bytes} {x : α × Bytes} :
    arrayMisfit m bs ≠ .ok x := by
  unfold arrayMisfit
  split
  · exact nofun
  · exact nofun
  · exact nofun

lemma arrayEnd_eq_ok_iff {bs rest : Bytes} :
    arrayEnd bs = .ok ((), rest) ↔ skipBlanks bs = 0x5D :: rest := by
  unfold arrayEnd
  split
  · next left => simp [left]
  · next rest' left => simp [left]
  · next bs' left =>
    refine iff_of_false ?_ (by simp [left])
    split
    · exact nofun
    · exact nofun
  · next other _ => exact iff_of_false nofun (other rest)

/-- An array is read as a sender, a comma and an event. -/
lemma arrayPart_eq_ok_iff {x : Json} {sender : Option String} {bs rest : Bytes} :
    arrayPart bs = .ok (⟨x, sender⟩, rest) ↔ ∃ mid bs' mid',
      afterBlanks 0x5D (takes senderPart) bs sender mid ∧ skipBlanks mid = 0x2C :: bs' ∧
        afterBlanks 0x5D (takes eventPart) bs' x mid' ∧ skipBlanks mid' = 0x5D :: rest := by
  constructor
  · intro read
    unfold arrayPart at read
    split at read
    · cases read
    · exact absurd read arrayMisfit_ne_ok
    · next some other =>
      obtain ⟨⟨given, mid⟩, first, read⟩ := bind_eq_ok_iff.mp read
      simp only at read
      split at read
      · cases read
      · exact absurd read arrayMisfit_ne_ok
      · next bs' comma =>
        split at read
        · cases read
        · cases read
        · next some' other' =>
          obtain ⟨⟨event, mid'⟩, second, read⟩ := bind_eq_ok_iff.mp read
          obtain ⟨⟨_, rest'⟩, close, same⟩ := bind_eq_ok_iff.mp read
          cases same
          obtain ⟨b, ahead, left⟩ := List.exists_cons_of_ne_nil some
          obtain ⟨c, ahead', left'⟩ := List.exists_cons_of_ne_nil some'
          rw [left] at first
          rw [left'] at second
          have noClose : b ≠ 0x5D := fun same => other ahead (same ▸ left)
          have noClose' : c ≠ 0x5D := fun same => other' ahead' (same ▸ left')
          exact ⟨mid, bs', mid', ⟨b, ahead, left, noClose, first⟩, comma,
            ⟨c, ahead', left', noClose', second⟩, arrayEnd_eq_ok_iff.mp close⟩
      · cases read
  · rintro ⟨mid, bs', mid', ⟨b, ahead, left, other, first⟩, comma,
      ⟨c, ahead', left', other', second⟩, close⟩
    have close := arrayEnd_eq_ok_iff.mpr close
    simp only [arrayPart, left]
    split
    · next none => cases none
    · next same => exact absurd (List.cons.inj same).1 other
    · refine bind_eq_ok_iff.mpr ⟨_, first, ?_⟩
      simp only [comma, left']
      split
      · next none => cases none
      · next same => exact absurd (List.cons.inj same).1 other'
      · exact bind_eq_ok_iff.mpr ⟨_, second, bind_eq_ok_iff.mpr ⟨_, close, rfl⟩⟩

/-! ## Bodies -/

/-- Nothing but blanks is left at the end of a text. -/
lemma endOfText_eq_ok_iff {bs : Bytes} {x : Unit × Bytes} :
    part Json.Reader.endOfText bs = .ok x ↔ Blank bs ∧ x = ((), []) := by
  rw [part_eq_ok_iff, Json.Reader.endOfText, ← skipBlanks_eq_nil_iff]
  split
  · next left => simp [left, eq_comm]
  · next other => exact iff_of_false nofun fun none => other none.1

/-- The members of an object are taken. -/
lemma takes_members : Takes (takesEnclosed 0x7D (fun _ mid => mid) takesMembers takesMembers)
    (Enclosed 0x7D (Member SpellsBody SpellsEntry)) := by
  have members := takes_member takes_stringBody takes_entry
  exact takes_enclosed rfl rfl (fun _ => le_rfl) members members

lemma takes_sender : Takes (afterBlanks 0x5D (takes senderPart)) (Led SpellsSender) :=
  takes_afterBlanks takes_senderPart SpellsSender.begins

lemma takes_event : Takes (afterBlanks 0x5D (takes eventPart)) (Led (Spells eventDepth)) :=
  takes_afterBlanks takes_eventPart ValueWith.begins

/-- Where a text ends, a numeral ends. -/
lemma endsNumeral_of_blank {w : Bytes} (blank : Blank w) : endsNumeral w = true := by
  have ends : endsNumeral (w ++ []) = true := blank.endsNumeral rfl
  rwa [List.append_nil] at ends

/-- An envelope is read from an object with one event and at most one sender, or from the array of
the two. -/
theorem read_eq_ok_iff {body : Bytes} {x : Json} {sender : Option String} :
    Envelope.read body = .ok ⟨x, sender⟩ ↔
      SpellsObject x sender body ∨ SpellsPair x sender body := by
  constructor
  · intro read
    obtain ⟨⟨envelope, rest⟩, whole, read⟩ := bind_eq_ok_iff.mp read
    obtain ⟨_, ended, same⟩ := bind_eq_ok_iff.mp read
    cases same
    obtain ⟨blank', -⟩ := endOfText_eq_ok_iff.mp ended
    unfold envelopePart at whole
    split at whole
    · cases whole
    · next bs left =>
      obtain ⟨w, blank, rfl⟩ := (skipBlanks_eq_cons_iff rfl).mp left
      obtain ⟨ms, given, taken, found, sent, joined⟩ := objectPart_eq_ok_iff.mp whole
      obtain ⟨tok, spells, rfl⟩ := takes_members.sound taken
      exact .inl (.mk blank spells blank' found sent joined)
    · next bs left =>
      obtain ⟨w, blank, rfl⟩ := (skipBlanks_eq_cons_iff rfl).mp left
      obtain ⟨mid, bs', mid', first, comma, second, close⟩ := arrayPart_eq_ok_iff.mp whole
      obtain ⟨text, led, rfl⟩ := takes_sender.sound first
      obtain ⟨between, gap, rfl⟩ := (skipBlanks_eq_cons_iff rfl).mp comma
      obtain ⟨text', led', rfl⟩ := takes_event.sound second
      obtain ⟨behind, gap', rfl⟩ := (skipBlanks_eq_cons_iff rfl).mp close
      exact .inr (.mk blank led gap led' gap' blank')
    · exact absurd whole refuse_ne_ok
  · rintro (⟨blank, spells, blank', found, sent, joined⟩ |
      @⟨w, text, between, text', behind, w', blank, led, gap, led', gap', blank'⟩)
    · have taken := takes_members.complete spells (endsNumeral_of_blank blank')
      have object := objectPart_eq_ok_iff.mpr ⟨_, _, taken, found, sent, joined⟩
      refine bind_eq_ok_iff.mpr ⟨(⟨x, sender⟩, _), ?_,
        bind_eq_ok_iff.mpr ⟨_, endOfText_eq_ok_iff.mpr ⟨blank', rfl⟩, rfl⟩⟩
      simp only [envelopePart, blank.skip (show isBlankByte 0x7B = false from rfl)]
      exact object
    · have comma : endsNumeral (between ++ 0x2C :: (text' ++ (behind ++ 0x5D :: w'))) = true :=
        gap.endsNumeral rfl
      have close : endsNumeral (behind ++ 0x5D :: w') = true := gap'.endsNumeral rfl
      have array := arrayPart_eq_ok_iff.mpr ⟨_, _, _, takes_sender.complete led comma,
        gap.skip rfl, takes_event.complete led' close, gap'.skip rfl⟩
      refine bind_eq_ok_iff.mpr ⟨(⟨x, sender⟩, _), ?_,
        bind_eq_ok_iff.mpr ⟨_, endOfText_eq_ok_iff.mpr ⟨blank', rfl⟩, rfl⟩⟩
      simp only [envelopePart, blank.skip (show isBlankByte 0x5B = false from rfl)]
      exact array

end Envelope

/-- What an accepted body is: an object or an array of a sender and an event. -/
lemma spells_of_parseBody {body : Bytes} {v : Value} {sender : Option String}
    (parsed : parseBody body = .ok (v, sender)) : ∃ x, v = .ofTree x ∧
      (Envelope.SpellsObject x sender body ∨ Envelope.SpellsPair x sender body) := by
  obtain ⟨⟨x, sender⟩, read, same⟩ := bind_eq_ok_iff.mp parsed
  cases same
  exact ⟨x, rfl, Envelope.read_eq_ok_iff.mp read⟩

/-- Such an object or array is accepted. -/
lemma parseBody_of_spells {body : Bytes} {x : Json} {sender : Option String}
    (spells : Envelope.SpellsObject x sender body ∨ Envelope.SpellsPair x sender body) :
    parseBody body = .ok (.ofTree x, sender) :=
  bind_eq_ok_iff.mpr ⟨⟨x, sender⟩, Envelope.read_eq_ok_iff.mpr spells, rfl⟩

/-- A body is accepted if it is an object with one event and at most one sender, whatever other
members it has, or an array of a sender and an event, and nothing else is. The sender may be null,
and the event is given back as it is. -/
theorem parseBody_eq_ok_iff {body : Bytes} {v : Value} {sender : Option String} :
    parseBody body = .ok (v, sender) ↔ ∃ x, v = .ofTree x ∧
      (Envelope.SpellsObject x sender body ∨ Envelope.SpellsPair x sender body) := by
  constructor
  · exact spells_of_parseBody
  · rintro ⟨x, rfl, spells⟩
    exact parseBody_of_spells spells

/-- A body that is an array of a sender and an event is accepted, though it is no object. -/
theorem not_spellsObject_pair :
    ¬∀ (body : Bytes) (v : Value) (sender : Option String), parseBody body = .ok (v, sender) →
      ∃ x, v = .ofTree x ∧ Envelope.SpellsObject x sender body := by
  intro all
  -- the array of the text h:1 and an object
  have parsed : parseBody [0x5B, 0x22, 0x68, 0x3A, 0x31, 0x22, 0x2C, 0x7B, 0x22, 0x78, 0x22, 0x3A,
      0x31, 0x7D, 0x5D] = .ok (.ofTree (.object [("x", .number (.natural 1))]), some "h:1") := rfl
  obtain ⟨x, -, object⟩ := all _ _ _ parsed
  obtain ⟨bs, brace⟩ := object.skipBlanks
  cases brace

end EventGates.Wire
