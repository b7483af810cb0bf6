import EventGates.Proofs.Json.PassedTokens

/-!
# Values are read by the grammar

A reader of values that nest to some depth takes what the grammar spells to that depth, and as the
same tree (`takes_valueWithin`). What is passed over is what the grammar allows there, to any depth
(`passes_value`): the budget of the skipper is never too small, since every level of a value has a
byte of its own.
-/

namespace EventGates.Json.Grammar

open Text (Bytes)
open Reader (skipBlanks isBlankByte isDigit endsNumeral ne_of_isDigit)

/-! ## How values begin -/

/-- A numeral begins with a minus or a digit, and so with no blank and no other byte. -/
lemma Numeral.exists_first {tok : Bytes} (numeral : Numeral tok) :
    ∃ b bs, tok = b :: bs ∧ (b = 0x2D ∨ isDigit b = true) ∧ isBlankByte b = false ∧
      ∀ c : UInt8, c ≠ 0x2D → isDigit c = false → b ≠ c := by
  cases numeral with
  | positive unsigned =>
    obtain ⟨b, bs, whole, digit⟩ := unsigned.exists_digit
    have other : ∀ c : UInt8, isDigit c = false → b ≠ c := fun _ => ne_of_isDigit digit
    refine ⟨b, bs, whole, .inr digit, ?_, fun c _ => other c⟩
    simp only [isBlankByte, Bool.or_eq_false_iff, beq_eq_false_iff_ne]
    exact ⟨⟨⟨other _ rfl, other _ rfl⟩, other _ rfl⟩, other _ rfl⟩
  | negative unsigned => exact ⟨_, _, rfl, .inl rfl, rfl, fun _ noMinus _ => noMinus.symm⟩

/-- A numeral begins with no blank and with no closing bracket. -/
lemma Numeral.begins : Begins 0x5D fun _ : Unit => Numeral := by
  intro _ tok numeral
  obtain ⟨b, bs, whole, -, noBlank, other⟩ := numeral.exists_first
  exact ⟨b, bs, whole, noBlank, other _ (by decide) rfl⟩

/-- A value begins with no blank and with no closing bracket. -/
lemma ValueWith.begins {nested : Option (Json → Bytes → Prop)} :
    Begins 0x5D (ValueWith nested) := by
  intro x tok spells
  cases spells with
  | number spells => exact Numeral.begins () _ spells.1
  | _ => exact ⟨_, _, rfl, rfl, by decide⟩

/-- A value that is passed over begins with no blank and with no closing bracket. -/
lemma PassedWith.begins {nested : Bytes → Prop} :
    Begins 0x5D fun _ : Unit => PassedWith nested := by
  intro _ tok passed
  cases passed with
  | number numeral => exact Numeral.begins () _ numeral
  | _ => exact ⟨_, _, rfl, rfl, by decide⟩

/-! ## Values that are read -/

/-- How values inside a value are read is how they are spelled, or there are none. -/
inductive Nests : Option (Reader Json) → Option (Json → Bytes → Prop) → Prop where
  | none : Nests none none
  | some {item : Reader Json} {R : Json → Bytes → Prop} :
    Takes (takes item) (Led R) →
    Begins 0x5D R →
    Nests (some item) (some R)

/-- The items of an array are read. -/
lemma takes_items {item : Reader Json} {R : Json → Bytes → Prop}
    (nested : Takes (takes item) (Led R)) (begins : Begins 0x5D R) :
    Takes (takes (Reader.items item)) (Enclosed 0x5D R) := by
  have items := takes_afterBlanks nested begins
  have all : Takes (takesEnclosed 0x5D (fun _ mid => mid) _ _) (Enclosed 0x5D R) :=
    takes_enclosed rfl rfl (fun _ => le_rfl) items items
  exact all.congr items_eq_ok_iff

/-- The members of an object are read. -/
lemma takes_members {item : Reader Json} {R : Json → Bytes → Prop}
    (nested : Takes (takes item) (Led R)) :
    Takes (takes (Reader.members item)) (Enclosed 0x7D (Member SpellsBody fun _ => R)) := by
  have same : takes (Reader.member item) =
      takesMember (takes Reader.stringBody) fun _ => takes item := by
    funext bs m rest
    exact propext member_eq_ok_iff
  have members := takes_member takes_stringBody fun _ : String => nested
  rw [← same] at members
  have all : Takes (takesEnclosed 0x7D (fun _ mid => mid) _ _) (Enclosed 0x7D _) :=
    takes_enclosed rfl rfl (fun _ => le_rfl) members members
  exact all.congr members_eq_ok_iff

/-- What is read as a value behind the blanks is spelled there. -/
lemma spells_of_valueWith {nested : Option (Reader Json)} {R : Option (Json → Bytes → Prop)}
    (nests : Nests nested R) {b : UInt8} {bs rest : Bytes} {x : Json}
    (noBlank : isBlankByte b = false) (read : Reader.valueWith nested (b :: bs) = .ok (x, rest)) :
    ∃ tok, ValueWith R x tok ∧ b :: bs = tok ++ rest := by
  have skip : skipBlanks (b :: bs) = b :: bs := Blank.nil.skip noBlank
  simp only [Reader.valueWith, skip] at read
  split at read
  · next first =>
    obtain ⟨rfl, rfl⟩ := literal_eq_ok_iff.mp read
    exact ⟨_, .null, by rw [first]; rfl⟩
  split at read
  · next first =>
    obtain ⟨rfl, rfl⟩ := literal_eq_ok_iff.mp read
    exact ⟨_, .true, by rw [first]; rfl⟩
  split at read
  · next first =>
    obtain ⟨rfl, rfl⟩ := literal_eq_ok_iff.mp read
    exact ⟨_, .false, by rw [first]; rfl⟩
  split at read
  · obtain ⟨⟨n, left⟩, number, same⟩ := bind_eq_ok_iff.mp read
    cases same
    obtain ⟨tok, spells, parts⟩ := takes_number.sound number
    exact ⟨tok, .number spells, parts⟩
  split at read
  · next first =>
    obtain ⟨⟨s, left⟩, string, same⟩ := bind_eq_ok_iff.mp read
    cases same
    obtain ⟨body, spells, rfl⟩ := takes_stringBody.sound string
    exact ⟨_, .string spells, by rw [first]; rfl⟩
  split at read
  · next first =>
    cases nests with
    | none => cases read
    | some item begins =>
      obtain ⟨⟨xs, left⟩, items, same⟩ := bind_eq_ok_iff.mp read
      cases same
      obtain ⟨tok, spells, rfl⟩ := (takes_items item begins).sound items
      exact ⟨_, .array rfl spells, by rw [first]; rfl⟩
  split at read
  · next first =>
    cases nests with
    | none => cases read
    | some item begins =>
      obtain ⟨⟨ms, left⟩, members, same⟩ := bind_eq_ok_iff.mp read
      cases same
      obtain ⟨tok, spells, rfl⟩ := (takes_members item).sound members
      exact ⟨_, .object rfl spells, by rw [first]; rfl⟩
  cases read

/-- What spells a value is read as that value. -/
lemma valueWith_of_spells {nested : Option (Reader Json)} {R : Option (Json → Bytes → Prop)}
    (nests : Nests nested R) {x : Json} {tok rest : Bytes} (spells : ValueWith R x tok)
    (stop : endsNumeral rest = true) : Reader.valueWith nested (tok ++ rest) = .ok (x, rest) := by
  cases spells with
  | null => rfl
  | true => rfl
  | false => rfl
  | number spells =>
    have number := takes_number.complete spells stop
    obtain ⟨b, bs, rfl, first, noBlank, other⟩ := spells.1.exists_first
    have skip : skipBlanks (b :: (bs ++ rest)) = b :: (bs ++ rest) := Blank.nil.skip noBlank
    simp only [List.cons_append, Reader.valueWith, skip, other 0x6E (by decide) rfl,
      other 0x74 (by decide) rfl, other 0x66 (by decide) rfl, if_false]
    rw [if_pos (by simpa using first)]
    exact bind_eq_ok_iff.mpr ⟨_, number, rfl⟩
  | string spells =>
    have string := takes_stringBody.complete spells stop
    exact bind_eq_ok_iff.mpr ⟨_, string, rfl⟩
  | array some spells =>
    subst some
    obtain - | ⟨item, begins⟩ := nests
    exact bind_eq_ok_iff.mpr ⟨_, (takes_items item begins).complete spells stop, rfl⟩
  | object some spells =>
    subst some
    obtain - | ⟨item, begins⟩ := nests
    exact bind_eq_ok_iff.mpr ⟨_, (takes_members item).complete spells stop, rfl⟩

/-- A value is read, behind blanks. -/
lemma takes_valueWith {nested : Option (Reader Json)} {R : Option (Json → Bytes → Prop)}
    (nests : Nests nested R) : Takes (takes (Reader.valueWith nested)) (Led (ValueWith R)) := by
  refine takes_led ValueWith.begins (fun bs => ?_) nofun (spells_of_valueWith nests)
    (valueWith_of_spells nests)
  funext x rest
  simp only [takes, Reader.valueWith, skipBlanks_skipBlanks]

/-- A value that nests no more deeply than it may is read, behind blanks. -/
theorem takes_valueWithin (depth : Nat) :
    Takes (takes (Reader.valueWithin depth)) (Led (Spells depth)) := by
  induction depth with
  | zero => exact takes_valueWith .none
  | succ depth ih =>
    have begins : Begins 0x5D (Spells depth) := by
      cases depth with
      | zero => exact ValueWith.begins
      | succ depth => exact ValueWith.begins
    exact takes_valueWith (.some ih begins)

/-! ## Values that are passed over -/

section

variable {item : Skipper} {N : Bytes → Prop}

/-- The items of an array are passed over. -/
lemma passes_items (nested : Takes (passes item) (Led fun _ : Unit => N))
    (begins : Begins 0x5D fun _ : Unit => N) :
    Takes (passes (Skipper.items item)) fun (_ : Unit) tok =>
      ∃ us : List Unit, Enclosed 0x5D (fun _ => N) us tok := by
  have all : Takes (takesEnclosed 0x5D (fun bs _ => skipBlanks bs) _ _) (Enclosed 0x5D _) :=
    takes_enclosed rfl rfl (fun led => led.length_le_skipBlanks begins _)
      (takes_afterBlanks nested begins) nested
  constructor
  · intro bs rest _ read
    obtain ⟨us, taken⟩ := skipper_items_eq_ok_iff.mp read
    obtain ⟨tok, spells, parts⟩ := all.sound taken
    exact ⟨tok, ⟨us, spells⟩, parts⟩
  · rintro tok rest _ ⟨us, spells⟩ stop
    exact skipper_items_eq_ok_iff.mpr ⟨us, all.complete spells stop⟩

/-- The members of an object are passed over. -/
lemma passes_members (nested : Takes (passes item) (Led fun _ : Unit => N)) :
    Takes (passes (Skipper.members item)) fun (_ : Unit) tok => ∃ us : List (Unit × Unit),
      Enclosed 0x7D (Member (fun _ => PassedContent) fun _ _ => N) us tok := by
  have same : (passes (Skipper.member item) : Intake (Unit × Unit)) =
      behindQuote (takesMember (passes Skipper.string) fun _ => passes item) := by
    funext bs m rest
    exact propext skipper_member_eq_ok_iff
  have members := takes_member passes_string fun _ : Unit => nested
  rw [← same] at members
  have begins : Begins 0x7D (Member (fun _ : Unit => PassedContent) fun _ (_ : Unit) => N) := by
    rintro _ _ ⟨_, _, _⟩
    exact ⟨_, _, rfl, rfl, by decide⟩
  have all : Takes (takesEnclosed 0x7D (fun bs _ => skipBlanks bs) _ _) (Enclosed 0x7D _) :=
    takes_enclosed rfl rfl (fun led => led.length_le_skipBlanks begins _)
      (takes_afterBlanks members begins) members
  constructor
  · intro bs rest _ read
    obtain ⟨us, taken⟩ := skipper_members_eq_ok_iff.mp read
    obtain ⟨tok, spells, parts⟩ := all.sound taken
    exact ⟨tok, ⟨us, spells⟩, parts⟩
  · rintro tok rest _ ⟨us, spells⟩ stop
    exact skipper_members_eq_ok_iff.mpr ⟨us, all.complete spells stop⟩

/-- The letters of a word are passed over. -/
lemma skipper_literal_eq_ok_iff {letters bs rest : Bytes} :
    Skipper.literal letters bs = .ok rest ↔ bs = letters ++ rest := by
  constructor
  · intro read
    obtain ⟨⟨x, left⟩, word, same⟩ := bind_eq_ok_iff.mp read
    cases same
    exact (literal_eq_ok_iff.mp word).2
  · intro same
    exact bind_eq_ok_iff.mpr ⟨(.null, rest), literal_eq_ok_iff.mpr ⟨rfl, same⟩, rfl⟩

/-- What is passed over behind the blanks is a value there. -/
lemma passed_of_valueWith (nested : Takes (passes item) (Led fun _ : Unit => N))
    (begins : Begins 0x5D fun _ : Unit => N) {b : UInt8} {bs rest : Bytes}
    (noBlank : isBlankByte b = false) (read : Skipper.valueWith item (b :: bs) = .ok rest) :
    ∃ tok, PassedWith N tok ∧ b :: bs = tok ++ rest := by
  have skip : skipBlanks (b :: bs) = b :: bs := Blank.nil.skip noBlank
  simp only [Skipper.valueWith, skip] at read
  split at read
  · next first =>
    cases skipper_literal_eq_ok_iff.mp read
    exact ⟨_, .null, by rw [first]; rfl⟩
  split at read
  · next first =>
    cases skipper_literal_eq_ok_iff.mp read
    exact ⟨_, .true, by rw [first]; rfl⟩
  split at read
  · next first =>
    cases skipper_literal_eq_ok_iff.mp read
    exact ⟨_, .false, by rw [first]; rfl⟩
  split at read
  · next first =>
    obtain ⟨tok, unsigned, rfl⟩ := passes_unsignedNumber.sound (x := ()) read
    exact ⟨_, .number (.negative unsigned), by rw [first]; rfl⟩
  split at read
  · obtain ⟨tok, unsigned, parts⟩ := passes_unsignedNumber.sound (x := ()) read
    exact ⟨_, .number (.positive unsigned), parts⟩
  split at read
  · next first =>
    obtain ⟨body, pieces, rfl⟩ := passes_string.sound (x := ()) read
    exact ⟨_, .string pieces, by rw [first]; rfl⟩
  split at read
  · next first =>
    obtain ⟨tok, ⟨us, spells⟩, rfl⟩ := (passes_items nested begins).sound (x := ()) read
    exact ⟨_, .array spells, by rw [first]; rfl⟩
  split at read
  · next first =>
    obtain ⟨tok, ⟨us, spells⟩, rfl⟩ := (passes_members nested).sound (x := ()) read
    exact ⟨_, .object spells, by rw [first]; rfl⟩
  cases read

/-- A value is passed over to its end. -/
lemma valueWith_of_passed (nested : Takes (passes item) (Led fun _ : Unit => N))
    (begins : Begins 0x5D fun _ : Unit => N) {tok rest : Bytes} (passed : PassedWith N tok)
    (stop : endsNumeral rest = true) : Skipper.valueWith item (tok ++ rest) = .ok rest := by
  cases passed with
  | null => rfl
  | true => rfl
  | false => rfl
  | number numeral =>
    cases numeral with
    | negative unsigned => exact passes_unsignedNumber.complete (x := ()) unsigned stop
    | positive unsigned =>
      have number := passes_unsignedNumber.complete (x := ()) unsigned stop
      obtain ⟨b, bs, rfl, digit⟩ := unsigned.exists_digit
      obtain ⟨_, _, ⟨⟩, -, noBlank, -⟩ := (Numeral.positive unsigned).exists_first
      have other : ∀ c : UInt8, isDigit c = false → b ≠ c := fun _ => ne_of_isDigit digit
      have skip : skipBlanks (b :: (bs ++ rest)) = b :: (bs ++ rest) := Blank.nil.skip noBlank
      simp only [List.cons_append, Skipper.valueWith, skip, other 0x6E rfl, other 0x74 rfl,
        other 0x66 rfl, other 0x2D rfl, if_false, digit, if_true]
      exact number
  | string pieces => exact passes_string.complete (x := ()) pieces stop
  | array spells => exact (passes_items nested begins).complete (x := ()) ⟨_, spells⟩ stop
  | object spells => exact (passes_members nested).complete (x := ()) ⟨_, spells⟩ stop

/-- A value is passed over, behind blanks. -/
lemma passes_valueWith (nested : Takes (passes item) (Led fun _ : Unit => N))
    (begins : Begins 0x5D fun _ : Unit => N) :
    Takes (passes (Skipper.valueWith item)) (Led fun _ : Unit => PassedWith N) := by
  refine takes_led PassedWith.begins (fun bs => ?_) nofun (passed_of_valueWith nested begins)
    (valueWith_of_passed nested begins)
  funext x rest
  simp only [passes, Skipper.valueWith, skipBlanks_skipBlanks]

end

/-- A value that nests no more deeply than the budget has bytes is passed over, behind blanks. -/
lemma passes_valueWithin (budget : Bytes) :
    Takes (passes (Skipper.valueWithin budget))
      (Led fun _ : Unit => PassedWithin budget.length) := by
  induction budget with
  | nil =>
    have none : Takes (passes fun bs => .error (.next .expectedValue bs))
        (Led fun _ : Unit => fun _ => False) :=
      ⟨nofun, by rintro _ _ _ ⟨_, _, _, ⟨⟩, _⟩⟩
    exact passes_valueWith none nofun
  | cons _ budget ih =>
    have begins : Begins 0x5D fun _ : Unit => PassedWithin budget.length := by
      cases budget with
      | nil => exact PassedWith.begins
      | cons _ budget => exact PassedWith.begins
    exact passes_valueWith ih begins

/-! ## How deeply a value nests -/

section

variable {α : Type} {close : UInt8} {R R' : α → Bytes → Prop} {xs : List α} {tok : Bytes}

/-- The items of a list are no longer than the list. -/
lemma Tail.imp (tail : Tail close R xs tok)
    (implies : ∀ x text, text.length ≤ tok.length → R x text → R' x text) :
    Tail close R' xs tok := by
  induction tail with
  | close blank => exact .close blank
  | comma blank led tail ih =>
    obtain ⟨w', text, blank', spells, rfl⟩ := led
    simp only [List.length_append, List.length_cons] at implies
    have here := implies _ _ (by omega) spells
    exact .comma blank ⟨w', text, blank', here, rfl⟩
      (ih fun x text short => implies x text (by omega))

/-- The items of a list are no longer than the list, with the first one. -/
lemma Enclosed.imp (enclosed : Enclosed close R xs tok)
    (implies : ∀ x text, text.length ≤ tok.length → R x text → R' x text) :
    Enclosed close R' xs tok := by
  cases enclosed with
  | empty blank => exact .empty blank
  | items led tail =>
    obtain ⟨w, text, blank, spells, rfl⟩ := led
    simp only [List.length_append] at implies
    have here := implies _ _ (by omega) spells
    exact .items ⟨w, text, blank, here, rfl⟩
      (tail.imp fun x text short => implies x text (by omega))

/-- What stands under a key is no longer than the member. -/
lemma Member.imp {κ : Type} {K : κ → Bytes → Prop} {R R' : κ → α → Bytes → Prop} {m : κ × α}
    (member : Member K R m tok)
    (implies : ∀ key x text, text.length ≤ tok.length → R key x text → R' key x text) :
    Member K R' m tok := by
  obtain ⟨key, blank, w, text, blank', spells, rfl⟩ := member
  simp only [List.length_append, List.length_cons] at implies
  have here := implies _ _ _ (by omega) spells
  exact .mk key blank ⟨w, text, blank', here, rfl⟩

end

/-- The values inside a value are shorter. -/
lemma PassedWith.imp {N N' : Bytes → Prop} {tok : Bytes} (passed : PassedWith N tok)
    (implies : ∀ text, text.length < tok.length → N text → N' text) : PassedWith N' tok := by
  cases passed with
  | null => exact .null
  | true => exact .true
  | false => exact .false
  | number numeral => exact .number numeral
  | string pieces => exact .string pieces
  | array items =>
    exact .array (items.imp fun _ text short => implies text (Nat.lt_succ_of_le short))
  | object members =>
    refine .object (members.imp fun _ member short here => here.imp fun _ _ text shorter => ?_)
    exact implies text (Nat.lt_succ_of_le (Nat.le_trans shorter short))

/-- The values inside a value are values themselves. -/
lemma PassedWithin.exists_nested {depth : Nat} {tok : Bytes} (passed : PassedWithin depth tok) :
    ∃ N, PassedWith N tok ∧ ∀ text, N text → ∃ depth, PassedWithin depth text := by
  cases depth with
  | zero => exact ⟨_, passed, nofun⟩
  | succ depth => exact ⟨_, passed, fun _ here => ⟨depth, here⟩⟩

/-- A value nests no more deeply than it has bytes. -/
lemma PassedWithin.of_length_le {depth limit : Nat} {tok : Bytes} (passed : PassedWithin depth tok)
    (enough : tok.length ≤ limit) : PassedWithin limit tok := by
  induction limit generalizing depth tok with
  | zero =>
    obtain ⟨N, passed, -⟩ := passed.exists_nested
    obtain ⟨b, bs, rfl, -⟩ := PassedWith.begins () _ passed
    cases enough
  | succ limit ih =>
    obtain ⟨N, passed, inside⟩ := passed.exists_nested
    refine passed.imp fun text shorter here => ?_
    obtain ⟨depth, here⟩ := inside text here
    exact ih here (by omega)

/-- Any value is passed over, behind blanks. -/
theorem passes_value : Takes (passes Skipper.value) (Led fun _ : Unit => Passed) where
  sound {bs rest u} := by
    intro read
    obtain ⟨text, ⟨w, tok, blank, passed, whole⟩, parts⟩ :=
      (passes_valueWithin bs).sound (x := u) read
    exact ⟨text, ⟨w, tok, blank, ⟨_, passed⟩, whole⟩, parts⟩
  complete {_ rest u} := by
    rintro ⟨w, tok, blank, ⟨depth, passed⟩, rfl⟩ stop
    have enough : tok.length ≤ (w ++ tok ++ rest).length := by
      simp only [List.length_append]
      omega
    have within := passed.of_length_le enough
    exact (passes_valueWithin _).complete (x := u) ⟨w, tok, blank, within, rfl⟩ stop

end EventGates.Json.Grammar
