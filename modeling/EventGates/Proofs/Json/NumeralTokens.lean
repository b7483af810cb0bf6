import EventGates.Proofs.Json.Grammar
import EventGates.Proofs.Json.ReadBack

/-!
# Numerals are read by the grammar

What is read as a number is a numeral of the grammar, and it is read as the same number wherever it
stands, if nothing comes next that could go on with it. A reader of numerals is followed part by
part: `Extends` says that it goes over a part of some form, and over the same part whatever else
comes next. The main theorem is `extends_number`.
-/

namespace EventGates.Json.Grammar

open Text (Bytes)
open Reader

/-- A reader goes over a part of the form `G`, and as far whatever comes next that could not go on
with a numeral. -/
def Extends (r : Reader Number) (G : Bytes → Prop) : Prop :=
  ∀ bs n rest, r bs = .ok (n, rest) → ∃ tok, G tok ∧ bs = tok ++ rest ∧
    ∀ rest', endsNumeral rest' = true → r (tok ++ rest') = .ok (n, rest')

/-! ## Digits -/

/-- A run of digits is dropped up to what is none. -/
lemma dropWhile_digits {ds rest : Bytes} (digits : ∀ b ∈ ds, isDigit b = true)
    (stop : startsWithDigit rest = false) :
    (ds ++ rest).dropWhile isDigit = rest ∧ (ds ++ rest).takeWhile isDigit = ds := by
  rw [List.dropWhile_append_of_pos digits, List.takeWhile_append_of_pos digits]
  cases rest with
  | nil => exact ⟨rfl, List.append_nil ds⟩
  | cons b rest =>
    have other : ¬isDigit b = true := by simpa [startsWithDigit] using stop
    rw [List.dropWhile_cons_of_neg other, List.takeWhile_cons_of_neg other]
    exact ⟨rfl, List.append_nil ds⟩

/-- What begins with a digit begins with a run of digits, which is the same before another rest. -/
lemma exists_digits {bs : Bytes} (first : startsWithDigit bs = true) :
    ∃ ds, Digits ds ∧ bs = ds ++ bs.dropWhile isDigit ∧ bs.takeWhile isDigit = ds ∧
      ∀ rest', startsWithDigit (ds ++ rest') = true ∧ (ds ++ rest').head? = bs.head? := by
  cases bs with
  | nil => cases first
  | cons b bs =>
    have digit : isDigit b = true := first
    have taken := List.takeWhile_cons_of_pos (l := bs) digit
    refine ⟨_, ⟨?_, List.all_eq_true.mp List.all_takeWhile⟩,
      List.takeWhile_append_dropWhile.symm, rfl, fun rest' => ?_⟩
    · rw [taken]
      exact List.cons_ne_nil _ _
    · rw [taken]
      exact ⟨digit, rfl⟩

/-- Digits are taken up to what is none, or up to the digit that is too many. -/
lemma takeDigits_spec {limit s s' count : Nat} {bs rest : Bytes}
    (taken : takeDigits limit s bs = (s', count, rest)) :
    ∃ ds, (∀ b ∈ ds, isDigit b = true) ∧ bs = ds ++ rest ∧ ds.length = count ∧
      ∀ rest', (∀ b ∈ rest'.head?, isDigit b = true → b ∈ rest.head?) →
        takeDigits limit s (ds ++ rest') = (s', count, rest') := by
  induction bs generalizing s s' count with
  | nil =>
    cases taken
    refine ⟨[], nofun, rfl, rfl, fun rest' same => ?_⟩
    cases rest' with
    | nil => rfl
    | cons c rest' =>
      have other : ¬isDigit c = true := fun digit => nomatch same c rfl digit
      simp [takeDigits, other]
  | cons b bs ih =>
    rw [takeDigits] at taken
    split at taken
    · next fits =>
      obtain ⟨digit, -⟩ := Bool.and_eq_true_iff.mp fits
      rcases more : takeDigits limit (10 * s + digitValue b) bs with ⟨s'', count', rest'⟩
      rw [more] at taken
      cases taken
      obtain ⟨ds, digits, parts, length, again⟩ := ih more
      refine ⟨b :: ds, ?_, by rw [parts]; rfl, by rw [← length]; rfl, fun rest' same => ?_⟩
      · rintro c (_ | ⟨_, mem⟩)
        · exact digit
        · exact digits c mem
      · rw [List.cons_append, takeDigits, if_pos fits, again rest' same]
    · next excess =>
      cases taken
      refine ⟨[], nofun, rfl, rfl, fun rest' same => ?_⟩
      cases rest' with
      | nil => rfl
      | cons c rest' =>
        have stop : ¬(isDigit c && decide (10 * s + digitValue c < limit)) = true := by
          intro fits
          cases same c rfl (Bool.and_eq_true_iff.mp fits).1
          exact excess fits
        rw [List.nil_append, takeDigits, if_neg stop]

/-- What ends a numeral begins with no digit that could be one too many. -/
lemma head_of_noDigit {rest rest' : Bytes} (stop : startsWithDigit rest' = false) :
    ∀ b ∈ rest'.head?, isDigit b = true → b ∈ rest.head? := by
  cases rest' with
  | nil => nofun
  | cons c rest' =>
    rintro b ⟨⟩ digit
    cases digit.symm.trans stop

/-! ## Exponents -/

/-- What stands behind the letter of an exponent. -/
inductive SignedDigits : Bytes → Prop where
  | mk {sign ds : Bytes} :
    ExponentSign sign →
    Digits ds →
    SignedDigits (sign ++ ds)

/-- The scaled number takes nothing. -/
lemma extends_realNumber (negative : Bool) (significand : Nat) (exponent : Int) :
    Extends (realNumber negative significand exponent) (· = []) := by
  intro bs n rest read
  refine ⟨[], rfl, ?_⟩
  simp only [realNumber] at read ⊢
  split at read
  · next found =>
    cases read
    exact ⟨rfl, fun rest' _ => rfl⟩
  · cases read

/-- A whole number takes nothing besides its digits. -/
lemma extends_wholeNumber (negative : Bool) (significand : Nat) :
    Extends (wholeNumber negative significand) (· = []) := by
  intro bs n rest read
  simp only [wholeNumber] at read ⊢
  split at read
  · split at read
    · next sign fits =>
      cases read
      exact ⟨[], rfl, rfl, fun rest' _ => by rw [if_pos sign, dif_pos fits]; rfl⟩
    · next sign excess =>
      obtain ⟨tok, rfl, parts, again⟩ := extends_realNumber _ _ _ _ _ _ read
      refine ⟨[], rfl, parts, fun rest' stop => ?_⟩
      rw [if_pos sign, dif_neg excess]
      exact again rest' stop
  · split at read
    · next sign fits =>
      cases read
      exact ⟨[], rfl, rfl, fun rest' _ => by rw [if_neg sign, dif_pos fits]; rfl⟩
    · next sign excess =>
      obtain ⟨tok, rfl, parts, again⟩ := extends_realNumber _ _ _ _ _ _ read
      refine ⟨[], rfl, parts, fun rest' stop => ?_⟩
      rw [if_neg sign, dif_neg excess]
      exact again rest' stop

/-- The digits of an exponent are taken to the last, whatever they come to. -/
lemma extends_exponentDigits (negative : Bool) (significand : Nat) (exponent : Int)
    (negativeExponent : Bool) (first : Nat) :
    Extends (exponentDigits negative significand exponent negativeExponent first)
      (∀ b ∈ ·, isDigit b = true) := by
  intro bs n rest read
  simp only [exponentDigits] at read ⊢
  rcases taken : takeDigits exponentLimit first bs with ⟨e, count, left⟩
  obtain ⟨ds, digits, parts, -, again⟩ := takeDigits_spec taken
  simp only [taken] at read
  split at read
  · next more =>
    split at read
    · cases read
    · next harmless =>
      cases read
      obtain ⟨ds', ⟨-, digits'⟩, parts', -, begins⟩ := exists_digits more
      refine ⟨ds ++ ds', ?_, ?_, fun rest' stop => ?_⟩
      · exact fun b mem => (List.mem_append.mp mem).elim (digits b) (digits' b)
      · rw [List.append_assoc, ← parts', parts]
      · have noDigit := startsWithDigit_of_endsNumeral stop
        obtain ⟨goesOn, head⟩ := begins rest'
        rw [List.append_assoc, again (ds' ++ rest') fun b mem _ => head ▸ mem]
        simp only
        rw [if_pos goesOn, if_neg harmless, (dropWhile_digits digits' noDigit).1]
  · next stop =>
    obtain ⟨tok, rfl, parts', again'⟩ := extends_realNumber _ _ _ _ _ _ read
    refine ⟨ds, digits, ?_, fun rest' stop' => ?_⟩
    · rw [parts, parts', List.nil_append]
    · have noDigit := startsWithDigit_of_endsNumeral stop'
      rw [again rest' (head_of_noDigit noDigit)]
      simp only
      rw [if_neg (by simp [noDigit])]
      exact again' rest' stop'

/-- What follows the letter of an exponent begins with a sign or with something else. -/
lemma exists_sign (bs : Bytes) :
    ∃ sign bs', ExponentSign sign ∧ bs = sign ++ bs' ∧
      (sign = [] → ∀ b ∈ bs'.head?, b ≠ 0x2B ∧ b ≠ 0x2D) := by
  cases bs with
  | nil => exact ⟨[], [], .inl rfl, rfl, fun _ => nofun⟩
  | cons b bs =>
    by_cases plus : b = 0x2B
    · exact ⟨[b], bs, .inr (.inl (by rw [plus])), rfl, nofun⟩
    · by_cases minus : b = 0x2D
      · exact ⟨[b], bs, .inr (.inr (by rw [minus])), rfl, nofun⟩
      · refine ⟨[], b :: bs, .inl rfl, rfl, ?_⟩
        rintro - c ⟨⟩
        exact ⟨plus, minus⟩

/-- What is read behind the sign of an exponent. -/
def unsignedExponent (negative : Bool) (significand : Nat) (exponent : Int)
    (negativeExponent : Bool) : Reader Number
  | [] => .error (.here .endInValue [])
  | b :: rest =>
    if isDigit b then
      exponentDigits negative significand exponent negativeExponent (digitValue b) rest
    else .error (.here .invalidNumber rest)

/-- The digits of an exponent are read behind its sign. -/
lemma exponentPart_append (negative : Bool) (significand : Nat) (exponent : Int) {sign bs : Bytes}
    (signed : ExponentSign sign) (unsigned : sign = [] → ∀ b ∈ bs.head?, b ≠ 0x2B ∧ b ≠ 0x2D) :
    exponentPart negative significand exponent (sign ++ bs) =
      unsignedExponent negative significand exponent (decide (sign = [0x2D])) bs := by
  obtain rfl | rfl | rfl := signed
  · cases bs with
    | nil => rfl
    | cons b bs =>
      obtain ⟨plus, minus⟩ := unsigned rfl b rfl
      simp [exponentPart, unsignedExponent, plus, minus]
  · cases bs <;> rfl
  · cases bs <;> rfl

/-- What follows the letter of an exponent is a sign, if there is one, and digits. -/
lemma extends_exponentPart (negative : Bool) (significand : Nat) (exponent : Int) :
    Extends (exponentPart negative significand exponent) SignedDigits := by
  intro bs n rest read
  obtain ⟨sign, bs, signed, rfl, unsigned⟩ := exists_sign bs
  rw [exponentPart_append negative significand exponent signed unsigned] at read
  cases bs with
  | nil => cases read
  | cons b bs =>
    simp only [unsignedExponent] at read
    split at read
    · next digit =>
      obtain ⟨ds, digits, rfl, again⟩ := extends_exponentDigits _ _ _ _ _ _ _ _ read
      refine ⟨sign ++ b :: ds, .mk signed ⟨List.cons_ne_nil b ds, ?_⟩, ?_, fun rest' stop => ?_⟩
      · rintro c (_ | ⟨_, mem⟩)
        · exact digit
        · exact digits c mem
      · rw [List.append_assoc, List.cons_append]
      · have unsigned' : sign = [] → ∀ c ∈ (b :: (ds ++ rest')).head?, c ≠ 0x2B ∧ c ≠ 0x2D := by
          rintro - c ⟨⟩
          exact ⟨ne_of_isDigit digit rfl, ne_of_isDigit digit rfl⟩
        rw [List.append_assoc, List.cons_append,
          exponentPart_append negative significand exponent signed unsigned', unsignedExponent,
          if_pos digit]
        exact again rest' stop
    · cases read

/-- A letter and what follows it are taken, or nothing where no letter comes next. -/
lemma extends_letter {r part r' : Reader Number}
    (letters : ∀ letter bs, letter = 0x65 ∨ letter = 0x45 → r (letter :: bs) = part bs)
    (other : ∀ bs, (∀ b ∈ bs.head?, b ≠ 0x65 ∧ b ≠ 0x45) → r bs = r' bs)
    (exponent : Extends part SignedDigits) (none : Extends r' (· = [])) : Extends r Exponent := by
  intro bs n rest read
  by_cases given : ∃ letter bs', (letter = 0x65 ∨ letter = 0x45) ∧ bs = letter :: bs'
  · obtain ⟨letter, bs, isLetter, rfl⟩ := given
    rw [letters letter bs isLetter] at read
    obtain ⟨_, ⟨signed, digits⟩, rfl, again⟩ := exponent _ _ _ read
    refine ⟨_, .some isLetter signed digits, rfl, fun rest' stop => ?_⟩
    rw [List.cons_append, letters letter _ isLetter]
    exact again rest' stop
  · have noLetter : ∀ b ∈ bs.head?, b ≠ 0x65 ∧ b ≠ 0x45 := by
      intro b mem
      obtain ⟨bs', rfl⟩ := List.head?_eq_some_iff.mp mem
      exact ⟨fun same => given ⟨b, bs', .inl same, rfl⟩, fun same => given ⟨b, bs', .inr same, rfl⟩⟩
    rw [other bs noLetter] at read
    obtain ⟨tok, rfl, parts, again⟩ := none _ _ _ read
    refine ⟨[], .none, parts, fun rest' stop => ?_⟩
    have stillNoLetter : ∀ b ∈ rest'.head?, b ≠ 0x65 ∧ b ≠ 0x45 := by
      intro b mem
      obtain ⟨bs', rfl⟩ := List.head?_eq_some_iff.mp mem
      exact (endsNumeral_cons stop).2.2
    rw [List.nil_append, other rest' stillNoLetter]
    exact again rest' stop

lemma extends_exponentOrEnd (negative : Bool) (significand : Nat) (exponent : Int) :
    Extends (exponentOrEnd negative significand exponent) Exponent := by
  refine extends_letter ?_ ?_ (extends_exponentPart negative significand exponent)
    (extends_realNumber negative significand exponent)
  · rintro letter bs (rfl | rfl)
    · rfl
    · rfl
  · intro bs other
    cases bs with
    | nil => rfl
    | cons b bs =>
      obtain ⟨small, capital⟩ := other b rfl
      simp [exponentOrEnd, small, capital]

/-! ## Fractions -/

/-- No digit comes next where an exponent may stand at the end of a numeral. -/
lemma Exponent.noDigit {tok rest : Bytes} (exponent : Exponent tok)
    (stop : endsNumeral rest = true) : startsWithDigit (tok ++ rest) = false := by
  cases exponent with
  | none => exact startsWithDigit_of_endsNumeral stop
  | some letter signed digits =>
    obtain rfl | rfl := letter
    · rfl
    · rfl

/-- What follows the point are digits, and an exponent if there is one. -/
lemma extends_decimals (negative : Bool) (significand : Nat) (exponent : Int) :
    Extends (decimals negative significand exponent)
      fun tok => ∃ ds e, Digits ds ∧ Exponent e ∧ tok = ds ++ e := by
  intro bs n rest read
  simp only [decimals] at read ⊢
  rcases taken : takeDigits significandLimit significand bs with ⟨s, count, left⟩
  obtain ⟨ds, digits, rfl, length, again⟩ := takeDigits_spec taken
  simp only [taken] at read
  split at read
  · next more =>
    obtain ⟨ds', ⟨some, digits'⟩, parts, -, begins⟩ := exists_digits more
    obtain ⟨e, ends, parts', again'⟩ := extends_exponentOrEnd _ _ _ _ _ _ read
    refine ⟨(ds ++ ds') ++ e, ⟨ds ++ ds', e, ⟨?_, ?_⟩, ends, rfl⟩, ?_, fun rest' stop => ?_⟩
    · exact List.append_ne_nil_of_right_ne_nil ds some
    · exact fun b mem => (List.mem_append.mp mem).elim (digits b) (digits' b)
    · rw [List.append_assoc, List.append_assoc, ← parts', ← parts]
    · obtain ⟨goesOn, head⟩ := begins (e ++ rest')
      rw [List.append_assoc, List.append_assoc,
        again (ds' ++ (e ++ rest')) fun b mem _ => head ▸ mem]
      simp only
      rw [if_pos goesOn, (dropWhile_digits digits' (ends.noDigit stop)).1]
      exact again' rest' stop
  · split at read
    · cases read
    · next some =>
      obtain ⟨e, ends, rfl, again'⟩ := extends_exponentOrEnd _ _ _ _ _ _ read
      refine ⟨ds ++ e, ⟨ds, e, ⟨?_, digits⟩, ends, rfl⟩, (List.append_assoc ..).symm,
        fun rest' stop => ?_⟩
      · rintro rfl
        exact some length.symm
      · have noDigit := ends.noDigit stop
        rw [List.append_assoc, again (e ++ rest') (head_of_noDigit noDigit)]
        simp only
        rw [if_neg (by simp [noDigit]), if_neg some]
        exact again' rest' stop

/-- What stands behind the digits before the point. -/
inductive Ending : Bytes → Prop where
  | mk {fraction exponent : Bytes} :
    Fraction fraction →
    Exponent exponent →
    Ending (fraction ++ exponent)

/-- No digit comes next where the point or an exponent may stand at the end of a numeral. -/
lemma Ending.noDigit {tok rest : Bytes} (ending : Ending tok) (stop : endsNumeral rest = true) :
    startsWithDigit (tok ++ rest) = false := by
  obtain ⟨fraction, exponent⟩ := ending
  cases fraction with
  | none => exact exponent.noDigit stop
  | some digits => rfl

/-- The point and what follows it are taken, or what another reader takes where no point comes
next. -/
lemma extends_point {r r' decimals : Reader Number} (point : ∀ bs, r (0x2E :: bs) = decimals bs)
    (other : ∀ bs, (∀ b ∈ bs.head?, b ≠ 0x2E) → r bs = r' bs)
    (fraction : Extends decimals fun tok => ∃ ds e, Digits ds ∧ Exponent e ∧ tok = ds ++ e)
    (exponent : Extends r' Exponent) : Extends r Ending := by
  intro bs n rest read
  by_cases given : ∃ bs', bs = 0x2E :: bs'
  · obtain ⟨bs, rfl⟩ := given
    rw [point] at read
    obtain ⟨_, ⟨ds, e, digits, ends, rfl⟩, rfl, again⟩ := fraction _ _ _ read
    refine ⟨(0x2E :: ds) ++ e, .mk (.some digits) ends, rfl, fun rest' stop => ?_⟩
    rw [List.cons_append, List.cons_append, point]
    exact again rest' stop
  · have noPoint : ∀ b ∈ bs.head?, b ≠ 0x2E := by
      rintro b mem rfl
      exact given (List.head?_eq_some_iff.mp mem)
    rw [other bs noPoint] at read
    obtain ⟨e, ends, rfl, again⟩ := exponent _ _ _ read
    refine ⟨[] ++ e, .mk .none ends, rfl, fun rest' stop => ?_⟩
    have stillNoPoint : ∀ b ∈ (e ++ rest').head?, b ≠ 0x2E := by
      intro b mem
      cases ends with
      | none =>
        obtain ⟨bs', rfl⟩ := List.head?_eq_some_iff.mp mem
        exact (endsNumeral_cons stop).2.1
      | some letter _ _ =>
        cases mem
        obtain rfl | rfl := letter <;> decide
    rw [List.nil_append, other _ stillNoPoint]
    exact again rest' stop

/-- What follows the digits of a whole number if no point comes next. -/
def exponentOrWhole (negative : Bool) (significand : Nat) : Reader Number
  | 0x65 :: rest | 0x45 :: rest => exponentPart negative significand 0 rest
  | rest => wholeNumber negative significand rest

lemma extends_exponentOrWhole (negative : Bool) (significand : Nat) :
    Extends (exponentOrWhole negative significand) Exponent := by
  refine extends_letter ?_ ?_ (extends_exponentPart negative significand 0)
    (extends_wholeNumber negative significand)
  · rintro letter bs (rfl | rfl)
    · rfl
    · rfl
  · intro bs other
    cases bs with
    | nil => rfl
    | cons b bs =>
      obtain ⟨small, capital⟩ := other b rfl
      simp [exponentOrWhole, small, capital]

/-- Behind the digits before the point stands the ending of the numeral. -/
lemma extends_afterDigits (negative : Bool) (significand : Nat) :
    Extends (afterDigits negative significand) Ending := by
  refine extends_point (fun _ => rfl) ?_ (extends_decimals negative significand 0)
    (extends_exponentOrWhole negative significand)
  intro bs noPoint
  cases bs with
  | nil => rfl
  | cons b bs =>
    have other := noPoint b rfl
    by_cases small : b = 0x65
    · rw [small]
      rfl
    · by_cases capital : b = 0x45
      · rw [capital]
        rfl
      · simp [afterDigits, exponentOrWhole, other, small, capital]

/-- What is read behind digits beyond the limit, which only depends on how many they are. -/
def afterExcess (negative : Bool) (significand exponent : Nat) : Reader Number
  | 0x2E :: rest => decimals negative significand exponent rest
  | rest => exponentOrEnd negative significand exponent rest

lemma longNumeral_eq (negative : Bool) (significand : Nat) (bs : Bytes) :
    longNumeral negative significand bs =
      afterExcess negative significand (bs.takeWhile isDigit).length (bs.dropWhile isDigit) :=
  rfl

/-- Behind the digits beyond the limit stands the ending of the numeral. -/
lemma extends_afterExcess (negative : Bool) (significand exponent : Nat) :
    Extends (afterExcess negative significand exponent) Ending := by
  refine extends_point (fun _ => rfl) ?_ (extends_decimals negative significand exponent)
    (extends_exponentOrEnd negative significand exponent)
  intro bs noPoint
  cases bs with
  | nil => rfl
  | cons b bs =>
    have other := noPoint b rfl
    simp [afterExcess, other]

/-- Digits beyond the limit and the ending of the numeral. -/
lemma extends_longNumeral (negative : Bool) (significand : Nat) {bs rest : Bytes} {n : Number}
    (more : startsWithDigit bs = true)
    (read : longNumeral negative significand bs = .ok (n, rest)) :
    ∃ ds tok, Digits ds ∧ Ending tok ∧ bs = ds ++ (tok ++ rest) ∧
      ∀ rest', endsNumeral rest' = true →
        longNumeral negative significand (ds ++ (tok ++ rest')) = .ok (n, rest') := by
  obtain ⟨ds, digits, parts, run, -⟩ := exists_digits more
  rw [longNumeral_eq, run] at read
  obtain ⟨tok, ends, parts', again⟩ := extends_afterExcess negative significand ds.length _ _ _ read
  refine ⟨ds, tok, digits, ends, by rw [← parts', ← parts], fun rest' stop => ?_⟩
  obtain ⟨dropped, taken⟩ := dropWhile_digits digits.2 (ends.noDigit stop)
  rw [longNumeral_eq, dropped, taken]
  exact again rest' stop

/-! ## Numerals -/

/-- A numeral without a sign begins with a digit. -/
lemma Unsigned.exists_digit {tok : Bytes} (numeral : Unsigned tok) :
    ∃ b bs, tok = b :: bs ∧ isDigit b = true := by
  obtain ⟨whole, -, -⟩ := numeral
  cases whole with
  | zero => exact ⟨_, _, rfl, rfl⟩
  | digits _ digits => exact ⟨_, _, rfl, digits.2 _ List.mem_cons_self⟩

/-- A numeral without its sign is read. -/
lemma extends_unsignedNumber (negative : Bool) : Extends (unsignedNumber negative) Unsigned := by
  intro bs n rest read
  cases bs with
  | nil => cases read
  | cons b bs =>
    rw [unsignedNumber] at read
    split at read
    · next zero =>
      split at read
      · cases read
      · obtain ⟨tok, ends, rfl, again⟩ := extends_afterDigits negative 0 _ _ _ read
        obtain ⟨fraction, exponent⟩ := ends
        refine ⟨_, .mk .zero fraction exponent, by rw [zero]; rfl, fun rest' stop => ?_⟩
        have noDigit := (Ending.mk fraction exponent).noDigit stop
        rw [List.cons_append, List.nil_append, List.cons_append, unsignedNumber, if_pos rfl,
          noDigit]
        exact again rest' stop
    · next nonzero =>
      split at read
      · next digit =>
        have all : ∀ {ds : Bytes}, (∀ c ∈ ds, isDigit c = true) → Digits (b :: ds) := by
          refine fun digits => ⟨List.cons_ne_nil _ _, ?_⟩
          rintro c (_ | ⟨_, mem⟩)
          · exact digit
          · exact digits c mem
        rcases taken : takeDigits significandLimit (digitValue b) bs with ⟨s, count, left⟩
        obtain ⟨ds, digits, rfl, -, again⟩ := takeDigits_spec taken
        simp only [taken] at read
        split at read
        · next more =>
          obtain ⟨ds', tok, ⟨some, digits'⟩, ends, rfl, again'⟩ :=
            extends_longNumeral negative s more read
          obtain @⟨f, e, fraction, exponent⟩ := ends
          have digits'' : ∀ c ∈ ds ++ ds', isDigit c = true :=
            fun c mem => (List.mem_append.mp mem).elim (digits c) (digits' c)
          refine ⟨_, .mk (.digits nonzero (all digits'')) fraction exponent, ?_,
            fun rest' stop => ?_⟩
          · simp only [List.cons_append, List.append_assoc]
          · obtain ⟨d, ds', rfl⟩ := List.exists_cons_of_ne_nil some
            have long := again' rest' stop
            have same := again ((d :: ds') ++ ((f ++ e) ++ rest')) fun c mem _ => mem
            have goesOn : startsWithDigit ((d :: ds') ++ ((f ++ e) ++ rest')) = true :=
              digits' d List.mem_cons_self
            have parts : b :: (ds ++ d :: ds') ++ (f ++ e) ++ rest' =
                b :: (ds ++ ((d :: ds') ++ ((f ++ e) ++ rest'))) := by
              simp only [List.cons_append, List.append_assoc]
            rw [parts, unsignedNumber, if_neg nonzero, if_pos digit, same]
            simp only [goesOn]
            exact long
        · obtain ⟨tok, ends, rfl, again'⟩ := extends_afterDigits negative s _ _ _ read
          obtain @⟨f, e, fraction, exponent⟩ := ends
          refine ⟨_, .mk (.digits nonzero (all digits)) fraction exponent, ?_,
            fun rest' stop => ?_⟩
          · simp only [List.cons_append, List.append_assoc]
          · have noDigit := (Ending.mk fraction exponent).noDigit stop
            have same := again _ (head_of_noDigit noDigit)
            have parts : b :: ds ++ (f ++ e) ++ rest' = b :: (ds ++ ((f ++ e) ++ rest')) := by
              simp only [List.cons_append, List.append_assoc]
            rw [parts, unsignedNumber, if_neg nonzero, if_pos digit, same]
            simp only [noDigit]
            exact again' rest' stop
      · cases read

/-- A numeral is read, and as the same number wherever it stands. -/
theorem extends_number : Extends Reader.number Numeral := by
  have unsigned : ∀ bs, (∀ b ∈ bs.head?, b ≠ 0x2D) →
      Reader.number bs = unsignedNumber false bs := by
    intro bs other
    cases bs with
    | nil => rfl
    | cons b bs =>
      have noMinus := other b rfl
      simp [Reader.number, noMinus]
  intro bs n rest read
  by_cases minus : ∃ bs', bs = 0x2D :: bs'
  · obtain ⟨bs, rfl⟩ := minus
    obtain ⟨tok, numeral, rfl, again⟩ := extends_unsignedNumber true _ _ _ read
    exact ⟨0x2D :: tok, .negative numeral, rfl, again⟩
  · have noMinus : ∀ b ∈ bs.head?, b ≠ 0x2D := by
      rintro b mem rfl
      exact minus (List.head?_eq_some_iff.mp mem)
    rw [unsigned bs noMinus] at read
    obtain ⟨tok, numeral, rfl, again⟩ := extends_unsignedNumber false _ _ _ read
    refine ⟨tok, .positive numeral, rfl, fun rest' stop => ?_⟩
    have stillNoMinus : ∀ b ∈ (tok ++ rest').head?, b ≠ 0x2D := by
      obtain ⟨b, tok', rfl, digit⟩ := numeral.exists_digit
      rintro c ⟨⟩
      exact ne_of_isDigit digit rfl
    rw [unsigned _ stillNoMinus]
    exact again rest' stop

/-- What spells a number is read as that number, if no numeral could go on after it. -/
lemma number_of_spells {n : Number} {tok rest : Bytes} (spells : SpellsNumber n tok)
    (stop : endsNumeral rest = true) : Reader.number (tok ++ rest) = .ok (n, rest) := by
  obtain ⟨tok', -, whole, again⟩ := extends_number _ _ _ spells.2
  rw [whole, List.append_nil]
  exact again rest stop

/-- What is read as a number spells it. -/
lemma spells_of_number {n : Number} {bs rest : Bytes} (read : Reader.number bs = .ok (n, rest)) :
    ∃ tok, SpellsNumber n tok ∧ bs = tok ++ rest := by
  obtain ⟨tok, numeral, parts, again⟩ := extends_number _ _ _ read
  refine ⟨tok, ⟨numeral, ?_⟩, parts⟩
  have alone := again [] rfl
  rwa [List.append_nil] at alone

end EventGates.Json.Grammar
