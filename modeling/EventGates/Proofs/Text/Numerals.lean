import EventGates.Proofs.Json.Numerals
import EventGates.Text.Numeral

/-!
# Numerals and their faults

A numeral is one plus sign at most and digits, at least one, and has their value, zeros in front
included (`IsNumeral`). The reader accepts the numerals whose value does not exceed the limit, and no
other text (`parseUpTo_eq_ok_iff`). Of any other text it reports what is first wrong from the left
(`FirstFault`, `parseUpTo_eq_error_iff`): digits are looked at one by one, so a value that is too large
hides what comes behind it.
-/

namespace EventGates.Text

open Json.Reader (le_ofDigitChars)

/-- What follows the sign of a text, if it begins with one. -/
def unsigned : List Char → List Char
  | '+' :: cs => cs
  | cs => cs

/-- Digits, at least one, behind a plus sign or nothing, are a numeral of their decimal value. -/
def IsNumeral (cs : List Char) (n : Nat) : Prop :=
  ∃ digits, (cs = digits ∨ cs = '+' :: digits) ∧ digits ≠ [] ∧ (∀ c ∈ digits, c.isDigit = true) ∧
    Nat.ofDigitChars 10 digits 0 = n

/-- Where the reading of digits stops after digits of the value `v`, and why. -/
def Stops (limit v : Nat) (cs : List Char) : NumeralError → Prop
  | .empty => False
  | .invalidDigit =>
    ∃ digits c rest, cs = digits ++ c :: rest ∧ (∀ d ∈ digits, d.isDigit = true) ∧
      Nat.ofDigitChars 10 digits v ≤ limit ∧ c.isDigit = false
  | .tooLarge =>
    ∃ digits rest, cs = digits ++ rest ∧ (∀ d ∈ digits, d.isDigit = true) ∧
      limit < Nat.ofDigitChars 10 digits v

/-- What is first wrong with a text as a numeral up to a limit. -/
def FirstFault (limit : Nat) (cs : List Char) (e : NumeralError) : Prop :=
  cs = [] ∧ e = .empty ∨ cs = ['+'] ∧ e = .invalidDigit ∨ Stops limit 0 (unsigned cs) e

/-! ## Digits -/

/-- A digit goes on with a numeral, and any other character ends it. -/
lemma digitsUpTo_cons (limit v : Nat) (c : Char) (cs : List Char) :
    digitsUpTo limit v (c :: cs) =
      if c.isDigit then
        if limit < Nat.ofDigitChars 10 [c] v then .error .tooLarge
        else digitsUpTo limit (Nat.ofDigitChars 10 [c] v) cs
      else .error .invalidDigit := by
  rw [digitsUpTo, digitValue?]
  by_cases digit : c.isDigit = true
  · rw [if_pos digit, if_pos digit]
    rfl
  · rw [if_neg digit, if_neg digit]

/-- Characters are read up to a limit exactly if all of them are digits and their value is within it. -/
lemma digitsUpTo_eq_ok_iff {limit v n : Nat} {cs : List Char} (fits : v ≤ limit) :
    digitsUpTo limit v cs = .ok n ↔
      (∀ c ∈ cs, c.isDigit = true) ∧ Nat.ofDigitChars 10 cs v = n ∧ n ≤ limit := by
  induction cs generalizing v with
  | nil =>
    rw [digitsUpTo, Except.ok.injEq]
    constructor
    · rintro rfl
      exact ⟨nofun, rfl, fits⟩
    · exact fun h => h.2.1
  | cons c cs ih =>
    rw [digitsUpTo_cons, List.forall_mem_cons]
    split
    · next digit =>
      have whole : Nat.ofDigitChars 10 (c :: cs) v =
          Nat.ofDigitChars 10 cs (Nat.ofDigitChars 10 [c] v) := rfl
      split
      · next exceeds =>
        refine iff_of_false nofun ?_
        rintro ⟨-, rfl, within⟩
        have grows := le_ofDigitChars cs (Nat.ofDigitChars 10 [c] v)
        omega
      · next within => rw [ih (Nat.le_of_not_lt within), whole, and_iff_right digit]
    · next other => exact iff_of_false nofun fun h => other h.1.1

/-- Nothing stops before the first character. -/
lemma not_stops_nil {limit v : Nat} {e : NumeralError} (fits : v ≤ limit) :
    ¬Stops limit v [] e := by
  cases e with
  | empty => exact id
  | invalidDigit =>
    rintro ⟨digits, c, rest, parts, -⟩
    simp at parts
  | tooLarge =>
    rintro ⟨digits, rest, parts, -, exceeds⟩
    obtain ⟨rfl, -⟩ := List.append_eq_nil_iff.mp parts.symm
    exact absurd fits (Nat.not_le_of_lt exceeds)

/-- The reading of digits stops at the first character, if that is no digit or the value is too large
with it, or behind it. -/
lemma stops_cons_iff {limit v : Nat} {c : Char} {cs : List Char} {e : NumeralError}
    (fits : v ≤ limit) :
    Stops limit v (c :: cs) e ↔
      if c.isDigit then
        if limit < Nat.ofDigitChars 10 [c] v then e = .tooLarge
        else Stops limit (Nat.ofDigitChars 10 [c] v) cs e
      else e = .invalidDigit := by
  have grows := fun ds => le_ofDigitChars ds (Nat.ofDigitChars 10 [c] v)
  have whole : ∀ ds, Nat.ofDigitChars 10 (c :: ds) v =
      Nat.ofDigitChars 10 ds (Nat.ofDigitChars 10 [c] v) := fun _ => rfl
  cases e with
  | empty => split_ifs <;> simp [Stops]
  | invalidDigit =>
    constructor
    · rintro ⟨digits, d, rest, parts, before, within, here⟩
      cases digits with
      | nil =>
        cases parts
        simp [here]
      | cons a digits =>
        cases parts
        rw [whole] at within
        obtain ⟨digit, before⟩ := List.forall_mem_cons.mp before
        rw [if_pos digit, if_neg (by have := grows digits; omega)]
        exact ⟨digits, d, rest, rfl, before, within, here⟩
    · split_ifs with digit exceeds
      · nofun
      · rintro ⟨digits, d, rest, rfl, before, within, here⟩
        exact ⟨c :: digits, d, rest, rfl, List.forall_mem_cons.mpr ⟨digit, before⟩, within, here⟩
      · exact fun _ => ⟨[], c, cs, rfl, nofun, fits, eq_false_of_ne_true digit⟩
  | tooLarge =>
    constructor
    · rintro ⟨digits, rest, parts, before, exceeds⟩
      cases digits with
      | nil => exact absurd fits (Nat.not_le_of_lt exceeds)
      | cons a digits =>
        cases parts
        obtain ⟨digit, before⟩ := List.forall_mem_cons.mp before
        rw [if_pos digit]
        split
        · rfl
        · exact ⟨digits, rest, rfl, before, exceeds⟩
    · split_ifs with digit exceeds
      · exact fun _ => ⟨[c], cs, rfl, by simpa using digit, exceeds⟩
      · rintro ⟨digits, rest, rfl, before, exceeds⟩
        exact ⟨c :: digits, rest, rfl, List.forall_mem_cons.mpr ⟨digit, before⟩, exceeds⟩
      · nofun

/-- What is reported is where the reading of digits stops. -/
lemma digitsUpTo_eq_error_iff {limit v : Nat} {cs : List Char} {e : NumeralError}
    (fits : v ≤ limit) : digitsUpTo limit v cs = .error e ↔ Stops limit v cs e := by
  induction cs generalizing v with
  | nil => exact iff_of_false nofun (not_stops_nil fits)
  | cons c cs ih =>
    rw [digitsUpTo_cons, stops_cons_iff fits]
    split_ifs with digit exceeds
    · rw [Except.error.injEq, eq_comm]
    · exact ih (Nat.le_of_not_lt exceeds)
    · rw [Except.error.injEq, eq_comm]

/-! ## Signs -/

/-- The digits of a text are what follows its sign. -/
lemma parseUpTo_eq (limit : Nat) (s : String) :
    parseUpTo limit s =
      if s.toList = [] then .error .empty
      else if s.toList = ['+'] then .error .invalidDigit
      else digitsUpTo limit 0 (unsigned s.toList) := by
  rw [parseUpTo]
  generalize s.toList = cs
  split
  · rfl
  · rfl
  · next cs other =>
    rw [if_neg nofun, if_neg fun same => other (List.cons.inj same).2]
    rfl
  · next nonempty bare signed =>
    rw [if_neg nonempty, if_neg bare]
    unfold unsigned
    split
    · exact absurd rfl (signed _)
    · rfl

/-- A numeral is digits behind its sign. -/
lemma isNumeral_iff {cs : List Char} {n : Nat} :
    IsNumeral cs n ↔
      unsigned cs ≠ [] ∧ (∀ c ∈ unsigned cs, c.isDigit = true) ∧
        Nat.ofDigitChars 10 (unsigned cs) 0 = n := by
  unfold unsigned
  split
  · next cs =>
    constructor
    · rintro ⟨digits, rfl | same, nonempty, isDigits, value⟩
      · exact absurd (isDigits _ List.mem_cons_self) (by decide)
      · cases same
        exact ⟨nonempty, isDigits, value⟩
    · exact fun h => ⟨cs, .inr rfl, h⟩
  · next unsigned =>
    constructor
    · rintro ⟨digits, rfl | same, h⟩
      · exact h
      · exact absurd same (unsigned digits)
    · exact fun h => ⟨cs, .inl rfl, h⟩

/-- The numerals that are accepted are those whose value does not exceed the limit. -/
theorem parseUpTo_eq_ok_iff {limit n : Nat} {s : String} :
    parseUpTo limit s = .ok n ↔ IsNumeral s.toList n ∧ n ≤ limit := by
  rw [parseUpTo_eq, isNumeral_iff]
  split
  · next empty =>
    rw [empty]
    exact iff_of_false nofun fun h => h.1.1 rfl
  · next nonempty =>
    split
    · next bare =>
      rw [bare]
      exact iff_of_false nofun fun h => h.1.1 rfl
    · next signed =>
      have some : unsigned s.toList ≠ [] := by
        unfold unsigned
        split
        · next cs same => exact fun none => signed (none ▸ same)
        · exact nonempty
      rw [digitsUpTo_eq_ok_iff (Nat.zero_le limit), and_iff_right some, and_assoc]

/-- What is reported of any other text is what is first wrong with it. -/
theorem parseUpTo_eq_error_iff {limit : Nat} {s : String} {e : NumeralError} :
    parseUpTo limit s = .error e ↔ FirstFault limit s.toList e := by
  rw [parseUpTo_eq, FirstFault]
  generalize s.toList = cs
  have nothing : ¬Stops limit 0 [] e := not_stops_nil (Nat.zero_le limit)
  by_cases empty : cs = []
  · subst empty
    simp [unsigned, nothing, eq_comm]
  · by_cases bare : cs = ['+']
    · subst bare
      simp [unsigned, nothing, eq_comm]
    · simp [empty, bare, digitsUpTo_eq_error_iff]

end EventGates.Text
