import EventGates.Json.Printer
import EventGates.Json.Reader
import Mathlib.Tactic.Common

/-!
# Whole numbers are read back

A numeral ends where a byte comes that could not go on with it. Up to such a byte the digits of a
number are read as that number, so a whole number of either sign is read back from its text. The main
theorem is `number_text`.
-/

namespace EventGates.Json.Reader

open Text (Bytes encode)

/-- What comes next is no part of a numeral. -/
def endsNumeral : Bytes → Bool
  | [] => true
  | b :: _ => !isDigit b && b != 0x2E && b != 0x65 && b != 0x45

lemma endsNumeral_cons {b : UInt8} {bs : Bytes} (h : endsNumeral (b :: bs) = true) :
    isDigit b = false ∧ b ≠ 0x2E ∧ b ≠ 0x65 ∧ b ≠ 0x45 := by
  simp only [endsNumeral, Bool.and_eq_true, Bool.not_eq_true', bne_iff_ne, ne_eq] at h
  obtain ⟨⟨⟨digit, point⟩, small⟩, capital⟩ := h
  exact ⟨digit, point, small, capital⟩

lemma startsWithDigit_of_endsNumeral {bs : Bytes} (h : endsNumeral bs = true) :
    startsWithDigit bs = false := by
  cases bs with
  | nil => rfl
  | cons b bs => exact (endsNumeral_cons h).1

/-! ## Digits -/

/-- A digit is written as one byte, which is read as a digit of the same value. -/
lemma encode_digit {c : Char} (h : c.isDigit = true) :
    ∃ b, String.utf8EncodeChar c = [b] ∧ b.toNat = c.toNat ∧ isDigit b = true ∧
      digitValue b = c.toNat - '0'.toNat := by
  obtain ⟨low, high⟩ := Char.isDigit_iff_toNat.mp h
  have low' : 48 ≤ c.toNat := low
  have high' : c.toNat ≤ 57 := high
  have value : (UInt8.ofNat c.toNat).toNat = c.toNat := by
    rw [UInt8.toNat_ofNat']
    omega
  refine ⟨_, Text.utf8EncodeChar_of_lt (by omega), value, ?_, ?_⟩
  · simp only [isDigit, Bool.and_eq_true, decide_eq_true_eq, UInt8.le_iff_toNat_le, value]
    exact ⟨low', high'⟩
  · rw [digitValue, value]
    rfl

/-- What was written of a number begins with a digit. -/
lemma encode_toDigits (n : Nat) :
    ∃ b bs, encode (Nat.toDigits 10 n) = b :: bs ∧ isDigit b = true := by
  have digits : ∀ c ∈ Nat.toDigits 10 n, c.isDigit = true := fun c mem =>
    Nat.isDigit_of_mem_toDigits (by decide) (by decide) mem
  cases written : Nat.toDigits 10 n with
  | nil => exact absurd written Nat.toDigits_ne_nil
  | cons c ds =>
    rw [written] at digits
    obtain ⟨b, byte, -, digit, -⟩ := encode_digit (digits c List.mem_cons_self)
    exact ⟨b, encode ds, by rw [Text.encode_cons, byte]; rfl, digit⟩

/-- More digits make no smaller number. -/
lemma le_ofDigitChars (ds : List Char) (n : Nat) : n ≤ Nat.ofDigitChars 10 ds n := by
  rw [Nat.ofDigitChars_eq_ofDigitChars_zero]
  apply Nat.le_trans _ (Nat.le_add_right _ _)
  exact Nat.le_mul_of_pos_left n (Nat.pow_pos (by decide))

/-- Digits are taken together as long as their number is below the limit. -/
lemma takeDigits_encode {ds : List Char} (digits : ∀ c ∈ ds, c.isDigit = true) {limit s : Nat}
    (below : Nat.ofDigitChars 10 ds s < limit) {rest : Bytes}
    (stop : startsWithDigit rest = false) :
    takeDigits limit s (encode ds ++ rest) = (Nat.ofDigitChars 10 ds s, ds.length, rest) := by
  induction ds generalizing s with
  | nil =>
    cases rest with
    | nil => rfl
    | cons b rest =>
      have digit : isDigit b = false := stop
      simp [Text.encode_nil, takeDigits, digit]
  | cons c ds ih =>
    obtain ⟨b, written, -, digit, value⟩ := encode_digit (digits c List.mem_cons_self)
    rw [Nat.ofDigitChars_cons, ← value] at below
    have fits : 10 * s + digitValue b < limit := Nat.lt_of_le_of_lt (le_ofDigitChars ds _) below
    have more := ih (fun x hx => digits x (List.mem_cons_of_mem c hx)) below
    rw [Text.encode_cons, written, Nat.ofDigitChars_cons, ← value]
    simp [takeDigits, digit, fits, more]

/-- The digits of a positive number do not begin with a zero. -/
lemma toDigits_eq_zero_cons {n : Nat} {ds : List Char} (h : Nat.toDigits 10 n = '0' :: ds) :
    n = 0 := by
  induction n using Nat.strongRecOn generalizing ds with
  | ind n ih =>
    obtain small | large := Nat.lt_or_ge n 10
    · rw [Nat.toDigits_of_lt_base small] at h
      injection h with zero
      have single : ∀ k < 10, k.digitChar = '0' → k = 0 := by decide
      exact single n small zero
    · rw [Nat.toDigits_of_base_le (by decide) large] at h
      cases front : Nat.toDigits 10 (n / 10) with
      | nil => exact absurd front Nat.toDigits_ne_nil
      | cons d front' =>
        rw [front, List.cons_append] at h
        injection h with zero
        have := ih (n / 10) (by omega) (zero ▸ front)
        omega


/-! ## Numerals -/

/-- The digits of a number below the limit are read as that number. -/
lemma unsignedNumber_toDigits (negative : Bool) {n : Nat} (below : n < significandLimit)
    {rest : Bytes} (stop : endsNumeral rest = true) :
    unsignedNumber negative (encode (Nat.toDigits 10 n) ++ rest) =
      wholeNumber negative n rest := by
  have noDigit := startsWithDigit_of_endsNumeral stop
  -- nothing follows the digits that a numeral could go on with
  have after : ∀ m, afterDigits negative m rest = wholeNumber negative m rest := by
    intro m
    cases rest with
    | nil => rfl
    | cons b rest =>
      obtain ⟨-, point, small, capital⟩ := endsNumeral_cons stop
      simp only [afterDigits]
      split
      · next same => exact absurd (List.cons.inj same).1 point
      · next same => exact absurd (List.cons.inj same).1 small
      · next same => exact absurd (List.cons.inj same).1 capital
      · rfl
  have digits : ∀ c ∈ Nat.toDigits 10 n, c.isDigit = true := fun c mem =>
    Nat.isDigit_of_mem_toDigits (by decide) (by decide) mem
  have value : Nat.ofDigitChars 10 (Nat.toDigits 10 n) 0 = n := Nat.ofDigitChars_ten_toDigits
  cases written : Nat.toDigits 10 n with
  | nil => exact absurd written Nat.toDigits_ne_nil
  | cons c ds =>
    rw [written] at digits value
    obtain ⟨b, byte, code, digit, valued⟩ := encode_digit (digits c List.mem_cons_self)
    rw [Nat.ofDigitChars_cons, Nat.mul_zero, Nat.zero_add, ← valued] at value
    rw [Text.encode_cons, byte]
    simp only [List.cons_append, List.nil_append, unsignedNumber]
    by_cases zero : b = 0x30
    · -- a zero stands alone
      have first : c = '0' := by
        apply Char.ext
        apply UInt32.toNat_inj.mp
        rw [zero] at code
        exact code.symm
      obtain rfl := toDigits_eq_zero_cons (first ▸ written)
      have alone : ds = [] := by
        rw [Nat.toDigits_zero] at written
        exact (List.cons.inj written).2.symm
      rw [alone, Text.encode_nil, List.nil_append, if_pos zero, noDigit, after]
      rfl
    · have more := takeDigits_encode (fun x hx => digits x (List.mem_cons_of_mem c hx))
        (value ▸ below) noDigit
      rw [value] at more
      rw [if_neg zero, if_pos digit, more]
      simp only [noDigit, after]
      rfl

/-- A whole number is read back. -/
theorem number_text {n : Number} (whole : ∀ x, n ≠ .real x) {rest : Bytes}
    (stop : endsNumeral rest = true) : number (encode n.text ++ rest) = .ok (n, rest) := by
  cases n with
  | real x => exact absurd rfl (whole x)
  | natural m =>
    obtain ⟨b, bs, written, digit⟩ := encode_toDigits m
    -- no digit is taken for a sign
    have unsigned : number (encode (Nat.toDigits 10 m) ++ rest) =
        unsignedNumber false (encode (Nat.toDigits 10 m) ++ rest) := by
      rw [written]
      simp only [List.cons_append, number]
      split
      · next same =>
        rw [(List.cons.inj same).1] at digit
        cases digit
      · rfl
    rw [Number.text, unsigned, unsignedNumber_toDigits false m.isLt stop]
    simp [wholeNumber, m.isLt]
  | negative below =>
    have minus : ∀ cs, encode ('-' :: cs) = 0x2D :: encode cs := fun _ => rfl
    have fits := below.isLt
    have limit : below + 1 < significandLimit := by
      simp only [significandLimit]
      omega
    rw [Number.text, minus]
    show unsignedNumber true (encode (Nat.toDigits 10 (below + 1)) ++ rest) = _
    rw [unsignedNumber_toDigits true limit stop]
    have inside : (below : Nat) + 1 ≤ 0x8000000000000000 := by omega
    simp [wholeNumber, inside]

end EventGates.Json.Reader
