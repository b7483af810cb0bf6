import EventGates.Json.Printer
import EventGates.Json.Reader
import Mathlib.Tactic.Common

/-!
# Strings are read back

Inside a string a character is written as an escape, or as its own bytes, none of which is a quote, a
backslash or a control (`encode_escapeChar`). A reader that meets the one or the other gets the bytes
of the character, so it comes to the closing quote with the bytes of the whole string. The main
theorem is `stringBody_stringText`.
-/

namespace EventGates.Json.Reader

open Text (Bytes encode)

/-- A byte that stands for itself in a string. -/
def isPlain (b : UInt8) : Bool := b != 0x22 && b != 0x5C && !(b < 0x20)

/-- The escape by number for a control character is read as that character. -/
lemma escape_control {c : Char} (control : c.toNat < 0x20) :
    ∃ letters, encode ['\\', 'u', '0', '0', Text.lowerHexDigit (c.toNat / 16),
        Text.lowerHexDigit (c.toNat % 16)] = 0x5C :: letters ∧
      ∀ rest, escape (letters ++ rest) = .ok (String.utf8EncodeChar c, rest) := by
  have byte : ∀ k < 16, String.utf8EncodeChar (Text.lowerHexDigit k) =
      [(Text.lowerHexDigit k).toUInt8] := by decide
  have high := byte (c.toNat / 16) (by omega)
  have low := byte (c.toNat % 16) (Nat.mod_lt _ (by decide))
  refine ⟨[0x75, 0x30, 0x30, (Text.lowerHexDigit (c.toNat / 16)).toUInt8,
    (Text.lowerHexDigit (c.toNat % 16)).toUInt8], ?_, ?_⟩
  · simp only [Text.encode_cons, Text.encode_nil, high, low]
    rfl
  · intro rest
    have four : hexEscape ([0x30, 0x30, (Text.lowerHexDigit (c.toNat / 16)).toUInt8,
        (Text.lowerHexDigit (c.toNat % 16)).toUInt8] ++ rest) = .ok (c.toNat, rest) := by
      have zero : Text.hexValue? 0x30 = some 0 := rfl
      simp only [List.cons_append, List.nil_append, hexEscape, zero,
        Text.hexValue?_lowerHexDigit _ (show c.toNat / 16 < 16 by omega),
        Text.hexValue?_lowerHexDigit _ (Nat.mod_lt c.toNat (show 0 < 16 by decide))]
      congr 2
      omega
    -- a control character is no surrogate
    have number : unicodeEscape ([0x30, 0x30, (Text.lowerHexDigit (c.toNat / 16)).toUInt8,
        (Text.lowerHexDigit (c.toNat % 16)).toUInt8] ++ rest) = .ok (c.toNat, rest) := by
      simp only [unicodeEscape, four, bind, Except.bind]
      rw [if_neg (by omega), if_neg (by omega)]
    show escape (0x75 :: (_ ++ rest)) = _
    simp only [escape, if_true, number, bind, Except.bind, Char.ofNat_toNat]

/-- What a character is written as inside a string is an escape for it or the character itself. -/
lemma encode_escapeChar (c : Char) :
    (∃ letters, encode (escapeChar c) = 0x5C :: letters ∧
      ∀ rest, escape (letters ++ rest) = .ok (String.utf8EncodeChar c, rest)) ∨
    encode (escapeChar c) = String.utf8EncodeChar c ∧
      ∀ b ∈ String.utf8EncodeChar c, isPlain b = true := by
  simp only [escapeChar]
  split
  case h_1 => exact .inl ⟨[0x22], rfl, fun _ => rfl⟩
  case h_2 => exact .inl ⟨[0x5C], rfl, fun _ => rfl⟩
  case h_3 => exact .inl ⟨[0x6E], rfl, fun _ => rfl⟩
  case h_4 => exact .inl ⟨[0x72], rfl, fun _ => rfl⟩
  case h_5 => exact .inl ⟨[0x74], rfl, fun _ => rfl⟩
  case h_6 => exact .inl ⟨[0x62], rfl, fun _ => rfl⟩
  case h_7 => exact .inl ⟨[0x66], rfl, fun _ => rfl⟩
  case h_8 quote backslash _ _ _ _ _ =>
    split
    · next control => exact .inl (escape_control control)
    · next visible =>
      refine .inr ⟨by simp only [Text.encode_cons, Text.encode_nil, List.append_nil], ?_⟩
      intro b mem
      obtain ascii | beyond := Nat.lt_or_ge c.toNat 128
      · rw [Text.utf8EncodeChar_of_lt ascii, List.mem_singleton] at mem
        have code : b.toNat = c.toNat := by
          rw [mem, UInt8.toNat_ofNat']
          omega
        have other : ∀ d : Char, c ≠ d → b.toNat ≠ d.toNat := by
          intro d ne same
          exact ne (Char.ext (UInt32.toNat_inj.mp (code.symm.trans same)))
        have noQuote : b ≠ 0x22 := fun same => other '"' quote (by rw [same]; rfl)
        have noBackslash : b ≠ 0x5C := fun same => other '\\' backslash (by rw [same]; rfl)
        simp only [isPlain, Bool.and_eq_true, bne_iff_ne, ne_eq, Bool.not_eq_true',
          decide_eq_false_iff_not, UInt8.lt_iff_toNat_lt, code]
        exact ⟨⟨noQuote, noBackslash⟩, visible⟩
      · have large := Text.le_of_mem_utf8EncodeChar beyond mem
        have other : ∀ d : UInt8, d.toNat < 128 → b ≠ d := by
          rintro d small rfl
          omega
        simp only [isPlain, Bool.and_eq_true, bne_iff_ne, ne_eq, Bool.not_eq_true',
          decide_eq_false_iff_not, UInt8.lt_iff_toNat_lt]
        refine ⟨⟨other _ (by decide), other _ (by decide)⟩, ?_⟩
        show ¬b.toNat < 32
        omega

/-- Plain bytes are taken as they are. -/
lemma stringBytes_plain {bs : Bytes} (plain : ∀ b ∈ bs, isPlain b = true) {budget more : Bytes}
    (enough : bs.length ≤ budget.length) {content rest : Bytes}
    (h : stringBytes (budget.drop bs.length) more = .ok (content, rest)) :
    stringBytes budget (bs ++ more) = .ok (bs ++ content, rest) := by
  induction bs generalizing budget with
  | nil => exact h
  | cons b bs ih =>
    cases budget with
    | nil => cases enough
    | cons x budget =>
      have here := plain b List.mem_cons_self
      simp only [isPlain, Bool.and_eq_true, bne_iff_ne, ne_eq, Bool.not_eq_true',
        decide_eq_false_iff_not] at here
      obtain ⟨⟨noQuote, noBackslash⟩, noControl⟩ := here
      have later := ih (fun y hy => plain y (List.mem_cons_of_mem b hy))
        (Nat.le_of_succ_le_succ enough) h
      rw [List.cons_append, stringBytes, if_neg noQuote, if_neg noBackslash, if_neg noControl,
        later]
      rfl

/-- The text of a string up to its closing quote is read back. -/
lemma stringBytes_encode {cs : List Char} {budget : Bytes}
    (enough : (encode (cs.flatMap escapeChar)).length < budget.length) (rest : Bytes) :
    stringBytes budget (encode (cs.flatMap escapeChar) ++ 0x22 :: rest) =
      .ok (encode cs, rest) := by
  induction cs generalizing budget with
  | nil =>
    cases budget with
    | nil => cases enough
    | cons x budget => rfl
  | cons c cs ih =>
    rw [List.flatMap_cons, Text.encode_append, List.length_append] at enough
    rw [List.flatMap_cons, Text.encode_append, List.append_assoc, Text.encode_cons]
    obtain ⟨letters, written, read⟩ | ⟨written, plain⟩ := encode_escapeChar c
    · rw [written] at enough ⊢
      cases budget with
      | nil => cases enough
      | cons x budget =>
        rw [List.length_cons, List.length_cons] at enough
        have left : (encode (cs.flatMap escapeChar)).length < budget.length := by omega
        have later := ih left
        rw [List.cons_append, stringBytes, if_neg (by decide), if_pos rfl, read]
        simp only [bind, Except.bind, later]
    · rw [written] at enough ⊢
      apply stringBytes_plain plain
      · omega
      · apply ih
        rw [List.length_drop]
        omega

/-- The text of a string is a quote and what `stringBody` reads. -/
lemma encode_stringText (s : String) :
    encode (stringText s) = 0x22 :: (encode (s.toList.flatMap escapeChar) ++ [0x22]) := by
  rw [stringText, Text.encode_cons, Text.encode_append]
  rfl

/-- A string is read back. -/
theorem stringBody_stringText (s : String) (rest : Bytes) :
    ∃ body, encode (stringText s) = 0x22 :: body ∧ stringBody (body ++ rest) = .ok (s, rest) := by
  refine ⟨_, encode_stringText s, ?_⟩
  rw [List.append_assoc, List.singleton_append]
  have enough : (encode (s.toList.flatMap escapeChar)).length <
      (0 :: (encode (s.toList.flatMap escapeChar) ++ 0x22 :: rest)).length := by
    rw [List.length_cons, List.length_append]
    omega
  have content := stringBytes_encode enough rest
  simp only [stringBody, content, bind, Except.bind, Text.validPart_encode, String.ofList_toList]

end EventGates.Json.Reader
