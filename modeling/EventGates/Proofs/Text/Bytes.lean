import EventGates.Text.Percent
import Mathlib.Tactic.Common

/-!
# Bytes that spell texts

Bytes spell a text exactly if they are what the text is written as (`decodeString?_eq_some_iff`), and
a character of ASCII divides a text wherever its byte stands (`exists_encode_of_append`). Replacing the
escapes of a byte sequence goes part by part where a byte that is no hexadecimal digit stands between
(`unescapeBytes_append_cons`), so a slash is never part of an escape. What an escape is and what it is
replaced by is laid down by `Unescapes` (`unescapes_iff`). The plain form of a text is the one that its
bytes spell with the escapes replaced, or the text itself (`plain_cases`).
-/

namespace EventGates.Text

/-! ## Reading bytes as characters -/

/-- The bytes of a character come first where it is found. -/
lemma eq_append_of_firstChar? {bs : Bytes} {c : Char} (first : firstChar? bs = some c) :
    bs = String.utf8EncodeChar c ++ bs.drop c.utf8Size := by
  obtain ⟨more, parts⟩ := ByteArray.exists_of_utf8DecodeChar?_eq_some first
  have here : bs.take 4 = String.utf8EncodeChar c ++ more.data.toList := by
    have same := congrArg (fun a : ByteArray => a.data.toList) parts
    simpa only [List.data_toByteArray, ByteArray.data_append, Array.toList_append,
      List.toList_toArray] using same
  have whole : bs = String.utf8EncodeChar c ++ (more.data.toList ++ bs.drop 4) := by
    rw [← List.append_assoc, ← here, List.take_append_drop]
  rw [whole, ← String.length_utf8EncodeChar, List.drop_left]

/-- The bytes of which all are read as characters are those that the characters are written as. -/
lemma encode_of_validPart {bs : Bytes} {cs : List Char} (valid : validPart bs = (cs, [])) :
    bs = encode cs := by
  have upTo : ∀ (limit : Nat) (bs : Bytes) (cs : List Char) (rest : Bytes),
      validUpTo limit bs = (cs, rest) → bs = encode cs ++ rest := by
    intro limit
    induction limit with
    | zero =>
      rintro bs cs rest ⟨⟩
      rfl
    | succ limit ih =>
      intro bs cs rest read
      rw [validUpTo] at read
      split at read
      · cases read
        rfl
      · next c first =>
        rcases more : validUpTo limit (bs.drop c.utf8Size) with ⟨cs', rest'⟩
        rw [more] at read
        cases read
        rw [encode_cons, List.append_assoc, ← ih _ _ _ more]
        exact eq_append_of_firstChar? first
  rw [upTo _ _ _ _ valid, List.append_nil]

/-- Bytes spell the text that is written as them. -/
lemma decodeString?_eq_some_iff {bs : Bytes} {s : String} :
    decodeString? bs = some s ↔ bs = encodeString s := by
  constructor
  · intro read
    obtain ⟨cs, spelled, rfl⟩ := Option.map_eq_some_iff.mp read
    rw [encodeString, String.toList_ofList]
    rw [decode?] at spelled
    split at spelled
    · next valid =>
      cases spelled
      exact encode_of_validPart valid
    · cases spelled
  · rintro rfl
    exact decodeString?_encodeString s

/-- Texts that are written as the same bytes are the same. -/
lemma encodeString_injective : Function.Injective encodeString := by
  intro s t same
  have read := decodeString?_encodeString s
  rw [same, decodeString?_encodeString] at read
  exact (Option.some.inj read).symm

lemma encodeString_append (s t : String) :
    encodeString (s ++ t) = encodeString s ++ encodeString t := by
  rw [encodeString, String.toList_append, encode_append]
  rfl

/-- Where a byte of ASCII stands in a text, what is before it is a text. -/
lemma exists_encode_of_append {cs : List Char} {front back : Bytes} {b : UInt8}
    (ascii : b.toNat < 128) (written : encode cs = front ++ b :: back) :
    ∃ ds, front = encode ds := by
  induction cs generalizing front with
  | nil => exact absurd written (by simp [encode])
  | cons c cs ih =>
    rw [encode_cons] at written
    obtain ⟨more, rfl, rest⟩ | ⟨more, first, rest⟩ := List.append_eq_append_iff.mp written
    · obtain ⟨ds, rfl⟩ := ih rest
      exact ⟨c :: ds, rfl⟩
    · cases more with
      | nil => exact ⟨[c], by rw [encode_cons, first, encode_nil, List.append_nil, List.append_nil]⟩
      | cons d more =>
        -- the byte is one of the first character, which therefore has no other
        obtain ⟨rfl, -⟩ := List.cons.inj rest
        have small : c.toNat < 128 := by
          by_contra large
          have mem : b ∈ String.utf8EncodeChar c := first ▸ List.mem_append_right _ List.mem_cons_self
          have beyond := le_of_mem_utf8EncodeChar (Nat.le_of_not_lt large) mem
          omega
        rw [utf8EncodeChar_of_lt small] at first
        cases front with
        | nil => exact ⟨[], rfl⟩
        | cons x front => simp at first

/-! ## Replacing escapes -/

/-- A percent sign stands for itself unless two hexadecimal digits follow. -/
lemma unescapeBytes_percent {bs : Bytes}
    (alone : ∀ high low rest, bs = high :: low :: rest →
      hexValue? high = none ∨ hexValue? low = none) :
    unescapeBytes (0x25 :: bs) = 0x25 :: unescapeBytes bs := by
  match bs with
  | [] => rfl
  | [_] => rfl
  | high :: low :: rest =>
    rw [unescapeBytes]
    split
    · next first second =>
      obtain none | none := alone high low rest rfl
      · rw [none] at first
        cases first
      · rw [none] at second
        cases second
    · rfl

/-- A byte is a hexadecimal digit of either case and of this value. -/
inductive HexDigit (b : UInt8) : Nat → Prop where
  | decimal {n : Nat} : n < 10 → b.toNat = 0x30 + n → HexDigit b n
  | upper {n : Nat} : n < 6 → b.toNat = 0x41 + n → HexDigit b (10 + n)
  | lower {n : Nat} : n < 6 → b.toNat = 0x61 + n → HexDigit b (10 + n)

/-- The escapes of a byte sequence are replaced from the left. A percent sign with two hexadecimal digits
behind it stands for the byte of their value, and any other byte for itself. -/
inductive Unescapes : Bytes → Bytes → Prop where
  | nil : Unescapes [] []
  | escape {high low : UInt8} {h l : Nat} {bs cs : Bytes} :
    HexDigit high h →
    HexDigit low l →
    Unescapes bs cs →
    Unescapes (0x25 :: high :: low :: bs) (UInt8.ofNat (16 * h + l) :: cs)
  | other {b : UInt8} {bs cs : Bytes} :
    (∀ high low rest h l, b = 0x25 → bs = high :: low :: rest → HexDigit high h →
      ¬HexDigit low l) →
    Unescapes bs cs →
    Unescapes (b :: bs) (b :: cs)

lemma hexValue?_eq_some_iff {b : UInt8} {n : Nat} : hexValue? b = some n ↔ HexDigit b n := by
  constructor
  · intro value
    simp only [hexValue?] at value
    split at value
    · next range =>
      cases value
      exact .decimal (by omega) (by omega)
    split at value
    · next range =>
      have letter : b.toNat - 0x37 = 10 + (b.toNat - 0x41) := by omega
      rw [letter, Option.some.injEq] at value
      exact value ▸ .upper (by omega) (by omega)
    split at value
    · next range =>
      have letter : b.toNat - 0x57 = 10 + (b.toNat - 0x61) := by omega
      rw [letter, Option.some.injEq] at value
      exact value ▸ .lower (by omega) (by omega)
    · cases value
  · intro digit
    simp only [hexValue?]
    cases digit with
    | decimal small byte => rw [if_pos (by omega), byte, Nat.add_sub_cancel_left]
    | upper small byte =>
      rw [if_neg (by omega), if_pos (by omega), Option.some.injEq]
      omega
    | lower small byte =>
      rw [if_neg (by omega), if_neg (by omega), if_pos (by omega), Option.some.injEq]
      omega

/-- What escapes are replaced by is determined, and is what the reader of paths makes of them. -/
lemma unescapes_iff {bs cs : Bytes} : Unescapes bs cs ↔ unescapeBytes bs = cs := by
  constructor
  · intro replaced
    induction replaced with
    | nil => rfl
    | escape first second _ ih =>
      simp only [unescapeBytes, hexValue?_eq_some_iff.mpr first, hexValue?_eq_some_iff.mpr second, ih]
    | @other b bs cs alone _ ih =>
      by_cases percent : b = 0x25
      · subst percent
        rw [unescapeBytes_percent, ih]
        intro high low rest split
        cases first : hexValue? high with
        | none => exact .inl rfl
        | some h =>
          refine .inr (Option.eq_none_iff_forall_ne_some.mpr fun l second => ?_)
          exact alone high low rest h l rfl split (hexValue?_eq_some_iff.mp first)
            (hexValue?_eq_some_iff.mp second)
      · rw [unescapeBytes_cons percent, ih]
  · rintro rfl
    fun_induction unescapeBytes bs with
    | case1 => exact .nil
    | case2 high low more h l second first ih =>
      exact .escape (hexValue?_eq_some_iff.mp first) (hexValue?_eq_some_iff.mp second) ih
    | case3 high low more none ih =>
      refine .other ?_ ih
      rintro _ _ _ h l - ⟨⟩ first second
      exact none h l (hexValue?_eq_some_iff.mpr first) (hexValue?_eq_some_iff.mpr second)
    | case4 b more plain ih =>
      refine .other ?_ ih
      intro high low rest _ _ percent split
      exact (plain high low rest percent split).elim

/-- Escapes are replaced on their own before a byte that belongs to none. -/
lemma unescapeBytes_append_cons {bs rest : Bytes} {b : UInt8} (other : hexValue? b = none) :
    unescapeBytes (bs ++ b :: rest) = unescapeBytes bs ++ unescapeBytes (b :: rest) := by
  fun_induction unescapeBytes bs with
  | case1 => rfl
  | case2 high low more h l second first ih =>
    simp only [List.cons_append, unescapeBytes, first, second, ih]
  | case3 high low more none ih =>
    rw [List.cons_append, unescapeBytes_percent, ih, List.cons_append]
    rintro _ _ _ ⟨⟩
    cases first : hexValue? high with
    | none => exact .inl rfl
    | some h =>
      cases second : hexValue? low with
      | none => exact .inr rfl
      | some l => exact (none h l first second).elim
  | case4 c more plain ih =>
    by_cases percent : c = 0x25
    · subst percent
      -- the byte comes first or second behind the percent sign
      rw [List.cons_append, unescapeBytes_percent, ih, List.cons_append]
      intro high low back same
      cases more with
      | nil =>
        cases same
        exact .inl other
      | cons first more =>
        cases more with
        | nil =>
          cases same
          exact .inr other
        | cons second more => exact (plain first second more rfl rfl).elim
    · rw [List.cons_append, unescapeBytes_cons percent, ih, List.cons_append]

lemma unescapeBytes_append_slash (bs rest : Bytes) :
    unescapeBytes (bs ++ 0x2F :: rest) = unescapeBytes bs ++ 0x2F :: unescapeBytes rest := by
  rw [unescapeBytes_append_cons (by decide), unescapeBytes_cons (by decide)]

/-- The plain form of a text is what its bytes spell with the escapes replaced, or the text itself if
they spell nothing. -/
lemma plain_cases (s : String) :
    encodeString (plain s) = unescapeBytes (encodeString s) ∨
      plain s = s ∧ ∀ t, encodeString t ≠ unescapeBytes (encodeString s) := by
  rw [plain]
  cases read : decodeString? (unescapeBytes (encodeString s)) with
  | some t => exact .inl (decodeString?_eq_some_iff.mp read).symm
  | none =>
    refine .inr ⟨rfl, fun t spelled => ?_⟩
    rw [← spelled, decodeString?_encodeString] at read
    cases read

/-- Names that are written as the same path segment are the same. -/
lemma percentEncode_injective : Function.Injective percentEncode :=
  Function.LeftInverse.injective plain_percentEncode

end EventGates.Text
