import EventGates.Text.Hex
import EventGates.Text.Utf8

/-!
# Percent coding

A name becomes a path segment by writing every byte outside letters, digits and `-` `_` `.` `~` as
an escape, a percent sign and two upper-case hexadecimal digits. A path is read by replacing its
well-formed escapes; any other percent sign stands for itself, and a path whose bytes then spell no
text is taken as written. Main statement: reading a written name gives the name
(`plain_percentEncode`).
-/

namespace EventGates.Text

/-- A byte that stands for itself in a path segment. -/
def isUnreserved (b : UInt8) : Bool :=
  (0x41 ≤ b && b ≤ 0x5A) || (0x61 ≤ b && b ≤ 0x7A) || (0x30 ≤ b && b ≤ 0x39) ||
    b == 0x2D || b == 0x5F || b == 0x2E || b == 0x7E

/-- The escape of a byte. -/
def escapeByte (b : UInt8) : Bytes :=
  [0x25, (upperHexDigit (b.toNat / 16)).toUInt8, (upperHexDigit (b.toNat % 16)).toUInt8]

/-- The bytes of a path segment that names a byte sequence. -/
def escapeBytes (bs : Bytes) : Bytes :=
  bs.flatMap fun b => if isUnreserved b then [b] else escapeByte b

/-- A byte sequence with its escapes replaced. -/
def unescapeBytes : Bytes → Bytes
  | [] => []
  | 0x25 :: high :: low :: rest =>
    match hexValue? high, hexValue? low with
    | some h, some l => UInt8.ofNat (16 * h + l) :: unescapeBytes rest
    | _, _ => 0x25 :: unescapeBytes (high :: low :: rest)
  | b :: rest => b :: unescapeBytes rest

/-- The path segment that names a text. -/
def percentEncode (s : String) : String :=
  String.ofList ((escapeBytes (encodeString s)).map fun b => Char.ofNat b.toNat)

/-- A text with its escapes replaced, or as it is if the replaced bytes spell no text. -/
def plain (s : String) : String :=
  (decodeString? (unescapeBytes (encodeString s))).getD s

/-! ## Reading back what was written -/

theorem unescapeBytes_cons {b : UInt8} (h : b ≠ 0x25) (rest : Bytes) :
    unescapeBytes (b :: rest) = b :: unescapeBytes rest := by
  rw [unescapeBytes]
  rintro high low rest' ⟨rfl, rfl⟩
  exact absurd rfl h

theorem unescapeBytes_escapeByte (b : UInt8) (rest : Bytes) :
    unescapeBytes (escapeByte b ++ rest) = b :: unescapeBytes rest := by
  have hb : b.toNat < 256 := b.toNat_lt
  simp only [escapeByte, List.cons_append, List.nil_append, unescapeBytes,
    hexValue?_upperHexDigit (b.toNat / 16) (by omega),
    hexValue?_upperHexDigit (b.toNat % 16) (by omega)]
  rw [Nat.div_add_mod, UInt8.ofNat_toNat]

theorem isUnreserved_percent : isUnreserved 0x25 = false := by decide

theorem unescapeBytes_escapeBytes_append (bs rest : Bytes) :
    unescapeBytes (escapeBytes bs ++ rest) = bs ++ unescapeBytes rest := by
  induction bs with
  | nil => rfl
  | cons b bs ih =>
    have hsplit : escapeBytes (b :: bs) =
        (if isUnreserved b then [b] else escapeByte b) ++ escapeBytes bs := rfl
    rw [hsplit, List.append_assoc]
    by_cases hb : isUnreserved b = true
    · have hne : b ≠ 0x25 := by
        rintro rfl
        rw [isUnreserved_percent] at hb
        cases hb
      rw [if_pos hb, List.singleton_append, unescapeBytes_cons hne, ih, List.cons_append]
    · rw [if_neg hb, unescapeBytes_escapeByte, ih, List.cons_append]

theorem unescapeBytes_escapeBytes (bs : Bytes) : unescapeBytes (escapeBytes bs) = bs := by
  simpa [unescapeBytes] using unescapeBytes_escapeBytes_append bs []

theorem escapeByte_lt_128 (b : UInt8) : ∀ x ∈ escapeByte b, x.toNat < 128 := by
  have hdigit : ∀ n < 16, (upperHexDigit n).toUInt8.toNat < 128 := by decide
  have hb : b.toNat < 256 := b.toNat_lt
  intro x hx
  simp only [escapeByte, List.mem_cons, List.not_mem_nil, or_false] at hx
  rcases hx with rfl | rfl | rfl
  · decide
  · exact hdigit _ (by omega)
  · exact hdigit _ (by omega)

theorem isUnreserved_lt_128 {b : UInt8} (h : isUnreserved b = true) : b.toNat < 128 := by
  simp only [isUnreserved, Bool.or_eq_true, Bool.and_eq_true, decide_eq_true_eq, beq_iff_eq,
    UInt8.le_iff_toNat_le] at h
  rcases h with (((((⟨-, h⟩ | ⟨-, h⟩) | ⟨-, h⟩) | rfl) | rfl) | rfl) | rfl
  · exact Nat.lt_of_le_of_lt h (by decide)
  · exact Nat.lt_of_le_of_lt h (by decide)
  · exact Nat.lt_of_le_of_lt h (by decide)
  all_goals decide

theorem escapeBytes_lt_128 (bs : Bytes) : ∀ x ∈ escapeBytes bs, x.toNat < 128 := by
  intro x hx
  obtain ⟨b, -, hb⟩ := List.mem_flatMap.1 hx
  split at hb
  · obtain rfl := List.mem_singleton.1 hb
    exact isUnreserved_lt_128 (by assumption)
  · exact escapeByte_lt_128 b x hb

/-- Escapes are ASCII, so the bytes of a path segment are its characters. -/
theorem encodeString_percentEncode (s : String) :
    encodeString (percentEncode s) = escapeBytes (encodeString s) := by
  rw [percentEncode, encodeString, String.toList_ofList]
  exact encode_map_ofNat _ (escapeBytes_lt_128 _)

/-- Reading a path segment gives the name that was written into it. -/
theorem plain_percentEncode (s : String) : plain (percentEncode s) = s := by
  rw [plain, encodeString_percentEncode, unescapeBytes_escapeBytes, decodeString?_encodeString,
    Option.getD_some]

end EventGates.Text
