/-!
# Text as bytes

Texts travel as UTF-8. Reading stops at the first byte sequence that is no character
(`validPart`), refuses it (`decode?`), or puts a replacement character in its place
(`decodeLossy`). Main statement: what was written is read back (`decode?_encode`).
-/

namespace EventGates.Text

/-- A sequence of bytes. -/
abbrev Bytes := List UInt8

/-- The bytes of a text. -/
def encode (cs : List Char) : Bytes := cs.flatMap String.utf8EncodeChar

/-- The bytes of a string. -/
def encodeString (s : String) : Bytes := encode s.toList

/-- The character that a byte sequence begins with. -/
def firstChar? (bs : Bytes) : Option Char := (bs.take 4).toByteArray.utf8DecodeChar? 0

/-- The longest part of at most `limit` characters that a byte sequence begins with, and the bytes
after it. -/
def validUpTo : Nat → Bytes → List Char × Bytes
  | 0, bs => ([], bs)
  | limit + 1, bs =>
    match firstChar? bs with
    | none => ([], bs)
    | some c =>
      let (cs, rest) := validUpTo limit (bs.drop c.utf8Size)
      (c :: cs, rest)

/-- The longest text that a byte sequence begins with, and the bytes after it. -/
def validPart (bs : Bytes) : List Char × Bytes := validUpTo bs.length bs

/-- The text that a byte sequence spells, if all of it does. -/
def decode? (bs : Bytes) : Option (List Char) :=
  match validPart bs with
  | (cs, []) => some cs
  | _ => none

/-- The string that a byte sequence spells, if all of it does. -/
def decodeString? (bs : Bytes) : Option String := (decode? bs).map String.ofList

/-- A byte that can follow the first one of a character. -/
def isContinuation (b : UInt8) : Bool := 0x80 ≤ b && b ≤ 0xBF

/-- The second bytes that can follow a first byte of a character of three or four bytes. -/
def secondByteRange (first : UInt8) : UInt8 × UInt8 :=
  if first = 0xE0 then (0xA0, 0xBF)
  else if first = 0xED then (0x80, 0x9F)
  else if first = 0xF0 then (0x90, 0xBF)
  else if first = 0xF4 then (0x80, 0x8F)
  else (0x80, 0xBF)

/-- How many bytes one replacement character stands for: the longest beginning of a character that
the sequence starts with, and at least one byte. -/
def damagedLength : Bytes → Nat
  | first :: second :: rest =>
    let (low, high) := secondByteRange first
    if 0xE0 ≤ first && first ≤ 0xF4 && low ≤ second && second ≤ high then
      match rest with
      | third :: _ => if 0xF0 ≤ first && isContinuation third then 3 else 2
      | [] => 2
    else 1
  | _ => 1

/-- The character that stands for damaged bytes. -/
def replacementChar : Char := '\uFFFD'

/-- Reads at most `limit` characters and damages. -/
def decodeLossyUpTo : Nat → Bytes → List Char
  | 0, _ => []
  | _ + 1, [] => []
  | limit + 1, bs@(_ :: _) =>
    match firstChar? bs with
    | some c => c :: decodeLossyUpTo limit (bs.drop c.utf8Size)
    | none => replacementChar :: decodeLossyUpTo limit (bs.drop (damagedLength bs))

/-- The text of a byte sequence, with a replacement character for each damage. -/
def decodeLossy (bs : Bytes) : List Char := decodeLossyUpTo bs.length bs

/-! ## Reading back what was written -/

theorem encode_nil : encode [] = [] := rfl

theorem encode_cons (c : Char) (cs : List Char) :
    encode (c :: cs) = String.utf8EncodeChar c ++ encode cs := rfl

theorem encode_append (cs ds : List Char) : encode (cs ++ ds) = encode cs ++ encode ds := by
  simp [encode]

/-- A character of ASCII is its own byte. -/
theorem utf8EncodeChar_of_lt {c : Char} (h : c.toNat < 128) :
    String.utf8EncodeChar c = [UInt8.ofNat c.toNat] := by
  have small : c.val.toNat ≤ 0x7F := Nat.le_of_lt_succ h
  simp only [String.utf8EncodeChar, small, if_true]
  rfl

/-- No byte of another character is one of ASCII. -/
theorem le_of_mem_utf8EncodeChar {c : Char} {b : UInt8} (h : 128 ≤ c.toNat)
    (mem : b ∈ String.utf8EncodeChar c) : 128 ≤ b.toNat := by
  have large : ¬c.val.toNat ≤ 0x7F := Nat.not_le_of_lt h
  simp only [String.utf8EncodeChar, large, if_false] at mem
  -- two, three or four bytes
  split at mem
  · simp only [List.mem_cons, List.not_mem_nil, or_false] at mem
    rcases mem with rfl | rfl <;> simp only [UInt8.toNat_ofNat'] <;> omega
  · split at mem
    · simp only [List.mem_cons, List.not_mem_nil, or_false] at mem
      rcases mem with rfl | rfl | rfl <;> simp only [UInt8.toNat_ofNat'] <;> omega
    · simp only [List.mem_cons, List.not_mem_nil, or_false] at mem
      rcases mem with rfl | rfl | rfl | rfl <;> simp only [UInt8.toNat_ofNat'] <;> omega

theorem firstChar?_encode_append (c : Char) (rest : Bytes) :
    firstChar? (String.utf8EncodeChar c ++ rest) = some c := by
  have hlen : (String.utf8EncodeChar c).length ≤ 4 := by
    rw [String.length_utf8EncodeChar]; exact Char.utf8Size_le_four c
  rw [firstChar?, List.take_append, List.take_of_length_le hlen, List.toByteArray_append]
  exact ByteArray.utf8DecodeChar?_utf8EncodeChar_append

theorem firstChar?_nil : firstChar? [] = none := rfl

theorem validUpTo_encode (cs : List Char) (limit : Nat) (h : cs.length ≤ limit) (rest : Bytes)
    (stop : firstChar? rest = none) : validUpTo limit (encode cs ++ rest) = (cs, rest) := by
  induction cs generalizing limit with
  | nil => cases limit <;> simp [validUpTo, encode_nil, stop]
  | cons c cs ih =>
    cases limit with
    | zero => simp at h
    | succ limit =>
      have hc : (String.utf8EncodeChar c ++ (encode cs ++ rest)).drop c.utf8Size =
          encode cs ++ rest := by
        rw [← String.length_utf8EncodeChar]; exact List.drop_left
      rw [encode_cons, List.append_assoc, validUpTo, firstChar?_encode_append]
      simp only [hc, ih limit (by simpa using h)]

theorem length_le_length_encode (cs : List Char) : cs.length ≤ (encode cs).length := by
  induction cs with
  | nil => simp
  | cons c cs ih =>
    have := Char.utf8Size_pos c
    rw [encode_cons, List.length_append, String.length_utf8EncodeChar, List.length_cons]
    omega

/-- A written text spells nothing else and leaves nothing. -/
theorem validPart_encode (cs : List Char) : validPart (encode cs) = (cs, []) := by
  have h := validUpTo_encode cs (encode cs).length (length_le_length_encode cs) [] firstChar?_nil
  rwa [List.append_nil] at h

/-- A written text is read back whole. -/
theorem decode?_encode (cs : List Char) : decode? (encode cs) = some cs := by
  simp [decode?, validPart_encode]

theorem encode_map_ofNat (bs : Bytes) (h : ∀ b ∈ bs, b.toNat < 128) :
    encode (bs.map fun b => Char.ofNat b.toNat) = bs := by
  have hbyte : ∀ n < 128, String.utf8EncodeChar (Char.ofNat n) = [UInt8.ofNat n] := by decide
  induction bs with
  | nil => rfl
  | cons b bs ih =>
    rw [List.map_cons, encode_cons, hbyte b.toNat (h b (by simp)),
      ih fun x hx => h x (List.mem_cons_of_mem b hx), UInt8.ofNat_toNat, List.singleton_append]

theorem decodeString?_encodeString (s : String) : decodeString? (encodeString s) = some s := by
  simp [decodeString?, encodeString, decode?_encode]

end EventGates.Text
