import EventGates.Json.Fault
import EventGates.Json.Value
import EventGates.Text.Hex

/-!
# Reading a JSON text

A reader takes what it needs from the front of the remaining bytes and stops at the first fault.
Numerals that do not fit a whole number become floating-point numbers; strings must spell a text;
arrays and objects nest only as deeply as the caller allows.

Where a reader repeats itself, `budget` bounds the number of times; any sequence with a byte more
than the remaining ones is enough.
-/

namespace EventGates.Json

open Text (Bytes)

/-- Reads something from the front of a byte sequence. -/
abbrev Reader (α : Type) := Bytes → Except Fault (α × Bytes)

namespace Reader

/-- A blank between tokens. -/
def isBlankByte (b : UInt8) : Bool := b == 0x20 || b == 0x0A || b == 0x09 || b == 0x0D

def skipBlanks (bs : Bytes) : Bytes := bs.dropWhile isBlankByte

/-! ## Numbers -/

def isDigit (b : UInt8) : Bool := 0x30 ≤ b && b ≤ 0x39

def digitValue (b : UInt8) : Nat := b.toNat - 0x30

/-- The first byte is a digit. -/
def startsWithDigit : Bytes → Bool
  | b :: _ => isDigit b
  | [] => false

/-- Appends digits to a significand as long as it stays below the limit; gives the significand, the
number of digits used and the rest. -/
def takeDigits (limit significand : Nat) : Bytes → Nat × Nat × Bytes
  | [] => (significand, 0, [])
  | b :: rest =>
    if isDigit b && 10 * significand + digitValue b < limit then
      let (s, count, rest) := takeDigits limit (10 * significand + digitValue b) rest
      (s, count + 1, rest)
    else (significand, 0, b :: rest)

/-- Significands stay below this limit. -/
def significandLimit : Nat := 0x10000000000000000

/-- Exponents stay below this limit. -/
def exponentLimit : Nat := 0x80000000

/-- The greatest power of ten by which a number is scaled at once. -/
def greatestPower : Nat := 308

/-- A power of ten, rounded. -/
def powerOfTen (e : Nat) : Ratio :=
  match Binary64.ofRatio false ⟨Nat.pow 10 e, 1⟩ with
  | some x => x.magnitude
  | none => ⟨Nat.pow 10 e, 1⟩

/-- A number times a power of ten, in at most `steps` divisions by the greatest power; none if it is
too large. -/
def scale : Nat → Binary64 → Int → Option Binary64
  | 0, x, _ => some (.zero x.negative)
  | steps + 1, x, exponent =>
    if exponent.natAbs ≤ greatestPower then
      if 0 ≤ exponent then x.mulRatio (powerOfTen exponent.natAbs)
      else x.divRatio (powerOfTen exponent.natAbs)
    else if x.isZero then some x
    else if 0 ≤ exponent then none
    else do scale steps (← x.divRatio (powerOfTen greatestPower)) (exponent + greatestPower)

/-- The floating-point number with the given decimal significand and exponent. -/
def realNumber (negative : Bool) (significand : Nat) (exponent : Int) : Reader Number := fun rest =>
  match (Binary64.ofRatio negative ⟨significand, 1⟩).bind (scale 4 · exponent) with
  | some x => .ok (.real x, rest)
  | none => .error (.here .numberOutOfRange rest)

/-- The digits of an exponent after the first one. -/
def exponentDigits (negative : Bool) (significand : Nat) (exponent : Int) (negativeExponent : Bool)
    (first : Nat) : Reader Number := fun rest =>
  match takeDigits exponentLimit first rest with
  | (e, _, rest) =>
    if startsWithDigit rest then
      if significand ≠ 0 ∧ !negativeExponent then .error (.here .numberOutOfRange (rest.drop 1))
      else .ok (.real (.zero negative), rest.dropWhile isDigit)
    else
      let total := if negativeExponent then exponent - e else exponent + e
      realNumber negative significand total rest

/-- What follows the letter of an exponent. -/
def exponentPart (negative : Bool) (significand : Nat) (exponent : Int) : Reader Number := fun bs =>
  let (negativeExponent, bs) : Bool × Bytes :=
    match bs with
    | 0x2B :: rest => (false, rest)
    | 0x2D :: rest => (true, rest)
    | _ => (false, bs)
  match bs with
  | [] => .error (.here .endInValue [])
  | b :: rest =>
    if isDigit b then
      exponentDigits negative significand exponent negativeExponent (digitValue b) rest
    else .error (.here .invalidNumber rest)

/-- An exponent or the end of a numeral with a point or too many digits. -/
def exponentOrEnd (negative : Bool) (significand : Nat) (exponent : Int) : Reader Number
  | 0x65 :: rest | 0x45 :: rest => exponentPart negative significand exponent rest
  | rest => realNumber negative significand exponent rest

/-- What follows the point of a numeral. -/
def decimals (negative : Bool) (significand : Nat) (exponent : Int) : Reader Number := fun bs =>
  match takeDigits significandLimit significand bs with
  | (s, count, rest) =>
    if startsWithDigit rest then
      exponentOrEnd negative s (exponent - count) (rest.dropWhile isDigit)
    else if count = 0 then
      .error (.next (if rest.isEmpty then .endInValue else .invalidNumber) rest)
    else exponentOrEnd negative s (exponent - count) rest

/-- The whole number with the given sign, as a floating-point number if it is out of range or the
negative zero. -/
def wholeNumber (negative : Bool) (significand : Nat) : Reader Number := fun rest =>
  if negative then
    if h : 0 < significand ∧ significand ≤ 0x8000000000000000 then
      .ok (.negative ⟨significand - 1, by omega⟩, rest)
    else realNumber true significand 0 rest
  else if h : significand < 0x10000000000000000 then .ok (.natural ⟨significand, h⟩, rest)
  else realNumber false significand 0 rest

/-- What follows the digits before the point. -/
def afterDigits (negative : Bool) (significand : Nat) : Reader Number := fun bs =>
  match bs with
  | 0x2E :: rest => decimals negative significand 0 rest
  | 0x65 :: rest | 0x45 :: rest => exponentPart negative significand 0 rest
  | _ => wholeNumber negative significand bs

/-- Digits beyond the significand limit count as tens. -/
def longNumeral (negative : Bool) (significand : Nat) : Reader Number := fun bs =>
  let exponent := (bs.takeWhile isDigit).length
  match bs.dropWhile isDigit with
  | 0x2E :: rest => decimals negative significand exponent rest
  | rest => exponentOrEnd negative significand exponent rest

/-- A numeral after its sign. -/
def unsignedNumber (negative : Bool) : Reader Number := fun bs =>
  match bs with
  | [] => .error (.here .endInValue [])
  | b :: rest =>
    if b = 0x30 then
      if startsWithDigit rest then .error (.next .invalidNumber rest)
      else afterDigits negative 0 rest
    else if isDigit b then
      match takeDigits significandLimit (digitValue b) rest with
      | (s, _, rest) =>
        if startsWithDigit rest then longNumeral negative s rest else afterDigits negative s rest
    else .error (.here .invalidNumber rest)

/-- A numeral. -/
def number : Reader Number := fun bs =>
  match bs with
  | 0x2D :: rest => unsignedNumber true rest
  | _ => unsignedNumber false bs

/-! ## Strings -/

/-- The four digits of an escape. -/
def hexEscape : Reader Nat := fun bs =>
  match bs with
  | a :: b :: c :: d :: rest =>
    match Text.hexValue? a, Text.hexValue? b, Text.hexValue? c, Text.hexValue? d with
    | some a, some b, some c, some d => .ok (((a * 16 + b) * 16 + c) * 16 + d, rest)
    | _, _, _, _ => .error (.here .invalidEscape rest)
  | _ => .error (.here .endInString [])

/-- The second half of a character outside the basic plane. -/
def lowSurrogate (high : Nat) : Reader Nat := fun bs =>
  match bs with
  | [] => .error (.here .endInString [])
  | 0x5C :: [] => .error (.here .endInString [])
  | 0x5C :: 0x75 :: rest => do
    let (low, rest) ← hexEscape rest
    if 0xDC00 ≤ low ∧ low ≤ 0xDFFF then
      .ok ((high - 0xD800) * 1024 + (low - 0xDC00) + 0x10000, rest)
    else .error (.here .loneSurrogate rest)
  | 0x5C :: _ :: rest => .error (.here .unexpectedEndOfHexEscape rest)
  | _ :: rest => .error (.here .unexpectedEndOfHexEscape rest)

/-- The code point of an escape by number. -/
def unicodeEscape : Reader Nat := fun bs => do
  let (n, rest) ← hexEscape bs
  if 0xDC00 ≤ n ∧ n ≤ 0xDFFF then .error (.here .loneSurrogate rest)
  else if 0xD800 ≤ n ∧ n ≤ 0xDBFF then lowSurrogate n rest
  else .ok (n, rest)

/-- The byte that a letter after a backslash stands for. -/
def shortEscape? (letter : UInt8) : Option UInt8 :=
  if letter = 0x22 ∨ letter = 0x5C ∨ letter = 0x2F then some letter
  else if letter = 0x62 then some 0x08
  else if letter = 0x66 then some 0x0C
  else if letter = 0x6E then some 0x0A
  else if letter = 0x72 then some 0x0D
  else if letter = 0x74 then some 0x09
  else none

/-- The bytes that an escape stands for, after its backslash. -/
def escape : Reader Bytes := fun bs =>
  match bs with
  | [] => .error (.here .endInString [])
  | letter :: rest =>
    if letter = 0x75 then do
      let (n, rest) ← unicodeEscape rest
      .ok (String.utf8EncodeChar (Char.ofNat n), rest)
    else match shortEscape? letter with
      | some b => .ok ([b], rest)
      | none => .error (.here .invalidEscape rest)

/-- The bytes of a string up to its closing quote. -/
def stringBytes : Bytes → Reader Bytes
  | [], bs => .error (.here .endInString bs)
  | _ :: _, [] => .error (.here .endInString [])
  | _ :: budget, b :: rest =>
    if b = 0x22 then .ok ([], rest)
    else if b = 0x5C then do
      let (escaped, rest) ← escape rest
      let (more, rest) ← stringBytes budget rest
      .ok (escaped ++ more, rest)
    else if b < 0x20 then .error (.here .controlCharacter rest)
    else do
      let (more, rest) ← stringBytes budget rest
      .ok (b :: more, rest)

/-- A string after its opening quote. -/
def stringBody : Reader String := fun bs => do
  let (content, rest) ← stringBytes (0 :: bs) bs
  match Text.validPart content with
  | (cs, []) => .ok (String.ofList cs, rest)
  | (_, invalid) => .error ⟨.invalidCodePoint, rest.length, invalid.length⟩

/-! ## Arrays and objects -/

/-- The items after the first one, up to the closing bracket. -/
def moreItems {α : Type} (item : Reader α) : Bytes → Reader (List α)
  | [], bs => .error (.next .endInList bs)
  | _ :: budget, bs =>
    match skipBlanks bs with
    | [] => .error (.next .endInList [])
    | 0x5D :: rest => .ok ([], rest)
    | 0x2C :: rest =>
      match skipBlanks rest with
      | [] => .error (.next .endInValue [])
      | 0x5D :: rest => .error (.next .trailingComma (0x5D :: rest))
      | rest => do
        let (x, rest) ← item rest
        let (xs, rest) ← moreItems item budget rest
        .ok (x :: xs, rest)
    | rest => .error (.next .expectedCommaOrBracket rest)

/-- The items of an array after its opening bracket. -/
def items {α : Type} (item : Reader α) : Reader (List α) := fun bs =>
  match skipBlanks bs with
  | [] => .error (.next .endInList [])
  | 0x5D :: rest => .ok ([], rest)
  | rest => do
    let (x, rest) ← item rest
    let (xs, rest) ← moreItems item (0 :: rest) rest
    .ok (x :: xs, rest)

/-- The colon between a key and its value. -/
def colon : Reader Unit := fun bs =>
  match skipBlanks bs with
  | [] => .error (.next .endInObject [])
  | 0x3A :: rest => .ok ((), rest)
  | rest => .error (.next .expectedColon rest)

/-- A member after the opening quote of its key. -/
def member {α : Type} (item : Reader α) : Reader (String × α) := fun bs => do
  let (key, rest) ← stringBody bs
  let (_, rest) ← colon rest
  let (x, rest) ← item rest
  .ok ((key, x), rest)

/-- The members after the first one, up to the closing brace. -/
def moreMembers {α : Type} (item : Reader α) : Bytes → Reader (List (String × α))
  | [], bs => .error (.next .endInObject bs)
  | _ :: budget, bs =>
    match skipBlanks bs with
    | [] => .error (.next .endInObject [])
    | 0x7D :: rest => .ok ([], rest)
    | 0x2C :: rest =>
      match skipBlanks rest with
      | [] => .error (.next .endInValue [])
      | 0x22 :: rest => do
        let (m, rest) ← member item rest
        let (ms, rest) ← moreMembers item budget rest
        .ok (m :: ms, rest)
      | 0x7D :: rest => .error (.next .trailingComma (0x7D :: rest))
      | rest => .error (.next .keyNotString rest)
    | rest => .error (.next .expectedCommaOrBrace rest)

/-- The members of an object after its opening brace. -/
def members {α : Type} (item : Reader α) : Reader (List (String × α)) := fun bs =>
  match skipBlanks bs with
  | [] => .error (.next .endInObject [])
  | 0x7D :: rest => .ok ([], rest)
  | 0x22 :: rest => do
    let (m, rest) ← member item rest
    let (ms, rest) ← moreMembers item (0 :: rest) rest
    .ok (m :: ms, rest)
  | rest => .error (.next .keyNotString rest)

/-! ## Values -/

/-- The letters of a literal after the first one. -/
def literal (letters : Bytes) (x : Json) : Reader Json := fun bs =>
  match letters, bs with
  | [], rest => .ok (x, rest)
  | _ :: _, [] => .error (.here .endInValue [])
  | letter :: letters, b :: rest =>
    if b = letter then literal letters x rest else .error (.here .expectedIdent rest)

/-- A value, given how the values inside it are read, or that there must be none. -/
def valueWith (nested : Option (Reader Json)) : Reader Json := fun bs =>
  match skipBlanks bs with
  | [] => .error (.next .endInValue [])
  | b :: rest =>
    if b = 0x6E then literal [0x75, 0x6C, 0x6C] .null rest
    else if b = 0x74 then literal [0x72, 0x75, 0x65] (.bool true) rest
    else if b = 0x66 then literal [0x61, 0x6C, 0x73, 0x65] (.bool false) rest
    else if b = 0x2D || isDigit b then do
      let (n, rest) ← number (b :: rest)
      .ok (.number n, rest)
    else if b = 0x22 then do
      let (s, rest) ← stringBody rest
      .ok (.string s, rest)
    else if b = 0x5B then
      match nested with
      | none => .error (.next .recursionLimit (b :: rest))
      | some item => do
        let (xs, rest) ← items item rest
        .ok (.array xs, rest)
    else if b = 0x7B then
      match nested with
      | none => .error (.next .recursionLimit (b :: rest))
      | some item => do
        let (ms, rest) ← members item rest
        .ok (.object ms, rest)
    else .error (.next .expectedValue (b :: rest))

/-- A value in which arrays and objects nest at most as deeply as given. -/
def valueWithin : Nat → Reader Json
  | 0, bs => valueWith none bs
  | depth + 1, bs => valueWith (some (valueWithin depth)) bs

/-- How deeply a whole text may nest. -/
def depthLimit : Nat := 127

/-- Only blanks are left. -/
def endOfText : Reader Unit := fun bs =>
  match skipBlanks bs with
  | [] => .ok ((), [])
  | rest => .error (.next .trailingCharacters rest)

end Reader

/-- The tree that a text spells. -/
def read (bs : Bytes) : Except Fault Json := do
  let (x, rest) ← Reader.valueWithin Reader.depthLimit bs
  let _ ← Reader.endOfText rest
  .ok x

end EventGates.Json
