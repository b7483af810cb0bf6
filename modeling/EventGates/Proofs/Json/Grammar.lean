import EventGates.Json.Skipper
import EventGates.Proofs.Json.Strings

/-!
# The grammar of a JSON text

What a text may look like, said without a reader: each relation says which bytes spell a thing. The
texts of values are those of the common grammar, where a string is a text, a number is what its
numeral is read as, and arrays and objects nest no more deeply than allowed (`Spells`). A value that
is only passed over may be any text of that form, whatever its escapes and its other bytes come to
(`Passed`).
-/

namespace EventGates.Json.Grammar

open Text (Bytes)
open Reader (isBlankByte isDigit isPlain shortEscape?)

variable {α : Type}

/-! ## Blanks -/

/-- Blanks, as many as there are. -/
def Blank (w : Bytes) : Prop := ∀ b ∈ w, isBlankByte b = true

/-- Something behind blanks. -/
def Led (R : α → Bytes → Prop) (x : α) (text : Bytes) : Prop :=
  ∃ w tok, Blank w ∧ R x tok ∧ text = w ++ tok

/-! ## Numerals -/

/-- Digits, at least one. -/
def Digits (ds : Bytes) : Prop := ds ≠ [] ∧ ∀ b ∈ ds, isDigit b = true

/-- The digits before the point: a zero stands alone. -/
inductive Whole : Bytes → Prop where
  | zero : Whole [0x30]
  | digits {b : UInt8} {ds : Bytes} :
    b ≠ 0x30 →
    Digits (b :: ds) →
    Whole (b :: ds)

/-- The point and the digits behind it, if there are any. -/
inductive Fraction : Bytes → Prop where
  | none : Fraction []
  | some {ds : Bytes} :
    Digits ds →
    Fraction (0x2E :: ds)

/-- The sign of an exponent, if there is one. -/
def ExponentSign (sign : Bytes) : Prop := sign = [] ∨ sign = [0x2B] ∨ sign = [0x2D]

/-- The exponent, if there is one. -/
inductive Exponent : Bytes → Prop where
  | none : Exponent []
  | some {letter : UInt8} {sign ds : Bytes} :
    letter = 0x65 ∨ letter = 0x45 →
    ExponentSign sign →
    Digits ds →
    Exponent (letter :: (sign ++ ds))

/-- A numeral without a sign. -/
inductive Unsigned : Bytes → Prop where
  | mk {whole fraction exponent : Bytes} :
    Whole whole →
    Fraction fraction →
    Exponent exponent →
    Unsigned (whole ++ (fraction ++ exponent))

/-- A numeral. -/
inductive Numeral : Bytes → Prop where
  | positive {tok : Bytes} :
    Unsigned tok →
    Numeral tok
  | negative {tok : Bytes} :
    Unsigned tok →
    Numeral (0x2D :: tok)

/-- A numeral spells the number that it is read as. -/
def SpellsNumber (n : Number) (tok : Bytes) : Prop :=
  Numeral tok ∧ Reader.number tok = .ok (n, [])

/-! ## Strings -/

/-- Four hexadecimal digits. -/
inductive Hex : Nat → Bytes → Prop where
  | mk {a b c d : UInt8} {i j k l : Nat} :
    Text.hexValue? a = some i →
    Text.hexValue? b = some j →
    Text.hexValue? c = some k →
    Text.hexValue? d = some l →
    Hex (((i * 16 + j) * 16 + k) * 16 + l) [a, b, c, d]

/-- A piece of a string, with the bytes that it stands for. -/
inductive Piece : Bytes → Bytes → Prop where
  | plain {b : UInt8} :
    isPlain b = true →
    Piece [b] [b]
  | short {letter b : UInt8} :
    shortEscape? letter = some b →
    Piece [b] [0x5C, letter]
  /-- An escape by number of a character of the basic plane. -/
  | number {n : Nat} {hex : Bytes} :
    Hex n hex →
    ¬(0xD800 ≤ n ∧ n ≤ 0xDFFF) →
    Piece (String.utf8EncodeChar (Char.ofNat n)) (0x5C :: 0x75 :: hex)
  /-- Two escapes for the two halves of another character. -/
  | pair {high low : Nat} {hex hex' : Bytes} :
    Hex high hex →
    Hex low hex' →
    0xD800 ≤ high ∧ high ≤ 0xDBFF →
    0xDC00 ≤ low ∧ low ≤ 0xDFFF →
    Piece (String.utf8EncodeChar
        (Char.ofNat ((high - 0xD800) * 1024 + (low - 0xDC00) + 0x10000)))
      (0x5C :: 0x75 :: (hex ++ 0x5C :: 0x75 :: hex'))

/-- The pieces of a string and its closing quote, with the bytes that they stand for. -/
inductive Content : Bytes → Bytes → Prop where
  | quote : Content [] [0x22]
  | piece {c cs tok toks : Bytes} :
    Piece c tok →
    Content cs toks →
    Content (c ++ cs) (tok ++ toks)

/-- A string after its opening quote: its pieces stand for the bytes of a text. -/
def SpellsBody (s : String) (body : Bytes) : Prop := Content (Text.encodeString s) body

/-! ## Lists -/

/-- The items after the first one, each behind a comma, and the closing byte. -/
inductive Tail (close : UInt8) (R : α → Bytes → Prop) : List α → Bytes → Prop where
  | close {w : Bytes} :
    Blank w →
    Tail close R [] (w ++ [close])
  | comma {w text rest : Bytes} {x : α} {xs : List α} :
    Blank w →
    Led R x text →
    Tail close R xs rest →
    Tail close R (x :: xs) (w ++ 0x2C :: (text ++ rest))

/-- Items with commas between them, and the closing byte. -/
inductive Enclosed (close : UInt8) (R : α → Bytes → Prop) : List α → Bytes → Prop where
  | empty {w : Bytes} :
    Blank w →
    Enclosed close R [] (w ++ [close])
  | items {text rest : Bytes} {x : α} {xs : List α} :
    Led R x text →
    Tail close R xs rest →
    Enclosed close R (x :: xs) (text ++ rest)

/-- A quoted key, a colon and what may stand under the key. -/
inductive Member {κ : Type} (K : κ → Bytes → Prop) (R : κ → α → Bytes → Prop) :
    κ × α → Bytes → Prop where
  | mk {key : κ} {x : α} {k w text : Bytes} :
    K key k →
    Blank w →
    Led (R key) x text →
    Member K R (key, x) (0x22 :: (k ++ (w ++ 0x3A :: text)))

/-! ## Values -/

/-- A value, given what spells the values inside it, or that there are none. -/
inductive ValueWith (nested : Option (Json → Bytes → Prop)) : Json → Bytes → Prop where
  | null : ValueWith nested .null [0x6E, 0x75, 0x6C, 0x6C]
  | true : ValueWith nested (.bool true) [0x74, 0x72, 0x75, 0x65]
  | false : ValueWith nested (.bool false) [0x66, 0x61, 0x6C, 0x73, 0x65]
  | number {n : Number} {tok : Bytes} :
    SpellsNumber n tok →
    ValueWith nested (.number n) tok
  | string {s : String} {body : Bytes} :
    SpellsBody s body →
    ValueWith nested (.string s) (0x22 :: body)
  | array {item : Json → Bytes → Prop} {xs : List Json} {tok : Bytes} :
    nested = some item →
    Enclosed 0x5D item xs tok →
    ValueWith nested (.array xs) (0x5B :: tok)
  | object {item : Json → Bytes → Prop} {ms : List (String × Json)} {tok : Bytes} :
    nested = some item →
    Enclosed 0x7D (Member SpellsBody fun _ => item) ms tok →
    ValueWith nested (.object ms) (0x7B :: tok)

/-- A value in which arrays and objects nest at most as deeply as given. -/
def Spells : Nat → Json → Bytes → Prop
  | 0 => ValueWith none
  | depth + 1 => ValueWith (some (Spells depth))

/-! ## Values that are passed over -/

/-- A piece of a string that is passed over: an escape by number need not spell a character. -/
inductive PassedPiece : Bytes → Prop where
  | plain {b : UInt8} :
    isPlain b = true →
    PassedPiece [b]
  | short {letter : UInt8} :
    (shortEscape? letter).isSome = true →
    PassedPiece [0x5C, letter]
  | number {n : Nat} {hex : Bytes} :
    Hex n hex →
    PassedPiece (0x5C :: 0x75 :: hex)

/-- The pieces of a string that is passed over, and its closing quote; its bytes need not spell a
text. -/
inductive PassedContent : Bytes → Prop where
  | quote : PassedContent [0x22]
  | piece {tok toks : Bytes} :
    PassedPiece tok →
    PassedContent toks →
    PassedContent (tok ++ toks)

/-- A value that is passed over, given which the values inside it are. -/
inductive PassedWith (nested : Bytes → Prop) : Bytes → Prop where
  | null : PassedWith nested [0x6E, 0x75, 0x6C, 0x6C]
  | true : PassedWith nested [0x74, 0x72, 0x75, 0x65]
  | false : PassedWith nested [0x66, 0x61, 0x6C, 0x73, 0x65]
  | number {tok : Bytes} :
    Numeral tok →
    PassedWith nested tok
  | string {body : Bytes} :
    PassedContent body →
    PassedWith nested (0x22 :: body)
  | array {items : List Unit} {tok : Bytes} :
    Enclosed 0x5D (fun _ => nested) items tok →
    PassedWith nested (0x5B :: tok)
  | object {members : List (Unit × Unit)} {tok : Bytes} :
    Enclosed 0x7D (Member (fun _ => PassedContent) fun _ _ => nested) members tok →
    PassedWith nested (0x7B :: tok)

/-- A value that is passed over and nests at most as deeply as given. -/
def PassedWithin : Nat → Bytes → Prop
  | 0 => PassedWith fun _ => False
  | depth + 1 => PassedWith (PassedWithin depth)

/-- A value that is passed over. -/
def Passed (tok : Bytes) : Prop := ∃ depth, PassedWithin depth tok

end EventGates.Json.Grammar
