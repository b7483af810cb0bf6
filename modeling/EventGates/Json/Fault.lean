import EventGates.Text.Utf8

/-!
# Faults in a JSON text

A fault is found at a byte of the text and reported with the line and the column of that byte. While
reading, the byte is given by how many bytes lay ahead, because a reader sees only those.
-/

namespace EventGates.Json

open Text (Bytes)

/-- What is wrong with a JSON text. -/
inductive FaultKind where
  | endInList
  | endInObject
  | endInString
  | endInValue
  | expectedColon
  | expectedCommaOrBracket
  | expectedCommaOrBrace
  | expectedIdent
  | expectedValue
  | invalidEscape
  | invalidNumber
  | numberOutOfRange
  | invalidCodePoint
  | controlCharacter
  | keyNotString
  | loneSurrogate
  | trailingComma
  | trailingCharacters
  | unexpectedEndOfHexEscape
  | recursionLimit
deriving DecidableEq, Repr

/-- The wording of a fault. -/
def FaultKind.message : FaultKind → String
  | .endInList => "EOF while parsing a list"
  | .endInObject => "EOF while parsing an object"
  | .endInString => "EOF while parsing a string"
  | .endInValue => "EOF while parsing a value"
  | .expectedColon => "expected `:`"
  | .expectedCommaOrBracket => "expected `,` or `]`"
  | .expectedCommaOrBrace => "expected `,` or `\x7d`"
  | .expectedIdent => "expected ident"
  | .expectedValue => "expected value"
  | .invalidEscape => "invalid escape"
  | .invalidNumber => "invalid number"
  | .numberOutOfRange => "number out of range"
  | .invalidCodePoint => "invalid unicode code point"
  | .controlCharacter => "control character (\\u0000-\\u001F) found while parsing a string"
  | .keyNotString => "key must be a string"
  | .loneSurrogate => "lone leading surrogate in hex escape"
  | .trailingComma => "trailing comma"
  | .trailingCharacters => "trailing characters"
  | .unexpectedEndOfHexEscape => "unexpected end of hex escape"
  | .recursionLimit => "recursion limit exceeded"

/-- A fault, with the number of bytes that lay ahead and the number of columns by which the reported
place precedes them. -/
structure Fault where
  kind : FaultKind
  ahead : Nat
  back : Nat := 0
deriving DecidableEq, Repr

/-- A fault at the next byte. -/
def Fault.here (kind : FaultKind) (rest : Bytes) : Fault := ⟨kind, rest.length, 0⟩

/-- A fault of the next byte, reported just behind it. -/
def Fault.next (kind : FaultKind) (rest : Bytes) : Fault := ⟨kind, rest.length - 1, 0⟩

/-- A place in a text. -/
structure Place where
  line : Nat
  column : Nat
deriving DecidableEq, Repr

/-- The place of the byte that has `ahead` bytes from it to the end. -/
def Place.of (text : Bytes) (ahead : Nat) : Place :=
  let before := text.take (text.length - ahead)
  { line := 1 + before.count 0x0A
    column := (before.reverse.takeWhile (· != 0x0A)).length }

/-- The text of a place. -/
def Place.message (p : Place) : String :=
  "line " ++ toString p.line ++ " column " ++ toString p.column

/-- The report on a fault in a text. -/
def Fault.message (text : Bytes) (f : Fault) : String :=
  let place := Place.of text f.ahead
  f.kind.message ++ " at " ++ (Place.message { place with column := place.column - f.back })

end EventGates.Json
