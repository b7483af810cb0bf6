import EventGates.Json.Reader

/-!
# Skipping a JSON value

A value that nobody asked for is only passed over: its tokens must follow the grammar, but nesting
is not limited, numerals may be out of range and strings need not spell a text.

As in a reader, `budget` bounds how often something is repeated, and here also how deeply values
nest.
-/

namespace EventGates.Json

open Text (Bytes)

/-- Passes over something at the front of a byte sequence. -/
abbrev Skipper := Bytes → Except Fault Bytes

namespace Skipper

open Reader (skipBlanks isDigit startsWithDigit)

/-! ## Scalars -/

/-- The digits after a point or after the sign of an exponent, with the fault to report if there are
none. -/
def someDigits (fault : Bytes → Fault) : Skipper := fun bs =>
  if startsWithDigit bs then .ok (bs.dropWhile isDigit) else .error (fault bs)

/-- What follows the letter of an exponent. -/
def exponentPart : Skipper := fun bs =>
  let digits : Bytes := match bs with
    | 0x2B :: rest | 0x2D :: rest => rest
    | _ => bs
  someDigits (fun bs => .here .invalidNumber (bs.drop 1)) digits

/-- An exponent, if there is one. -/
def optionalExponent : Skipper := fun bs =>
  match bs with
  | 0x65 :: rest | 0x45 :: rest => exponentPart rest
  | _ => .ok bs

/-- What follows the digits before the point. -/
def afterDigits : Skipper := fun bs =>
  match bs with
  | 0x2E :: rest => do optionalExponent (← someDigits (.next .invalidNumber) rest)
  | _ => optionalExponent bs

/-- A numeral after its sign. -/
def unsignedNumber : Skipper := fun bs =>
  match bs with
  | 0x30 :: rest =>
    if startsWithDigit rest then .error (.next .invalidNumber rest) else afterDigits rest
  | _ => do afterDigits (← someDigits (fun bs => .here .invalidNumber (bs.drop 1)) bs)

/-- A string up to its closing quote. -/
def stringBody : Bytes → Skipper
  | [], bs => .error (.here .endInString bs)
  | _ :: _, [] => .error (.here .endInString [])
  | _ :: budget, b :: rest =>
    if b = 0x22 then .ok rest
    else if b = 0x5C then
      match rest with
      | [] => .error (.here .endInString [])
      | letter :: rest =>
        if letter = 0x75 then do
          let (_, rest) ← Reader.hexEscape rest
          stringBody budget rest
        else if (Reader.shortEscape? letter).isSome then stringBody budget rest
        else .error (.here .invalidEscape rest)
    else if b < 0x20 then .error (.here .controlCharacter (b :: rest))
    else stringBody budget rest

/-- A string after its opening quote. -/
def string : Skipper := fun bs => stringBody (0 :: bs) bs

/-- The letters of a literal after the first one. -/
def literal (letters : Bytes) : Skipper := fun bs => do
  let (_, rest) ← Reader.literal letters .null bs
  .ok rest

/-! ## Arrays and objects -/

/-- The items after the first one, up to the closing bracket. -/
def moreItems (item : Skipper) : Bytes → Skipper
  | [], bs => .error (.next .endInList bs)
  | _ :: budget, bs =>
    match skipBlanks bs with
    | [] => .error (.next .endInList [])
    | 0x5D :: rest => .ok rest
    | 0x2C :: rest => do moreItems item budget (← item rest)
    | rest => .error (.next .expectedCommaOrBracket rest)

/-- The items of an array after its opening bracket. -/
def items (item : Skipper) : Skipper := fun bs =>
  match skipBlanks bs with
  | [] => .error (.next .endInList [])
  | 0x5D :: rest => .ok rest
  | rest => do moreItems item (0 :: rest) (← item rest)

/-- A member. -/
def member (item : Skipper) : Skipper := fun bs =>
  match skipBlanks bs with
  | [] => .error (.next .endInObject [])
  | 0x22 :: rest => do
    let (_, rest) ← Reader.colon (← string rest)
    item rest
  | rest => .error (.next .keyNotString rest)

/-- The members after the first one, up to the closing brace. -/
def moreMembers (item : Skipper) : Bytes → Skipper
  | [], bs => .error (.next .endInObject bs)
  | _ :: budget, bs =>
    match skipBlanks bs with
    | [] => .error (.next .endInObject [])
    | 0x7D :: rest => .ok rest
    | 0x2C :: rest => do moreMembers item budget (← member item rest)
    | rest => .error (.next .expectedCommaOrBrace rest)

/-- The members of an object after its opening brace. -/
def members (item : Skipper) : Skipper := fun bs =>
  match skipBlanks bs with
  | [] => .error (.next .endInObject [])
  | 0x7D :: rest => .ok rest
  | rest => do moreMembers item (0 :: rest) (← member item rest)

/-! ## Values -/

/-- A value, given how the values inside it are passed over. -/
def valueWith (nested : Skipper) : Skipper := fun bs =>
  match skipBlanks bs with
  | [] => .error (.next .endInValue [])
  | b :: rest =>
    if b = 0x6E then literal [0x75, 0x6C, 0x6C] rest
    else if b = 0x74 then literal [0x72, 0x75, 0x65] rest
    else if b = 0x66 then literal [0x61, 0x6C, 0x73, 0x65] rest
    else if b = 0x2D then unsignedNumber rest
    else if isDigit b then unsignedNumber (b :: rest)
    else if b = 0x22 then string rest
    else if b = 0x5B then items nested rest
    else if b = 0x7B then members nested rest
    else .error (.next .expectedValue (b :: rest))

/-- A value whose arrays and objects nest no more deeply than the budget has bytes. -/
def valueWithin : Bytes → Skipper
  | [], bs => valueWith (fun bs => .error (.next .expectedValue bs)) bs
  | _ :: budget, bs => valueWith (valueWithin budget) bs

/-- A value. No value nests more deeply than it has bytes. -/
def value : Skipper := fun bs => valueWithin bs bs

end Skipper

end EventGates.Json
