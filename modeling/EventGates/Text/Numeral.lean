/-!
# Unsigned numerals in settings

A number in a setting is an optional plus sign and decimal digits, and must not exceed the limit of
its setting. `parseUpTo` reports the first thing wrong from the left.
-/

namespace EventGates.Text

/-- Why a text is no numeral below a limit. -/
inductive NumeralError where
  | empty
  | invalidDigit
  | tooLarge
deriving DecidableEq, Repr

/-- The wording of a numeral error. -/
def NumeralError.message : NumeralError → String
  | .empty => "cannot parse integer from empty string"
  | .invalidDigit => "invalid digit found in string"
  | .tooLarge => "number too large to fit in target type"

/-- The value of a decimal digit. -/
def digitValue? (c : Char) : Option Nat :=
  if c.isDigit then some (c.toNat - 0x30) else none

/-- Continues a numeral whose digits so far have the value `value`. -/
def digitsUpTo (limit value : Nat) : List Char → Except NumeralError Nat
  | [] => .ok value
  | c :: cs =>
    match digitValue? c with
    | none => .error .invalidDigit
    | some d =>
      if limit < 10 * value + d then .error .tooLarge else digitsUpTo limit (10 * value + d) cs

/-- The value of a numeral that does not exceed `limit`. -/
def parseUpTo (limit : Nat) (s : String) : Except NumeralError Nat :=
  match s.toList with
  | [] => .error .empty
  | ['+'] => .error .invalidDigit
  | '+' :: cs => digitsUpTo limit 0 cs
  | cs => digitsUpTo limit 0 cs

end EventGates.Text
