/-!
# Hexadecimal digits

Digits of both cases are read; the case of a written digit is chosen by the writer.
-/

namespace EventGates.Text

/-- The digit below sixteen with its letters in lower case. -/
def lowerHexDigit (n : Nat) : Char := Char.ofNat (if n < 10 then 0x30 + n else 0x57 + n)

/-- The digit below sixteen with its letters in upper case. -/
def upperHexDigit (n : Nat) : Char := Char.ofNat (if n < 10 then 0x30 + n else 0x37 + n)

/-- The value of a byte that is a hexadecimal digit of either case. -/
def hexValue? (b : UInt8) : Option Nat :=
  let n := b.toNat
  if 0x30 ≤ n ∧ n ≤ 0x39 then some (n - 0x30)
  else if 0x41 ≤ n ∧ n ≤ 0x46 then some (n - 0x37)
  else if 0x61 ≤ n ∧ n ≤ 0x66 then some (n - 0x57)
  else none

/-- The digits of a number in lower case without leading zeros. -/
def lowerHex (n : Nat) : List Char := Nat.toDigits 16 n

theorem hexValue?_upperHexDigit : ∀ n < 16, hexValue? (upperHexDigit n).toUInt8 = some n := by
  decide

theorem hexValue?_lowerHexDigit : ∀ n < 16, hexValue? (lowerHexDigit n).toUInt8 = some n := by
  decide

end EventGates.Text
