import EventGates.Json.Binary64

/-!
# Shortest decimal text of a number

A number is written with the fewest decimal digits that read back as it, and of those with the
digits nearest to it. With `d` digits the only candidates are the two neighbours of the value on the
grid of decimals with `d` digits, so each grid is tried in turn. Positional notation serves
exponents from -5 to 15.
-/

namespace EventGates.Binary64

/-- The decimal number `digits * 10 ^ exponent`. -/
structure Decimal where
  digits : Nat
  exponent : Int
deriving DecidableEq, Repr

def Decimal.ratio (d : Decimal) : Ratio := .scaled d.digits 10 d.exponent

/-- The greatest power of ten not above a positive whole number. -/
def floorLog10 (n : Nat) : Nat := (Nat.toDigits 10 n).length - 1

/-- The exponent of the leading decimal digit of a positive quotient. -/
def leadingExponent (r : Ratio) : Int :=
  if r.den ≤ r.num then floorLog10 (r.num / r.den)
  else
    let j := floorLog10 (r.den / r.num)
    if r.den = r.num * Nat.pow 10 j then -(j : Int) else -(j : Int) - 1

/-- The quotients between which everything reads as `x`. -/
def readingInterval (x : Binary64) : Ratio × Ratio :=
  let below := if x.mantissa = leastFull ∧ minExponent < x.exponent then 1 else 2
  (.scaled (4 * x.mantissa - below) 2 (x.exponent - 2),
    .scaled (4 * x.mantissa + 2) 2 (x.exponent - 2))

/-- A magnitude that reads back as `x`; the ends do if the mantissa is even. -/
def readsBack (x : Binary64) (r : Ratio) : Bool :=
  let (low, high) := x.readingInterval
  if x.mantissa % 2 = 0 then low.le r && r.le high else low.lt r && r.lt high

/-- The neighbour of `x` with the given count of digits that reads back, the nearer one if both
do. -/
def onGrid (x : Binary64) (count : Nat) : Option Decimal :=
  let exponent := leadingExponent x.magnitude - count + 1
  let cell := x.magnitude.div (.scaled 1 10 exponent)
  let low : Decimal := ⟨cell.floor, exponent⟩
  let high : Decimal := ⟨cell.floor + 1, exponent⟩
  let rest := 2 * (cell.num % cell.den)
  let lowFirst := rest < cell.den || (rest == cell.den && cell.floor % 2 == 0)
  (if lowFirst then [low, high] else [high, low]).find? fun d => x.readsBack d.ratio

/-- The shortest decimal that reads back as a positive number. -/
def shortest (x : Binary64) : Decimal :=
  ((List.range' 1 17).findSome? x.onGrid).getD ⟨x.mantissa, 0⟩

/-- The digits of a decimal without trailing zeros, and the exponent of the first one. -/
def Decimal.scientific (d : Decimal) : List Char × Int :=
  let all := Nat.toDigits 10 d.digits
  ((all.reverse.dropWhile (· == '0')).reverse, d.exponent + all.length - 1)

/-- Digits whose first one has the given exponent, in positional notation with a decimal at
least. -/
def positional (digits : List Char) (exponent : Int) : List Char :=
  match exponent with
  | .ofNat e =>
    let padded := digits ++ List.replicate (e + 2 - digits.length) '0'
    padded.take (e + 1) ++ '.' :: padded.drop (e + 1)
  | .negSucc e => ['0', '.'] ++ List.replicate e '0' ++ digits

/-- Digits whose first one has the given exponent, with a power of ten. -/
def withPower (digits : List Char) (exponent : Int) : List Char :=
  let sign := if exponent < 0 then '-' else '+'
  let fraction := match digits.tail with
    | [] => []
    | ds => '.' :: ds
  digits.take 1 ++ fraction ++ ['e', sign] ++ Nat.toDigits 10 exponent.natAbs

/-- The text of a magnitude. -/
def magnitudeText (x : Binary64) : List Char :=
  if x.isZero then ['0', '.', '0']
  else
    let (digits, exponent) := x.shortest.scientific
    if -5 ≤ exponent ∧ exponent ≤ 15 then positional digits exponent
    else withPower digits exponent

/-- The text of a number. -/
def text (x : Binary64) : List Char :=
  if x.negative then '-' :: x.magnitudeText else x.magnitudeText

end EventGates.Binary64
