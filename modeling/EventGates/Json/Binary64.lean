/-!
# Binary floating-point numbers

Finite binary64 numbers as exact values: a sign, a whole mantissa below `2 ^ 53` and a power of two.
The only operations are the ones a decimal numeral needs: rounding a quotient to the nearest number,
product and quotient. All of them compute with whole numbers.
-/

namespace EventGates

/-- A quotient of whole numbers. -/
structure Ratio where
  num : Nat
  den : Nat
deriving DecidableEq, Repr

namespace Ratio

/-- A whole number times a power of `base`. -/
def scaled (n base : Nat) (exponent : Int) : Ratio :=
  match exponent with
  | .ofNat e => ⟨n * Nat.pow base e, 1⟩
  | .negSucc e => ⟨n, Nat.pow base (e + 1)⟩

def le (a b : Ratio) : Bool := a.num * b.den ≤ b.num * a.den

def lt (a b : Ratio) : Bool := a.num * b.den < b.num * a.den

def mul (a b : Ratio) : Ratio := ⟨a.num * b.num, a.den * b.den⟩

def div (a b : Ratio) : Ratio := ⟨a.num * b.den, a.den * b.num⟩

/-- The whole part. -/
def floor (a : Ratio) : Nat := a.num / a.den

/-- The nearest whole number; a half goes to the even neighbour. -/
def round (a : Ratio) : Nat :=
  let whole := a.num / a.den
  let rest := 2 * (a.num % a.den)
  if a.den < rest ∨ (rest = a.den ∧ whole % 2 = 1) then whole + 1 else whole

end Ratio

namespace Binary64

/-- The least exponent; smaller numbers have fewer digits instead. -/
def minExponent : Int := -1074

/-- The greatest exponent of a finite number. -/
def maxExponent : Int := 971

/-- The least mantissa with all its digits, the fifty-second power of two. -/
def leastFull : Nat := 0x10000000000000

/-- A mantissa and an exponent that the format has room for. -/
structure Fits (mantissa : Nat) (exponent : Int) : Prop where
  below : mantissa < 2 * leastFull
  least : minExponent ≤ exponent
  greatest : exponent ≤ maxExponent
  /-- The mantissa has all its digits unless the exponent is the least. -/
  full : exponent = minExponent ∨ leastFull ≤ mantissa

instance (mantissa : Nat) (exponent : Int) : Decidable (Fits mantissa exponent) :=
  decidable_of_iff
    (mantissa < 2 * leastFull ∧ minExponent ≤ exponent ∧ exponent ≤ maxExponent ∧
      (exponent = minExponent ∨ leastFull ≤ mantissa))
    ⟨fun ⟨below, least, greatest, full⟩ => ⟨below, least, greatest, full⟩,
      fun ⟨below, least, greatest, full⟩ => ⟨below, least, greatest, full⟩⟩

end Binary64

/-- The number `mantissa * 2 ^ exponent` with a sign. -/
structure Binary64 where
  negative : Bool
  mantissa : Nat
  exponent : Int
  fits : Binary64.Fits mantissa exponent
deriving DecidableEq, Repr

namespace Binary64

def zero (negative : Bool) : Binary64 := ⟨negative, 0, minExponent, by decide⟩

def isZero (x : Binary64) : Bool := x.mantissa == 0

/-- The magnitude as a quotient. -/
def magnitude (x : Binary64) : Ratio := .scaled x.mantissa 2 x.exponent

/-- The number nearest to a quotient, none if that exceeds every finite number. -/
def ofRatio (negative : Bool) (r : Ratio) : Option Binary64 :=
  if r.num = 0 then some (zero negative)
  else
    let estimate := max ((r.num.log2 : Int) - r.den.log2 - 52) minExponent
    let exponent :=
      if (r.div (.scaled 1 2 estimate)).floor < leastFull then max (estimate - 1) minExponent
      else estimate
    let mantissa := (r.div (.scaled 1 2 exponent)).round
    let (mantissa, exponent) :=
      if mantissa = 2 * leastFull then (leastFull, exponent + 1) else (mantissa, exponent)
    if fits : Fits mantissa exponent then some ⟨negative, mantissa, exponent, fits⟩ else none

/-- The product with a positive quotient. -/
def mulRatio (x : Binary64) (r : Ratio) : Option Binary64 :=
  ofRatio x.negative (x.magnitude.mul r)

/-- The quotient by a positive quotient. -/
def divRatio (x : Binary64) (r : Ratio) : Option Binary64 :=
  ofRatio x.negative (x.magnitude.div r)

/-- Equality of values: both zeros are equal. -/
def same (x y : Binary64) : Bool := x == y || (x.isZero && y.isZero)

end Binary64

end EventGates
