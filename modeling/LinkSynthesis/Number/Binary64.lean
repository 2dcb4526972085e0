/-!
# Binary floating-point numbers

Numbers of 64 bits as exact values: a sign, a mantissa of at most 53 bits and a power of two, or
an infinity. A decimal numeral is rounded to the nearest of them, a tie to the even mantissa. All
arithmetic is on natural numbers.
-/

namespace LinkSynthesis

/-- A number `±mantissa · 2 ^ exponent`, or an infinity. -/
inductive Binary64 where
  | finite (negative : Bool) (mantissa : Nat) (exponent : Int)
  | infinite (negative : Bool)
deriving DecidableEq, Repr

namespace Binary64

/-- The exponent of the numbers of least magnitude. -/
def minExponent : Int := -1074

/-- The exponent of the numbers of greatest magnitude. -/
def maxExponent : Int := 971

/-- The nearest natural number to `n / d`; of two, the even one. -/
def roundHalfEven (n d : Nat) : Nat :=
  let floor := n / d
  let rest := 2 * (n % d)
  if rest < d then floor else if d < rest then floor + 1 else floor + floor % 2

/-- The ratio `n / d` divided by a power of `base`. -/
def scaleDown (base : Nat) (n d : Nat) (power : Int) : Nat × Nat :=
  if 0 ≤ power then (n, d * Nat.pow base power.toNat)
  else (n * Nat.pow base (-power).toNat, d)

/-- The number nearest to the positive ratio `n / d`. -/
def ofRatio (negative : Bool) (n d : Nat) : Binary64 :=
  let guess : Int := n.log2 - d.log2 - 52
  let (n', d') := scaleDown 2 n d guess
  let exponent := max minExponent (if n' < Nat.pow 2 52 * d' then guess - 1 else guess)
  let (n', d') := scaleDown 2 n d exponent
  let mantissa := roundHalfEven n' d'
  let (mantissa, exponent) :=
    if mantissa = Nat.pow 2 53 then (Nat.pow 2 52, exponent + 1) else (mantissa, exponent)
  if maxExponent < exponent then .infinite negative else .finite negative mantissa exponent

/-- The number nearest to `±coefficient · 10 ^ power`. Beyond a thousand places from the point
nothing but the infinities and the zeros is near, so no power of that size is computed. -/
def ofDecimal (negative : Bool) (coefficient : Nat) (power : Int) : Binary64 :=
  let places := power + (Nat.toDigits 10 coefficient).length
  if coefficient = 0 ∨ places < -1000 then .finite negative 0 minExponent
  else if 1000 < places then .infinite negative
  else
    let (n, d) := scaleDown 10 coefficient 1 (-power)
    ofRatio negative n d

/-- How many times the least magnitude the number is, behind a mark of the infinities. Ranks in
lexicographic order stand as their numbers do. -/
def rank : Binary64 → Int × Int
  | finite negative mantissa exponent =>
    let units : Int := mantissa * Nat.pow 2 (exponent - minExponent).toNat
    (0, if negative then -units else units)
  | infinite negative => (if negative then -1 else 1, 0)

/-- The rank of an integer of any size. -/
def rankOfInt (n : Int) : Int × Int := (0, n * Nat.pow 2 (-minExponent).toNat)

/-- The number is a zero of either sign. -/
def isZero : Binary64 → Bool
  | finite _ mantissa _ => mantissa == 0
  | infinite _ => false

end Binary64
end LinkSynthesis
