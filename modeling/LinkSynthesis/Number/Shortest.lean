import LinkSynthesis.Number.Binary64

/-!
# Shortest decimal text

The decimal text of a floating-point number: the fewest digits that read back as the number, and
of those the nearest. The digits are found by trying one digit, two, and so on; for each count
only the two neighbours of the number on that decimal grid can be candidates.
-/

namespace LinkSynthesis.Binary64

/-- The decimal numbers that round to a given number: those from `low / scale` to `high / scale`,
the ends included for an even mantissa. The number itself is `value / scale`. -/
structure Neighbourhood where
  low : Nat
  value : Nat
  high : Nat
  scale : Nat
  endsIncluded : Bool

/-- The neighbourhood of `mantissa · 2 ^ exponent`. Below a power of two the numbers lie closer. -/
def neighbourhood (mantissa : Nat) (exponent : Int) : Neighbourhood :=
  let up := Nat.pow 2 (exponent - 2).toNat
  let below := if mantissa = Nat.pow 2 52 ∧ minExponent < exponent then 1 else 2
  { low := (4 * mantissa - below) * up
    value := 4 * mantissa * up
    high := (4 * mantissa + 2) * up
    scale := Nat.pow 2 (2 - exponent).toNat
    endsIncluded := mantissa % 2 = 0 }

/-- The power of ten of the leading digit of a positive ratio. -/
def leadingPower (n d : Nat) : Int :=
  if d ≤ n then (Nat.toDigits 10 (n / d)).length - 1
  else -(Nat.toDigits 10 ((d + n - 1) / n - 1)).length

/-- The best decimal `coefficient · 10 ^ power` in the neighbourhood on the grid `10 ^ power`: the
nearer of the two neighbours of the number, the even one on a tie. -/
def Neighbourhood.onGrid? (a : Neighbourhood) (power : Int) : Option Nat :=
  let up := Nat.pow 10 (-power).toNat
  let step := a.scale * Nat.pow 10 power.toNat
  let holds (c : Nat) : Bool :=
    if a.endsIncluded then a.low * up ≤ c * step && c * step ≤ a.high * up
    else a.low * up < c * step && c * step < a.high * up
  let floor := a.value * up / step
  match holds floor, holds (floor + 1) with
  | true, true => some (roundHalfEven (a.value * up) step)
  | true, false => some floor
  | false, true => some (floor + 1)
  | false, false => none

/-- The shortest decimal for a positive number, as coefficient and power of ten. Seventeen digits
always suffice. -/
def shortest (mantissa : Nat) (exponent : Int) : Nat × Int :=
  let a := neighbourhood mantissa exponent
  let lead := leadingPower a.value a.scale
  let grid (digits : Nat) : Int := lead - digits
  ((List.range 17).findSome? fun digits =>
    (a.onGrid? (grid digits)).map fun c => (c, grid digits)).getD (0, 0)

/-- Lays out digits with the point after the first `lead + 1` of them: positionally when the
leading power of ten is from -4 to 15, else with one digit before the point and an exponent of two
digits or more. -/
def layout (digits : List Char) (lead : Int) : List Char :=
  if 0 ≤ lead ∧ lead < 16 then
    let whole := lead.toNat + 1
    let fraction := digits.drop whole
    digits.take whole ++ List.replicate (whole - digits.length) '0' ++
      '.' :: (if fraction.isEmpty then ['0'] else fraction)
  else if -4 ≤ lead ∧ lead < 0 then
    '0' :: '.' :: (List.replicate ((-lead).toNat - 1) '0' ++ digits)
  else
    let fraction := digits.drop 1
    let places := Nat.toDigits 10 lead.natAbs
    digits.take 1 ++ (if fraction.isEmpty then [] else '.' :: fraction) ++
      'e' :: (if lead < 0 then '-' else '+') ::
        (List.replicate (2 - places.length) '0' ++ places)

/-- The text of a number: its shortest decimal, `inf` for an infinity, a sign in front if it is
negative. -/
def text : Binary64 → String
  | infinite negative => if negative then "-inf" else "inf"
  | finite negative mantissa exponent =>
    let body :=
      if mantissa = 0 then ['0', '.', '0']
      else
        let (coefficient, power) := shortest mantissa exponent
        let digits := Nat.toDigits 10 coefficient
        let kept := (digits.reverse.dropWhile (· == '0')).reverse
        layout kept (power + digits.length - 1)
    .ofList (if negative then '-' :: body else body)

end LinkSynthesis.Binary64
