import Fleet.Binary64.Basic
import Fleet.Text.Decimal

/-!
# Shortest decimal text

The text of a number has the fewest digits that no other number of the format is nearer to; of two
such texts it is the nearer one. A text always shows a point or an exponent.
-/

namespace Fleet

/-- A decimal number `digits · 10 ^ exponent`. -/
structure Decimal where
  digits : Nat
  exponent : Int
deriving DecidableEq, Repr, Inhabited

namespace Magnitude

/-! ## The numbers that round to a magnitude -/

/-- Whether `a · 10 ^ g` is at most `b · 2 ^ p`. -/
def decimalLe (a : Nat) (g : Int) (b : Nat) (p : Int) : Bool :=
  a * tenTo g * twoTo (-p) ≤ b * twoTo p * tenTo (-g)

/-- Whether `b · 2 ^ p` is at most `a · 10 ^ g`. -/
def binaryLe (b : Nat) (p : Int) (a : Nat) (g : Int) : Bool :=
  b * twoTo p * tenTo (-g) ≤ a * tenTo g * twoTo (-p)

/-- The quarter units below `x` that still round to it: two, or one above a power of two. -/
def quartersBelow (x : Magnitude) : Nat :=
  if x.mantissa = fullMantissa && x.exponent > minExponent then 1 else 2

/-- The decimal number rounds to `x`: it lies between the midpoints to the neighbours, which belong
to `x` if its mantissa is even. -/
def roundsTo (x : Magnitude) (d : Decimal) : Bool :=
  let low := 4 * x.mantissa - x.quartersBelow
  let high := 4 * x.mantissa + 2
  let p := x.exponent - 2
  if x.mantissa % 2 = 0 then binaryLe low p d.digits d.exponent && decimalLe d.digits d.exponent high p
  else !decimalLe d.digits d.exponent low p && !binaryLe high p d.digits d.exponent

/-! ## The search over grids -/

/-- `x` over `10 ^ g`, as a numerator and a denominator. -/
def overPowerOfTen (x : Magnitude) (g : Int) : Nat × Nat :=
  (x.mantissa * twoTo x.exponent * tenTo (-g), twoTo (-x.exponent) * tenTo g)

/-- The exponent of the first decimal digit of a magnitude that is not zero. -/
def leadingExponent (x : Magnitude) : Int :=
  let (n, d) := x.overPowerOfTen (-340)
  ((Text.natDigits (n / d)).length : Int) - 341

/-- The multiple of `10 ^ g` that rounds to `x`, the nearer of two, the even one of two as near. -/
def onGrid? (x : Magnitude) (g : Int) : Option Decimal :=
  let (n, d) := x.overPowerOfTen g
  let below : Decimal := ⟨n / d, g⟩
  let above : Decimal := ⟨n / d + 1, g⟩
  match x.roundsTo below, x.roundsTo above with
  | true, true =>
    let r := n % d
    some (if 2 * r < d || (2 * r == d && below.digits % 2 == 0) then below else above)
  | true, false => some below
  | false, true => some above
  | false, false => none

/-- The first grid, from coarse to fine, with a number that rounds to `x`. -/
def search (x : Magnitude) : (finer : Nat) → (g : Int) → Decimal
  | 0, g => (x.onGrid? g).getD ⟨0, 0⟩
  | finer + 1, g => (x.onGrid? g).getD (search x finer (g - 1))

/-- Without zeros at the end. -/
def dropZeros : (fuel : Nat) → Decimal → Decimal
  | 0, d => d
  | fuel + 1, d =>
    if d.digits ≠ 0 && d.digits % 10 = 0 then dropZeros fuel ⟨d.digits / 10, d.exponent + 1⟩ else d

/-- The shortest decimal number that rounds to `x`; seventeen digits always do. -/
def shortest (x : Magnitude) : Decimal := dropZeros 18 (x.search 17 x.leadingExponent)

/-! ## Text -/

/-- Positional from `0.00001` up to sixteen digits before the point, with an exponent beyond. -/
def text (x : Magnitude) : List Char :=
  if x.isZero then ['0', '.', '0']
  else
    let d := x.shortest
    let ds := Text.natDigits d.digits
    let point : Int := ds.length + d.exponent
    if 0 ≤ d.exponent && point ≤ 16 then
      ds ++ List.replicate d.exponent.toNat '0' ++ ['.', '0']
    else if 0 < point && point ≤ 16 then
      ds.take point.toNat ++ '.' :: ds.drop point.toNat
    else if -5 < point && point ≤ 0 then
      '0' :: '.' :: (List.replicate (-point).toNat '0' ++ ds)
    else
      let sign := if 0 < point then ['+'] else []
      let power := 'e' :: (sign ++ Text.intDigits (point - 1))
      match ds with
      | [c] => c :: power
      | c :: rest => c :: '.' :: (rest ++ power)
      | [] => power

end Magnitude

namespace Binary64

def text (x : Binary64) : List Char :=
  if x.negative then '-' :: x.magnitude.text else x.magnitude.text

end Binary64

end Fleet
