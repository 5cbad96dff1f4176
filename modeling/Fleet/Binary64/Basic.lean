/-!
# Binary floating point of 64 bits

The finite numbers of the format, each with one representation, and the arithmetic on their
magnitudes that reading a decimal needs. Every operation is the exact one, rounded once to the
nearest number, a tie going to the even mantissa.
-/

namespace Fleet

/-- A magnitude `mantissa · 2 ^ exponent`. -/
structure Magnitude where
  mantissa : Nat
  exponent : Int
deriving DecidableEq, Repr, Inhabited

/-- A finite number: a magnitude with a sign, so that zero has two. -/
structure Binary64 where
  negative : Bool
  magnitude : Magnitude
deriving DecidableEq, Repr, Inhabited

namespace Magnitude

/-- The least exponent; below it the mantissa gets shorter. -/
def minExponent : Int := -1074

def maxExponent : Int := 971

/-- The least mantissa of full length, `2 ^ 52`. -/
def fullMantissa : Nat := 4503599627370496

def zero : Magnitude := ⟨0, minExponent⟩

def isZero (x : Magnitude) : Bool := x.mantissa == 0

/-- The mantissa has full length, or the exponent cannot be smaller. -/
def Canonical (x : Magnitude) : Prop :=
  x.mantissa < 2 * fullMantissa ∧ minExponent ≤ x.exponent ∧ x.exponent ≤ maxExponent ∧
    (fullMantissa ≤ x.mantissa ∨ x.exponent = minExponent)

/-! ## Rounding -/

/-- `2 ^ e`, one for a negative power. -/
def twoTo (e : Int) : Nat := Nat.pow 2 e.toNat

/-- `10 ^ e`, one for a negative power. -/
def tenTo (e : Int) : Nat := Nat.pow 10 e.toNat

/-- The whole number nearest to `num / den`, the even one of two. -/
def roundDiv (num den : Nat) : Nat :=
  let q := num / den
  let r := num % den
  if 2 * r > den || (2 * r == den && q % 2 == 1) then q + 1 else q

/-- `num / den` over `2 ^ e`, as a numerator and a denominator. -/
def unscale (num den : Nat) (e : Int) : Nat × Nat :=
  (num * twoTo (-e), den * twoTo e)

/-- An exponent at which `num / den` has a mantissa of full length, or one bit more. -/
def roughExponent (num den : Nat) : Int :=
  max minExponent ((Nat.log2 num : Int) - Nat.log2 den - 53)

/-- The magnitude nearest to `num / den`, if it is within the format. -/
def ofRatio? (num den : Nat) : Option Magnitude :=
  if num = 0 then some zero
  else
    let e := roughExponent num den
    let (n, d) := unscale num den e
    let e := if n / d ≥ 2 * fullMantissa then e + 1 else e
    let (n, d) := unscale num den e
    let m := roundDiv n d
    let (m, e) := if m = 2 * fullMantissa then (fullMantissa, e + 1) else (m, e)
    if e > maxExponent then none else some ⟨m, e⟩

def ofNat? (n : Nat) : Option Magnitude := ofRatio? n 1

/-! ## Arithmetic -/

/-- The product, if it is within the format. -/
def mul? (x y : Magnitude) : Option Magnitude :=
  let (n, d) := unscale (x.mantissa * y.mantissa) 1 (-(x.exponent + y.exponent))
  ofRatio? n d

/-- The quotient by a number that is not zero, if it is within the format. -/
def div? (x y : Magnitude) : Option Magnitude :=
  let (n, d) := unscale x.mantissa y.mantissa (y.exponent - x.exponent)
  ofRatio? n d

/-- The power of ten nearest to the exact one; `none` above `10 ^ 308`. -/
def powerOfTen? (k : Nat) : Option Magnitude := if k ≤ 308 then ofNat? (tenTo k) else none

/-- Divides by `10 ^ k`, at most `10 ^ 308` at a time. -/
def divPowerOfTen (x : Magnitude) (k : Nat) : Magnitude :=
  if h : k ≤ 308 then ((powerOfTen? k).bind (div? x)).getD zero
  else if x.isZero then x
  else divPowerOfTen (((powerOfTen? 308).bind (div? x)).getD zero) (k - 308)
termination_by k

/-- A decimal number `significand · 10 ^ e`, by one product or by quotients; `none` if it is too
great. -/
def ofDecimal? (significand : Nat) (e : Int) : Option Magnitude :=
  (ofNat? significand).bind fun x =>
    if e < 0 then some (divPowerOfTen x (-e).toNat)
    else if e ≤ 308 then (powerOfTen? e.toNat).bind (mul? x)
    else if x.isZero then some x
    else none

/-- The number nearest to `significand · 10 ^ e`, if it is within the format. Beyond 310 places
before the point and 400 after it no power of ten is needed to tell. -/
def nearest? (significand : Nat) (e : Int) : Option Magnitude :=
  let places : Int := (Nat.toDigits 10 significand).length + e
  if significand = 0 || places < -400 then some zero
  else if places > 310 then none
  else ofRatio? (significand * tenTo e) (tenTo (-e))

end Magnitude

end Fleet
