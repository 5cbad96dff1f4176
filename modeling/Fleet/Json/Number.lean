import Fleet.Json.Basic
import Fleet.Text.Decimal

/-!
# JSON numbers as text

Digits go into a significand of 64 bits until the next one would not fit. Digits before the point
that are left out still count as places, those after it do not. A number without point and exponent
that fits its width is whole; all others are floating point.
-/

namespace Fleet.Json.Number

structure Parts where
  negative : Bool
  whole : List Char
  fraction : Option (List Char)
  power : Option Int
deriving Repr

/-! ## The grammar -/

def digits? (cs : List Char) : Option (List Char × List Char) :=
  match cs.takeWhile Text.isDigit with
  | [] => none
  | ds => some (ds, cs.dropWhile Text.isDigit)

/-- The digits before the point: a zero stands alone. -/
def whole? : List Char → Option (List Char × List Char)
  | '0' :: rest => if (rest.head?.any Text.isDigit) then none else some (['0'], rest)
  | cs => digits? cs

def fraction? : List Char → Option (Option (List Char) × List Char)
  | '.' :: rest => (digits? rest).map fun (ds, rest) => (some ds, rest)
  | cs => some (none, cs)

/-- The digits of a power of ten. -/
def powerDigits? (negative : Bool) (cs : List Char) : Option (Option Int × List Char) :=
  (digits? cs).map fun (ds, rest) =>
    (some (if negative then -(Text.ofDigits ds : Int) else Text.ofDigits ds), rest)

/-- The power of ten after its letter. -/
def signedPower? : List Char → Option (Option Int × List Char)
  | '-' :: rest => powerDigits? true rest
  | '+' :: rest => powerDigits? false rest
  | cs => powerDigits? false cs

def power? : List Char → Option (Option Int × List Char)
  | c :: rest => if c = 'e' || c = 'E' then signedPower? rest else some (none, c :: rest)
  | [] => some (none, [])

/-- The number after its sign, taken apart, and what follows it. -/
def unsigned? (negative : Bool) (cs : List Char) : Option (Parts × List Char) := do
  let (whole, cs) ← whole? cs
  let (fraction, cs) ← fraction? cs
  let (power, cs) ← power? cs
  return (⟨negative, whole, fraction, power⟩, cs)

/-- The number at the front, taken apart, and what follows it. -/
def split? : List Char → Option (Parts × List Char)
  | '-' :: rest => unsigned? true rest
  | cs => unsigned? false cs

/-! ## The value -/

/-- Takes digits into a significand while they fit; returns it and the digits left over. -/
def absorb : (significand : Nat) → List Char → Nat × List Char
  | n, [] => (n, [])
  | n, c :: rest =>
    let next := 10 * n + Text.digitValue c
    if next ≤ Text.maxNat64 then absorb next rest else (n, c :: rest)

def float? (negative : Bool) (significand : Nat) (power : Int) : Option Number :=
  (Magnitude.ofDecimal? significand power).map fun x => .float ⟨negative, x⟩

/-- The number that the parts write; `none` if it is too great for floating point. -/
def Parts.value? (p : Parts) : Option Number :=
  let (n, left) := absorb 0 p.whole
  match p.fraction, p.power with
  | none, none =>
    if !left.isEmpty then float? p.negative n left.length
    else if !p.negative then some (.int n)
    else if n = 0 || (n : Int) > -Text.minInt64 then float? true n 0
    else some (.int (-n))
  | fraction, power =>
    let ds := fraction.getD []
    let (n, dropped) := absorb n ds
    let places : Int := (left.length : Int) - (ds.length - dropped.length : Nat)
    float? p.negative n (places + power.getD 0)

end Fleet.Json.Number
