import Fleet.Binary64.Basic
import Fleet.Text.Decimal
import Fleet.Text.Percent
import Fleet.Text.Split

/-!
# TOML numbers and times

The values that are neither text nor composite. Digits may be parted by single underscores. Of a time
only the form and the ranges of its parts are checked.
-/

namespace Fleet.Toml

open Text (expect?)

/-! ## Digits -/

/-- The digits at the front, at least one and underscores only between two; returned without
underscores. -/
def digits? (isDigit : Char → Bool) (cs : List Char) : Option (List Char × List Char) :=
  let inRun := fun c => isDigit c || c = '_'
  let groups := Text.splitOn '_' (cs.takeWhile inRun)
  if groups.all (!·.isEmpty) then some (groups.flatten, cs.dropWhile inRun) else none

/-- Exactly `n` digits, as a number within two bounds. -/
def field? (n low high : Nat) (cs : List Char) : Option (Nat × List Char) :=
  let ds := cs.take n
  let value := Text.ofDigits ds
  if ds.length = n && ds.all Text.isDigit && low ≤ value && value ≤ high then some (value, cs.drop n)
  else none

/-! ## Times

Each reader leaves what follows the part it is named for. -/

def isLeapYear (year : Nat) : Bool := year % 4 = 0 && (year % 100 ≠ 0 || year % 400 = 0)

def daysOfMonth (year month : Nat) : Nat :=
  if month = 2 then if isLeapYear year then 29 else 28
  else if month = 4 || month = 6 || month = 9 || month = 11 then 30
  else 31

def date? (cs : List Char) : Option (List Char) := do
  let (year, cs) ← field? 4 0 9999 cs
  let (month, cs) ← field? 2 1 12 (← expect? '-' cs)
  let (_, cs) ← field? 2 1 (daysOfMonth year month) (← expect? '-' cs)
  return cs

/-- A time of day; the last second of a day may be a leap second. -/
def clock? (cs : List Char) : Option (List Char) := do
  let (_, cs) ← field? 2 0 23 cs
  let (_, cs) ← field? 2 0 59 (← expect? ':' cs)
  let (_, cs) ← field? 2 0 60 (← expect? ':' cs)
  match cs with
  | '.' :: rest =>
    match rest.takeWhile Text.isDigit with
    | [] => none
    | _ => some (rest.dropWhile Text.isDigit)
  | _ => some cs

/-- A distance from UTC, if one stands here. -/
def offset? : List Char → Option (List Char)
  | 'Z' :: rest | 'z' :: rest => some rest
  | '+' :: rest | '-' :: rest => do
    let (_, cs) ← field? 2 0 23 rest
    let (_, cs) ← field? 2 0 59 (← expect? ':' cs)
    return cs
  | cs => some cs

/-- A date, a time of day, or both with a letter or a space between them and an offset after them. -/
def time? (cs : List Char) : Option (List Char) :=
  match date? cs with
  | some ('T' :: rest) | some ('t' :: rest) => (clock? rest).bind offset?
  | some (' ' :: rest) =>
    match clock? rest with
    | some cs => offset? cs
    | none => some (' ' :: rest)
  | some rest => some rest
  | none => clock? cs

/-! ## Numbers -/

inductive Number where
  | int (i : Int)
  | float (x : Binary64)
  /-- An infinity, or no number at all. -/
  | notFinite
deriving DecidableEq, Repr, Inhabited

def sign : List Char → Bool × List Char
  | '-' :: rest => (true, rest)
  | '+' :: rest => (false, rest)
  | cs => (false, cs)

/-- The number that digits of another base write, after a zero and a letter. -/
def ofBase? (base : Nat) (cs : List Char) : Option (Number × List Char) := do
  let isDigit := fun c => (Text.Percent.hexValue? c).any (· < base)
  let (ds, rest) ← digits? isDigit cs
  let n := ds.foldl (fun n c => base * n + (Text.Percent.hexValue? c).getD 0) 0
  if (n : Int) ≤ Text.maxInt64 then some (.int n, rest) else none

/-- The digits before the point: a zero stands alone. -/
def whole? : List Char → Option (List Char × List Char)
  | '0' :: rest => some (['0'], rest)
  | cs => digits? Text.isDigit cs

/-- The power of ten at the front, zero if there is none. -/
def power? : List Char → Option (Int × List Char)
  | 'e' :: rest | 'E' :: rest => do
    let (negative, rest) := sign rest
    let (ds, rest) ← digits? Text.isDigit rest
    let n : Int := Text.ofDigits ds
    return (if negative then -n else n, rest)
  | cs => some (0, cs)

/-- A decimal number too great for its format is no value, a negative one is an infinity. -/
def float? (negative : Bool) (whole fraction : List Char) (power : Int) : Option Number :=
  match Magnitude.nearest? (Text.ofDigits (whole ++ fraction)) (power - fraction.length) with
  | some x => some (.float ⟨negative, x⟩)
  | none => if negative then some .notFinite else none

def decimal? (negative : Bool) (cs : List Char) : Option (Number × List Char) := do
  let (whole, rest) ← whole? cs
  match rest with
  | '.' :: rest =>
    let (fraction, rest) ← digits? Text.isDigit rest
    let (power, rest) ← power? rest
    return (← float? negative whole fraction power, rest)
  | 'e' :: _ | 'E' :: _ =>
    let (power, rest) ← power? rest
    return (← float? negative whole [] power, rest)
  | _ =>
    let n : Int := Text.ofDigits whole
    let i := if negative then -n else n
    if Text.fitsInt64 i then return (.int i, rest) else none

def number? : List Char → Option (Number × List Char)
  | '0' :: 'x' :: rest => ofBase? 16 rest
  | '0' :: 'o' :: rest => ofBase? 8 rest
  | '0' :: 'b' :: rest => ofBase? 2 rest
  | cs =>
    match sign cs with
    | (_, 'i' :: 'n' :: 'f' :: rest) | (_, 'n' :: 'a' :: 'n' :: rest) => some (.notFinite, rest)
    | (negative, cs) => decimal? negative cs

end Fleet.Toml
