/-!
# Punycode

Text beyond ASCII in letters, digits and hyphens: its ASCII characters, a hyphen, and where the others
are put in. They are put in by number and then by place, and a number with digits of base 36 tells how
many steps over numbers and places there are to the next one.
-/

namespace Fleet.Net.Punycode

def base : Nat := 36

/-- The greatest threshold; the least is one. -/
def maxThreshold : Nat := 26

/-- The number of the first character that is put in. -/
def firstNumber : Nat := 128

def firstBias : Nat := 72

/-- The bound of the numbers of steps. -/
def limit : Nat := 4294967296

/-! ## Digits -/

/-- A digit is a letter or, from 26 on, a decimal digit. -/
def digit (n : Nat) : Char :=
  if n < 26 then Char.ofNat ('a'.toNat + n) else Char.ofNat ('0'.toNat + (n - 26))

def digitValue? (c : Char) : Option Nat :=
  if 'a' ≤ c && c ≤ 'z' then some (c.toNat - 'a'.toNat)
  else if '0' ≤ c && c ≤ '9' then some (c.toNat - '0'.toNat + 26)
  else none

theorem digitValue?_digit {n : Nat} (h : n < base) : digitValue? (digit n) = some n := by
  have all : ∀ m ∈ List.range 36, digitValue? (digit m) = some m := by decide
  exact all n (List.mem_range.2 h)

/-- A digit below its threshold is the last one of a number; `k` grows by the base with each digit. -/
def threshold (k bias : Nat) : Nat :=
  if k ≤ bias then 1 else if bias + maxThreshold ≤ k then maxThreshold else k - bias

theorem threshold_pos (k bias : Nat) : 0 < threshold k bias := by
  unfold threshold maxThreshold
  split
  · omega
  · split <;> omega

theorem threshold_le (k bias : Nat) : threshold k bias ≤ maxThreshold := by
  unfold threshold maxThreshold
  split
  · omega
  · split <;> omega

/-! ## Bias -/

/-- Divides by the digits above the thresholds until the rest is small. -/
def scaled (delta k : Nat) : Nat :=
  let range := base - 1
  if range * maxThreshold / 2 < delta then scaled (delta / range) (k + base)
  else k + (range + 1) * delta / (delta + 38)
termination_by delta
decreasing_by
  simp only [base, maxThreshold] at *
  omega

/-- The bias after a number of steps; `count` characters are there then. -/
def adapted (delta count : Nat) (isFirst : Bool) : Nat :=
  let delta := if isFirst then delta / 700 else delta / 2
  scaled (delta + delta / count) 0

/-! ## Writing -/

/-- The digits of a number, those of the least weight first. -/
def digitsOf (bias k n : Nat) : List Char :=
  let t := threshold k bias
  if n < t then [digit n]
  else digit (t + (n - t) % (base - t)) :: digitsOf bias (k + base) ((n - t) / (base - t))
termination_by n
decreasing_by
  have := threshold_pos k bias
  exact Nat.lt_of_le_of_lt (Nat.div_le_self _ _) (by omega)

structure Encoder where
  /-- The steps since the last character that was put in. -/
  delta : Nat := 0
  bias : Nat := firstBias
  /-- The characters that are there. -/
  count : Nat
  isFirst : Bool := true
  digits : List Char := []
deriving DecidableEq, Repr, Inhabited

/-- Steps over a place of the text while the characters numbered `n` are put in. -/
def Encoder.visit (n : Nat) (s : Encoder) (c : Char) : Encoder :=
  if c.toNat < n then { s with delta := s.delta + 1 }
  else if c.toNat = n then
    { delta := 0
      bias := adapted s.delta (s.count + 1) s.isFirst
      count := s.count + 1
      isFirst := false
      digits := s.digits ++ digitsOf s.bias base s.delta }
  else s

/-- Puts in the characters of the numbers; `next` is the number after the last one. -/
def Encoder.run (cs : List Char) : (next : Nat) → List Nat → Encoder → Encoder
  | _, [], s => s
  | next, n :: rest, s =>
    let s := { s with delta := s.delta + (n - next) * (s.count + 1) }
    let s := cs.foldl (Encoder.visit n) s
    Encoder.run cs (n + 1) rest { s with delta := s.delta + 1 }

def isAscii (c : Char) : Bool := c.toNat < firstNumber

def encode (cs : List Char) : List Char :=
  let plain := cs.filter isAscii
  let numbers := (((cs.filter (!isAscii ·)).map Char.toNat).mergeSort (· ≤ ·)).eraseDups
  plain ++ (if plain.isEmpty then [] else ['-'])
    ++ (Encoder.run cs firstNumber numbers { count := plain.length }).digits

/-! ## Reading -/

/-- The sum of a value and the number at the front, and what follows the number. -/
def addNumber? (bias : Nat) : (k weight value : Nat) → List Char → Option (Nat × List Char)
  | _, _, _, [] => none
  | k, weight, value, c :: rest => do
    let n ← digitValue? c
    let value := value + n * weight
    if limit ≤ value then none
    else
      let t := threshold k bias
      if n < t then some (value, rest)
      else
        let weight := weight * (base - t)
        if limit ≤ weight then none else addNumber? bias (k + base) weight value rest

/-- The character of a number, if it is the number of one. -/
def char? (n : Nat) : Option Char := if n.isValidChar then some (Char.ofNat n) else none

/-- Puts characters into a text, from a place on; `fuel` bounds their number. -/
def insertAll? : (fuel : Nat) → (text : List Char) → (number place bias : Nat) → List Char →
    Option (List Char)
  | _, text, _, _, _, [] => some text
  | 0, _, _, _, _, _ :: _ => none
  | fuel + 1, text, number, place, bias, cs => do
    let (steps, rest) ← addNumber? bias base 1 place cs
    let count := text.length + 1
    let c ← char? (number + steps / count)
    let found := steps % count
    insertAll? fuel (text.insertIdx found c) c.toNat (found + 1)
      (adapted (steps - place) count (place = 0)) rest

/-- The text up to the last hyphen and what follows that; a hyphen at the front is part of what
follows. -/
def cutPlain (cs : List Char) : List Char × List Char :=
  let after := (cs.reverse.takeWhile (· ≠ '-')).reverse
  let before := cs.take (cs.length - after.length - 1)
  if before.isEmpty then ([], cs) else (before, after)

/-- The text that Punycode in small letters stands for. -/
def decode? (cs : List Char) : Option (List Char) :=
  let (plain, digits) := cutPlain cs
  if cs.all isAscii then insertAll? digits.length plain firstNumber 0 firstBias digits else none

end Fleet.Net.Punycode
