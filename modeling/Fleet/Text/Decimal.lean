/-!
# Decimal text

Numbers written with the digits 0 to 9. The main statement is that a number is read back from its
digits; the ranges of the fixed widths stand beside it.
-/

namespace Fleet.Text

/-! ## Ranges -/

def maxInt64 : Int := 9223372036854775807

def minInt64 : Int := -9223372036854775808

def maxNat64 : Nat := 18446744073709551615

def fitsInt64 (i : Int) : Bool := minInt64 ≤ i && i ≤ maxInt64

/-! ## Writing -/

def natDigits (n : Nat) : List Char := Nat.toDigits 10 n

def natText (n : Nat) : String := String.ofList (natDigits n)

def intDigits : Int → List Char
  | .ofNat n => natDigits n
  | .negSucc n => '-' :: natDigits (n + 1)

def intText (i : Int) : String := String.ofList (intDigits i)

/-- A number padded with zeros on the left to at least `width` digits. -/
def padded (width n : Nat) : List Char :=
  let ds := natDigits n
  List.replicate (width - ds.length) '0' ++ ds

/-! ## Reading -/

def isDigit (c : Char) : Bool := '0' ≤ c && c ≤ '9'

def digitValue (c : Char) : Nat := c.toNat - '0'.toNat

def ofDigits (ds : List Char) : Nat := Nat.ofDigitChars 10 ds 0

/-- Digits only, and at least one. -/
def readNat? (cs : List Char) : Option Nat :=
  if cs.isEmpty || !cs.all isDigit then none else some (ofDigits cs)

/-- A number up to `max`, with an optional `+`. -/
def readUnsigned? (max : Nat) (cs : List Char) : Option Nat :=
  let n := match cs with
    | '+' :: rest => readNat? rest
    | _ => readNat? cs
  n.filter (· ≤ max)

/-- A number of 64 bits with an optional sign. -/
def readInt64? (cs : List Char) : Option Int :=
  let i := match cs with
    | '+' :: rest => (readNat? rest).map Int.ofNat
    | '-' :: rest => (readNat? rest).map (fun n => -Int.ofNat n)
    | _ => (readNat? cs).map Int.ofNat
  i.filter fitsInt64

theorem ofDigits_natDigits (n : Nat) : ofDigits (natDigits n) = n :=
  Nat.ofDigitChars_toDigits (by decide) (by decide)

theorem isDigit_of_mem_natDigits {n : Nat} {c : Char} (h : c ∈ natDigits n) : isDigit c = true := by
  have := Nat.isDigit_of_mem_toDigits (by decide) (by decide) h
  simpa [isDigit, Char.isDigit, Char.le_def] using this

theorem natDigits_ne_nil (n : Nat) : natDigits n ≠ [] := by
  intro h
  have h1 := ofDigits_natDigits n
  rw [h] at h1
  have : n = 0 := by simpa [ofDigits] using h1.symm
  subst this
  exact absurd h (by decide)

theorem readNat?_natDigits (n : Nat) : readNat? (natDigits n) = some n := by
  unfold readNat?
  rw [if_neg, ofDigits_natDigits]
  simp only [Bool.or_eq_true, not_or, Bool.not_eq_true, Bool.not_eq_true', Bool.not_eq_false]
  refine ⟨?_, ?_⟩
  · simpa using natDigits_ne_nil n
  · exact List.all_eq_true.2 fun c hc => isDigit_of_mem_natDigits hc

end Fleet.Text
