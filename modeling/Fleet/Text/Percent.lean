import Fleet.Text.Utf8

/-!
# Percent-encoding

A byte is written as `%` and two hexadecimal digits; a `%` that does not begin such a triple stands
for itself.
-/

namespace Fleet.Text.Percent

def hexValue? (c : Char) : Option Nat :=
  if '0' ≤ c && c ≤ '9' then some (c.toNat - '0'.toNat)
  else if 'a' ≤ c && c ≤ 'f' then some (c.toNat - 'a'.toNat + 10)
  else if 'A' ≤ c && c ≤ 'F' then some (c.toNat - 'A'.toNat + 10)
  else none

def hexByte? (hi lo : UInt8) : Option UInt8 :=
  match hexValue? (Char.ofNat hi.toNat), hexValue? (Char.ofNat lo.toNat) with
  | some h, some l => some (UInt8.ofNat (16 * h + l))
  | _, _ => none

/-- The bytes that percent-encoded bytes stand for. -/
def decode : List UInt8 → List UInt8
  | 0x25 :: hi :: lo :: rest =>
    match hexByte? hi lo with
    | some b => b :: decode rest
    | none => 0x25 :: decode (hi :: lo :: rest)
  | b :: rest => b :: decode rest
  | [] => []

/-! ## Writing -/

def hexDigit (n : Nat) : Char := (Nat.digitChar n).toUpper

def triple (b : UInt8) : List Char := ['%', hexDigit (b.toNat / 16), hexDigit (b.toNat % 16)]

/-- Encodes controls, characters beyond ASCII, and those of a set. -/
def encode (set cs : List Char) : List Char :=
  cs.flatMap fun c =>
    if c.toNat ≤ 0x1F || 0x7E < c.toNat || set.contains c then (Utf8.encode [c]).flatMap triple
    else [c]

end Fleet.Text.Percent
