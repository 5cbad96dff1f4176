/-!
# UTF-8

Characters as bytes and back, either strictly or with U+FFFD in place of each longest run of bytes
that begins a character and does not finish it.
-/

namespace Fleet.Text.Utf8

def encode (cs : List Char) : List UInt8 := cs.flatMap String.utf8EncodeChar

/-! ## Reading -/

/-- For a byte that leads a longer form: the least and the greatest second byte, and how many more
follow. -/
def continuation? (lead : Nat) : Option (Nat × Nat × Nat) :=
  if 0xC2 ≤ lead && lead ≤ 0xDF then some (0x80, 0xBF, 0)
  else if lead == 0xE0 then some (0xA0, 0xBF, 1)
  else if lead == 0xED then some (0x80, 0x9F, 1)
  else if 0xE1 ≤ lead && lead ≤ 0xEF then some (0x80, 0xBF, 1)
  else if lead == 0xF0 then some (0x90, 0xBF, 2)
  else if 0xF1 ≤ lead && lead ≤ 0xF3 then some (0x80, 0xBF, 2)
  else if lead == 0xF4 then some (0x80, 0x8F, 2)
  else none

def isTail (b : UInt8) : Bool := 0x80 ≤ b.toNat && b.toNat ≤ 0xBF

/-- The bits that a lead byte of a form with `tails` further bytes contributes. -/
def leadBits (lead tails : Nat) : Nat :=
  match tails with
  | 1 => lead - 0xC0
  | 2 => lead - 0xE0
  | _ => lead - 0xF0

/-- What stands at the front: a character or an unfinished run, and the bytes after the first one
that belong to it. -/
def front (lead : UInt8) (rest : List UInt8) : Option Char × Nat :=
  if lead.toNat < 0x80 then (some (Char.ofNat lead.toNat), 0)
  else match continuation? lead.toNat, rest with
    | some (lo, hi, more), second :: tail =>
      if lo ≤ second.toNat && second.toNat ≤ hi then
        let tails := second :: (tail.take more).takeWhile isTail
        if tails.length == more + 1 then
          let bits := leadBits lead.toNat (more + 1)
          (some (Char.ofNat (tails.foldl (fun n b => n * 64 + (b.toNat - 0x80)) bits)), more + 1)
        else (none, tails.length)
      else (none, 0)
    | _, _ => (none, 0)

/-- The characters and unfinished runs of `bytes`, in order; `fuel` bounds their number. -/
def pieces : (fuel : Nat) → (bytes : List UInt8) → List (Option Char)
  | 0, _ => []
  | _, [] => []
  | fuel + 1, lead :: rest =>
    let (piece, more) := front lead rest
    piece :: pieces fuel (rest.drop more)

/-- The text of `bytes`, if they are UTF-8. -/
def decode? (bytes : List UInt8) : Option (List Char) :=
  (pieces bytes.length bytes).mapM id

/-- The text of `bytes` with a replacement character for each unfinished run. -/
def decodeLossy (bytes : List UInt8) : List Char :=
  (pieces bytes.length bytes).map (·.getD '\uFFFD')

end Fleet.Text.Utf8
