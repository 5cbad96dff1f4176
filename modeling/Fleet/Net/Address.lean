import Fleet.Text.Decimal
import Fleet.Text.Percent
import Fleet.Text.Split

/-!
# Network addresses

Addresses of the two versions of the Internet Protocol in their text forms, and socket addresses: an
address with a port.
-/

namespace Fleet.Net

/-- An address, as four bytes or as eight groups of sixteen bits. -/
inductive Address where
  | v4 (bytes : List Nat)
  | v6 (groups : List Nat)
deriving DecidableEq, Repr, Inhabited

/-! ## Version 4 -/

/-- One byte in decimal, without zeros before it. -/
def byte? (cs : List Char) : Option Nat := do
  let n ← Text.readNat? cs
  if n ≤ 255 && (cs.length = 1 || cs.head? ≠ some '0') then some n else none

/-- Four bytes with dots between them. -/
def v4? (cs : List Char) : Option (List Nat) := do
  let bytes ← (Text.splitOn '.' cs).mapM byte?
  if bytes.length = 4 then some bytes else none

/-! ## Version 6 -/

/-- One to four hexadecimal digits. -/
def group? (cs : List Char) : Option Nat := do
  let values ← cs.mapM Text.Percent.hexValue?
  if 1 ≤ values.length && values.length ≤ 4 then some (values.foldl (fun n v => 16 * n + v) 0)
  else none

/-- Groups with colons between them; the last two may be written as an address of version 4. -/
def groups? : List (List Char) → Option (List Nat)
  | [] => some []
  | [last] =>
    match v4? last with
    | some [a, b, c, d] => some [256 * a + b, 256 * c + d]
    | _ => (group? last).map ([·])
  | part :: parts => do
    let group ← group? part
    return group :: (← groups? parts)

/-- The parts before and after the first pair of colons. -/
def cutColons? : List Char → Option (List Char × List Char)
  | ':' :: ':' :: rest => some ([], rest)
  | c :: rest => (cutColons? rest).map fun (before, after) => (c :: before, after)
  | [] => none

def colonParts (cs : List Char) : List (List Char) := if cs.isEmpty then [] else Text.splitOn ':' cs

/-- Eight groups; a pair of colons stands for one or more groups of zero. -/
def v6? (cs : List Char) : Option (List Nat) :=
  match cutColons? cs with
  | none => (groups? (colonParts cs)).filter (·.length = 8)
  | some (before, after) => do
    let head ← (colonParts before).mapM group?
    let tail ← groups? (colonParts after)
    let missing := 8 - (head.length + tail.length)
    if 0 < missing then some (head ++ List.replicate missing 0 ++ tail) else none

/-! ## Socket addresses -/

structure SocketAddress where
  address : Address
  /-- The zone of an address of version 6. -/
  zone : Nat := 0
  port : Nat
deriving DecidableEq, Repr, Inhabited

namespace SocketAddress

/-- A number in decimal up to a bound; zeros before it do not matter. -/
def number? (max : Nat) (cs : List Char) : Option Nat := (Text.readNat? cs).filter (· ≤ max)

/-- What stands between the brackets: an address and perhaps its zone. -/
def bracketed? (cs : List Char) : Option (Address × Nat) :=
  match Text.cut? '%' cs with
  | none => (v6? cs).map fun groups => (.v6 groups, 0)
  | some (address, zone) => do
    let groups ← v6? address
    let zone ← number? 4294967295 zone
    return (.v6 groups, zone)

/-- The socket address that a text writes: `a.b.c.d:port` or `[groups]:port`. -/
def ofText? (text : String) : Option SocketAddress :=
  match text.toList with
  | '[' :: rest => do
    let (inside, rest) ← Text.cut? ']' rest
    let (address, zone) ← bracketed? inside
    let port ← number? 65535 (← Text.expect? ':' rest)
    return ⟨address, zone, port⟩
  | cs => do
    let (bytes, port) ← Text.cut? ':' cs
    let bytes ← v4? bytes
    let port ← number? 65535 port
    return ⟨.v4 bytes, 0, port⟩

end SocketAddress

end Fleet.Net
