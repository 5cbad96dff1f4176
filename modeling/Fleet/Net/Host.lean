import Fleet.Net.Address
import Fleet.Net.Domain.Basic
import Fleet.Text.Utf8

/-!
# Hosts

The host of a URL: a name or an address. A host that ends in a number is an address of version 4 and
may be written in one to four numbers of base eight, ten or sixteen.
-/

namespace Fleet.Net

inductive Host where
  | address (a : Address)
  | name (text : List Char)
deriving DecidableEq, Repr, Inhabited

namespace Host

/-! ## Numbers -/

def digitsIn? (base : Nat) (cs : List Char) : Option Nat := do
  let values ← cs.mapM fun c => (Text.Percent.hexValue? c).filter (· < base)
  return values.foldl (fun n v => base * n + v) 0

/-- A number whose first digits tell its base; nothing after `0x` is zero. -/
def number? : List Char → Option Nat
  | [] => none
  | '0' :: 'x' :: rest | '0' :: 'X' :: rest => digitsIn? 16 rest
  | '0' :: c :: rest => digitsIn? 8 (c :: rest)
  | cs => digitsIn? 10 cs

/-- The parts between dots; a dot at the end makes no part. -/
def parts (cs : List Char) : List (List Char) :=
  let ps := Text.splitOn '.' cs
  if ps.getLast? = some [] && 1 < ps.length then ps.dropLast else ps

/-- The last part is a number. -/
def endsInNumber (cs : List Char) : Bool :=
  (parts cs).getLast?.any fun last =>
    (!last.isEmpty && last.all Text.isDigit) || (number? last).isSome

/-- The bytes of a number that fills the last `n` of them. -/
def bytesOf (n value : Nat) : List Nat := (List.range n).reverse.map fun i => value / Nat.pow 256 i % 256

/-- One to four numbers; the last fills the bytes that are left. -/
def v4? (cs : List Char) : Option (List Nat) := do
  let numbers ← (parts cs).mapM number?
  let last ← numbers.getLast?
  let head := numbers.dropLast
  if head.length ≤ 3 && head.all (· ≤ 255) && last < Nat.pow 256 (4 - head.length) then
    some (head ++ bytesOf (4 - head.length) last)
  else none

/-! ## Hosts -/

/-- The host that a URL writes. -/
def ofText? : List Char → Option Host
  | '[' :: rest =>
    if rest.getLast? = some ']' then (v6? rest.dropLast).map fun groups => .address (.v6 groups)
    else none
  | cs => do
    let text ← Text.Utf8.decode? (Text.Percent.decode (Text.Utf8.encode cs))
    let name ← Domain.ofText? text
    if name.isEmpty then none
    else if endsInNumber name then (v4? name).map fun bytes => .address (.v4 bytes)
    else some (.name name)

/-! ## Text -/

/-- The first longest run of two or more zeros: where it begins and how long it is. -/
def longestZeros (groups : List Nat) : Nat × Nat :=
  (List.range groups.length).foldl
    (fun best i =>
      let n := ((groups.drop i).takeWhile (· = 0)).length
      if best.2 < n && 2 ≤ n then (i, n) else best)
    (0, 0)

def groupText (g : Nat) : List Char := Nat.toDigits 16 g

def colons (groups : List Nat) : List Char := List.intercalate [':'] (groups.map groupText)

/-- An address in its shortest form. -/
def addressText : Address → List Char
  | .v4 bytes => List.intercalate ['.'] (bytes.map Text.natDigits)
  | .v6 groups =>
    let (start, n) := longestZeros groups
    if n = 0 then '[' :: colons groups ++ [']']
    else '[' :: colons (groups.take start) ++ [':', ':'] ++ colons (groups.drop (start + n)) ++ [']']

def text : Host → List Char
  | .address a => addressText a
  | .name cs => cs

end Host

end Fleet.Net
