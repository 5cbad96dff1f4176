import Fleet.Json.Number
import Fleet.Json.Reading
import Fleet.Text.Percent

/-!
# Reading JSON text

`Reading.ofText` reads one value and what stands after it. Reading never fails: a text that is not
JSON gives a reading with a fault.
-/

namespace Fleet.Json

/-- The blanks between the parts of a text. -/
def isSpace (c : Char) : Bool := c = ' ' || c = '\t' || c = '\n' || c = '\r'

def skipSpaces (cs : List Char) : List Char := cs.dropWhile isSpace

/-! ## Strings -/

/-- What one place in a string stands for: a character, or a number of sixteen bits written as an
escape. -/
inductive Piece where
  | char (c : Char)
  | unit (n : Nat)

/-- The number that four hexadecimal digits write. -/
def hex4? : List Char → Option (Nat × List Char)
  | a :: b :: c :: d :: rest => do
    let a ← Text.Percent.hexValue? a
    let b ← Text.Percent.hexValue? b
    let c ← Text.Percent.hexValue? c
    let d ← Text.Percent.hexValue? d
    return (((a * 16 + b) * 16 + c) * 16 + d, rest)
  | _ => none

/-- The character that a letter stands for after a backslash. -/
def escaped? : Char → Option Char
  | '"' => some '"'
  | '\\' => some '\\'
  | '/' => some '/'
  | 'b' => some '\x08'
  | 'f' => some '\x0c'
  | 'n' => some '\n'
  | 'r' => some '\r'
  | 't' => some '\t'
  | _ => none

/-- The pieces up to the closing quote and what follows it; `none` if the string breaks off or holds
what no string may hold. -/
def pieces? : List Char → Option (List Piece × List Char)
  | '"' :: rest => some ([], rest)
  | '\\' :: 'u' :: a :: b :: c :: d :: rest => do
    let (n, _) ← hex4? [a, b, c, d]
    let (ps, rest) ← pieces? rest
    return (.unit n :: ps, rest)
  | '\\' :: e :: rest => do
    let c ← escaped? e
    let (ps, rest) ← pieces? rest
    return (.char c :: ps, rest)
  | c :: rest =>
    if c = '\\' || c.toNat < 0x20 then none
    else do
      let (ps, rest) ← pieces? rest
      return (.char c :: ps, rest)
  | [] => none

def isLead (n : Nat) : Bool := 0xD800 ≤ n && n ≤ 0xDBFF

def isTrail (n : Nat) : Bool := 0xDC00 ≤ n && n ≤ 0xDFFF

/-- The characters of the pieces, a lead and the trail right after it being one; `none` if a half
stands alone. -/
def joined? : List Piece → Option (List Char)
  | [] => some []
  | .char c :: rest => (joined? rest).map (c :: ·)
  | .unit n :: rest =>
    if isLead n then
      match rest with
      | .unit m :: rest =>
        if isTrail m then
          (joined? rest).map (Char.ofNat (0x10000 + (n - 0xD800) * 0x400 + (m - 0xDC00)) :: ·)
        else none
      | _ => none
    else if isTrail n then none
    else (joined? rest).map (Char.ofNat n :: ·)

/-- The string after its opening quote. -/
def string? (cs : List Char) : Option (Option String × List Char) :=
  (pieces? cs).map fun (ps, rest) => ((joined? ps).map String.ofList, rest)

/-! ## Values -/

/-- The reading that a word makes, if the word is at the front. -/
def word (w : List Char) (r : Reading) (cs : List Char) : Reading × List Char :=
  if w.isPrefixOf cs then (r, cs.drop w.length) else (.fault, [])

mutual

/-- The value at the front. `fuel` bounds the nesting and the number of items. -/
def readValue : (fuel : Nat) → List Char → Reading × List Char
  | 0, _ => (.fault, [])
  | fuel + 1, cs =>
    match skipSpaces cs with
    | [] => (.fault, [])
    | 'n' :: rest => word ['u', 'l', 'l'] .null rest
    | 't' :: rest => word ['r', 'u', 'e'] (.bool true) rest
    | 'f' :: rest => word ['a', 'l', 's', 'e'] (.bool false) rest
    | '"' :: rest =>
      match string? rest with
      | some (s, rest) => (.string s, rest)
      | none => (.fault, [])
    | '[' :: rest =>
      match skipSpaces rest with
      | ']' :: rest => (.array .done, rest)
      | rest =>
        let (items, rest) := readItems fuel rest
        (.array items, rest)
    | '\x7b' :: rest =>
      match skipSpaces rest with
      | '\x7d' :: rest => (.object .done, rest)
      | rest =>
        let (members, rest) := readMembers fuel rest
        (.object members, rest)
    | cs =>
      match Number.split? cs with
      | some (parts, rest) => (.number parts.value?, rest)
      | none => (.fault, [])

/-- An item and those after it, up to the closing bracket. -/
def readItems : (fuel : Nat) → List Char → Items × List Char
  | 0, _ => (.fault, [])
  | fuel + 1, cs =>
    let (value, rest) := readValue fuel cs
    match skipSpaces rest with
    | ']' :: rest => (.item value .done, rest)
    | ',' :: rest =>
      let (items, rest) := readItems fuel rest
      (.item value items, rest)
    | _ => (.item value .fault, [])

/-- A member and those after it, up to the closing brace. -/
def readMembers : (fuel : Nat) → List Char → Members × List Char
  | 0, _ => (.fault, [])
  | fuel + 1, cs =>
    match skipSpaces cs with
    | '"' :: rest =>
      match string? rest with
      | none => (.fault, [])
      | some (key, rest) =>
        match skipSpaces rest with
        | ':' :: rest =>
          let (value, rest) := readValue fuel rest
          match skipSpaces rest with
          | '\x7d' :: rest => (.member key value .done, rest)
          | ',' :: rest =>
            let (members, rest) := readMembers fuel rest
            (.member key value members, rest)
          | _ => (.member key value .fault, [])
        | _ => (.member key .fault .fault, [])
    | _ => (.fault, [])

end

/-- The value at the front of a text, and what stands after it. -/
def Reading.ofText (cs : List Char) : Reading × List Char := readValue (cs.length + 1) cs

end Fleet.Json
