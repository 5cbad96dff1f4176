import Fleet.Text.Percent

/-!
# TOML keys and strings

Keys, and strings on one line or on several, in double quotes with escapes or in single quotes
without. Each reader takes what stands at the front and leaves the rest.
-/

namespace Fleet.Toml

def isBlank (c : Char) : Bool := c = ' ' || c = '\t'

def skipBlanks (cs : List Char) : List Char := cs.dropWhile isBlank

/-- A character that comments and strings may hold: no control character but the tab. -/
def isPlain (c : Char) : Bool := c = '\t' || (0x20 ≤ c.toNat && c.toNat ≠ 0x7F)

/-- A line ends here. -/
def startsLine : List Char → Bool
  | '\n' :: _ | '\r' :: '\n' :: _ => true
  | _ => false

/-! ## Escapes -/

/-- The character whose number the hexadecimal digits write. -/
def hexChar? (digits : List Char) : Option Char := do
  let values ← digits.mapM Text.Percent.hexValue?
  let n := values.foldl (fun n v => 16 * n + v) 0
  if h : n.isValidChar then some (Char.ofNatAux n h) else none

/-- The character that stands after a backslash, and how many characters write it. -/
def escape? : List Char → Option (Char × Nat)
  | 'b' :: _ => some ('\x08', 1)
  | 't' :: _ => some ('\t', 1)
  | 'n' :: _ => some ('\n', 1)
  | 'f' :: _ => some ('\x0c', 1)
  | 'r' :: _ => some ('\r', 1)
  | '"' :: _ => some ('"', 1)
  | '\\' :: _ => some ('\\', 1)
  | 'u' :: rest => if rest.length < 4 then none else (hexChar? (rest.take 4)).map (·, 5)
  | 'U' :: rest => if rest.length < 8 then none else (hexChar? (rest.take 8)).map (·, 9)
  | _ => none

/-! ## Strings -/

/-- The string up to its quote on the same line; `skip` characters of an escape are left out. Only
double quotes have escapes. -/
def line? (quote : Char) : (skip : Nat) → List Char → Option (List Char × List Char)
  | _, [] => none
  | skip + 1, _ :: rest => line? quote skip rest
  | 0, c :: rest =>
    if c = quote then some ([], rest)
    else if c = '\\' && quote = '"' then
      match escape? rest with
      | none => none
      | some (e, n) => (line? quote n rest).map fun (s, rest) => (e :: s, rest)
    else if isPlain c then (line? quote 0 rest).map fun (s, rest) => (c :: s, rest)
    else none

/-- What is left out before the next character of a string. -/
inductive Skipping where
  | nothing
  /-- So many characters of an escape. -/
  | escape (n : Nat)
  /-- Blanks and line ends, after a backslash at the end of a line. -/
  | lines
deriving DecidableEq, Repr, Inhabited

/-- The string up to three quotes; one or two more before them belong to it. -/
def lines? (quote : Char) : Skipping → List Char → Option (List Char × List Char)
  | _, [] => none
  | .escape (n + 1), _ :: rest => lines? quote (.escape n) rest
  | skipping, c :: rest =>
    if skipping = .lines && (isBlank c || c = '\n') then lines? quote .lines rest
    else if c = '\r' then if startsLine (c :: rest) then lines? quote skipping rest else none
    else if c = quote then
      let n := ((c :: rest).takeWhile (· = quote)).length
      if 3 ≤ n then some (List.replicate (min n 5 - 3) quote, (c :: rest).drop (min n 5))
      else (lines? quote .nothing rest).map fun (s, rest) => (c :: s, rest)
    else if c = '\\' && quote = '"' then
      if startsLine (skipBlanks rest) then lines? quote .lines rest
      else
        match escape? rest with
        | none => none
        | some (e, n) => (lines? quote (.escape n) rest).map fun (s, rest) => (e :: s, rest)
    else if c = '\n' || isPlain c then
      (lines? quote .nothing rest).map fun (s, rest) => (c :: s, rest)
    else none

/-- The string at the front. A line end right after three quotes is left out. -/
def string? : List Char → Option (List Char × List Char)
  | '"' :: '"' :: '"' :: '\n' :: rest | '"' :: '"' :: '"' :: '\r' :: '\n' :: rest
  | '"' :: '"' :: '"' :: rest => lines? '"' .nothing rest
  | '\'' :: '\'' :: '\'' :: '\n' :: rest | '\'' :: '\'' :: '\'' :: '\r' :: '\n' :: rest
  | '\'' :: '\'' :: '\'' :: rest => lines? '\'' .nothing rest
  | '"' :: rest => line? '"' 0 rest
  | '\'' :: rest => line? '\'' 0 rest
  | _ => none

/-! ## Keys -/

/-- A character of a key without quotes. -/
def isBare (c : Char) : Bool :=
  ('a' ≤ c && c ≤ 'z') || ('A' ≤ c && c ≤ 'Z') || ('0' ≤ c && c ≤ '9') || c = '-' || c = '_'

/-- One part of a key, quoted or bare. -/
def keyPart? : List Char → Option (List Char × List Char)
  | '"' :: rest => line? '"' 0 rest
  | '\'' :: rest => line? '\'' 0 rest
  | cs =>
    match cs.takeWhile isBare with
    | [] => none
    | key => some (key, cs.dropWhile isBare)

/-- The parts of a key with dots between them, each with blanks around it; at most `n` parts. -/
def keyPath? : (n : Nat) → List Char → Option (List String × List Char)
  | 0, _ => none
  | n + 1, cs => do
    let (part, rest) ← keyPart? (skipBlanks cs)
    match skipBlanks rest with
    | '.' :: rest =>
      let (path, rest) ← keyPath? n rest
      return (String.ofList part :: path, rest)
    | rest => return ([String.ofList part], rest)

end Fleet.Toml
