import Fleet.Toml.Basic
import Fleet.Toml.Text

/-!
# Reading TOML

A document is a sequence of lines: blank ones, headers and entries, each with an optional comment.
Arrays may spread over lines, inline tables may not.
-/

namespace Fleet.Toml

/-- So many arrays and inline tables may stand inside one another, and a key may have so many parts. -/
def maxNesting : Nat := 79

/-! ## Between values -/

/-- Leaves the characters of a comment, up to the end of its line. -/
def skipComment (cs : List Char) : List Char := cs.dropWhile isPlain

/-- What follows the end of a line; the end of the text ends a line too. -/
def lineEnd? : List Char → Option (List Char)
  | '\n' :: rest | '\r' :: '\n' :: rest => some rest
  | [] => some []
  | _ => none

/-- What follows the rest of a line, which may hold a comment. -/
def lineTail? (cs : List Char) : Option (List Char) :=
  match skipBlanks cs with
  | '#' :: rest => lineEnd? (skipComment rest)
  | rest => lineEnd? rest

/-- Leaves blanks, comments and line ends within an array. A comment must end with its line. -/
def skipLines : (inComment : Bool) → List Char → Option (List Char)
  | inComment, [] => if inComment then none else some []
  | true, c :: rest =>
    if c = '\n' then skipLines false rest
    else if c = '\r' then if startsLine (c :: rest) then skipLines true rest else none
    else if isPlain c then skipLines true rest
    else none
  | false, c :: rest =>
    if c = '#' then skipLines true rest
    else if isBlank c || c = '\n' then skipLines false rest
    else if startsLine (c :: rest) then skipLines false rest
    else some (c :: rest)

/-! ## Values -/

mutual

/-- The value at the front. `fuel` bounds the number of items, `levels` the nesting. -/
def readValue? : (fuel levels : Nat) → List Char → Option (Value × List Char)
  | 0, _, _ => none
  | _ + 1, _, 't' :: 'r' :: 'u' :: 'e' :: rest => some (.bool true, rest)
  | _ + 1, _, 'f' :: 'a' :: 'l' :: 's' :: 'e' :: rest => some (.bool false, rest)
  | fuel + 1, levels + 1, '[' :: rest => do
    let (items, rest) ← readItems? fuel levels rest
    return (.array items, rest)
  | fuel + 1, levels + 1, '\x7b' :: rest => do
    let (entries, rest) ← readEntries? fuel levels rest
    let table ← ofInlineEntries entries
    return (table.value, rest)
  | _ + 1, _, cs =>
    match string? cs with
    | some (s, rest) => some (.string (String.ofList s), rest)
    | none =>
      match time? cs with
      | some rest => some (.time, rest)
      | none => (number? cs).map fun (n, rest) => (.number n, rest)

/-- The items up to the closing bracket; a comma may follow the last one. -/
def readItems? : (fuel levels : Nat) → List Char → Option (List Value × List Char)
  | 0, _, _ => none
  | fuel + 1, levels, cs => do
    match ← skipLines false cs with
    | ']' :: rest => return ([], rest)
    | cs =>
      let (value, rest) ← readValue? fuel levels cs
      match ← skipLines false rest with
      | ']' :: rest => return ([value], rest)
      | ',' :: rest =>
        let (items, rest) ← readItems? fuel levels rest
        return (value :: items, rest)
      | _ => none

/-- The entries up to the closing brace, at least one after the first comma. -/
def readEntries? : (fuel levels : Nat) → List Char → Option (List (List String × Value) × List Char)
  | 0, _, _ => none
  | fuel + 1, levels, cs => do
    match skipBlanks cs with
    | '\x7d' :: rest => return ([], rest)
    | cs => readMoreEntries? fuel levels cs

def readMoreEntries? :
    (fuel levels : Nat) → List Char → Option (List (List String × Value) × List Char)
  | 0, _, _ => none
  | fuel + 1, levels, cs => do
    let (path, rest) ← keyPath? maxNesting cs
    let (value, rest) ← readValue? fuel levels (skipBlanks (← Text.expect? '=' rest))
    match skipBlanks rest with
    | '\x7d' :: rest => return ([(path, value)], rest)
    | ',' :: rest =>
      let (entries, rest) ← readMoreEntries? fuel levels rest
      return ((path, value) :: entries, rest)
    | _ => none

end

/-! ## Documents -/

/-- The statement on the line, and the lines after it. -/
def statement? (fuel : Nat) : List Char → Option (Statement × List Char)
  | '[' :: '[' :: rest => do
    let (path, rest) ← keyPath? maxNesting rest
    let rest ← Text.expect? ']' rest
    let rest ← Text.expect? ']' rest
    return (.arrayHeader path, ← lineTail? rest)
  | '[' :: rest => do
    let (path, rest) ← keyPath? maxNesting rest
    let rest ← Text.expect? ']' rest
    return (.header path, ← lineTail? rest)
  | cs => do
    let (path, rest) ← keyPath? maxNesting cs
    let (value, rest) ← readValue? fuel maxNesting (skipBlanks (← Text.expect? '=' rest))
    return (.entry path value, ← lineTail? rest)

/-- The statements of the lines; `fuel` bounds their number. -/
def statements? : (fuel : Nat) → List Char → Option (List Statement)
  | 0, _ => none
  | fuel + 1, cs =>
    match skipBlanks cs with
    | [] => some []
    | '#' :: rest => (lineEnd? (skipComment rest)).bind (statements? fuel)
    | '\n' :: rest | '\r' :: '\n' :: rest => statements? fuel rest
    | cs => do
      let (s, rest) ← statement? cs.length cs
      return s :: (← statements? fuel rest)

/-- The table that a text writes; the text may begin with a byte order mark. -/
def read? (text : String) : Option Table :=
  let cs := match text.toList with
    | '\uFEFF' :: rest => rest
    | cs => cs
  (statements? (cs.length + 1) cs).bind ofStatements

end Fleet.Toml
