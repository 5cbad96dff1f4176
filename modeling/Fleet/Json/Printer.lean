import Fleet.Json.Basic
import Fleet.Binary64.Shortest

/-!
# Compact JSON text

Values without blanks between their parts. Only the quote, the backslash and the controls below
U+0020 are escaped, five of the controls by a letter.
-/

namespace Fleet.Json

def hexDigit (n : Nat) : Char := if n < 10 then Char.ofNat (48 + n) else Char.ofNat (87 + n)

def escape (c : Char) : List Char :=
  if c = '"' then ['\\', '"']
  else if c = '\\' then ['\\', '\\']
  else if c = '\x08' then ['\\', 'b']
  else if c = '\x0c' then ['\\', 'f']
  else if c = '\n' then ['\\', 'n']
  else if c = '\r' then ['\\', 'r']
  else if c = '\t' then ['\\', 't']
  else if c.toNat < 0x20 then ['\\', 'u', '0', '0', hexDigit (c.toNat / 16), hexDigit (c.toNat % 16)]
  else [c]

def quoted (s : String) : List Char := '"' :: (s.toList.flatMap escape ++ ['"'])

def Number.chars : Number → List Char
  | .int i => Text.intDigits i
  | .float x => x.text

mutual

def chars : Json → List Char
  | .null => ['n', 'u', 'l', 'l']
  | .bool true => ['t', 'r', 'u', 'e']
  | .bool false => ['f', 'a', 'l', 's', 'e']
  | .number n => n.chars
  | .string s => quoted s
  | .array [] => ['[', ']']
  | .array (j :: rest) => '[' :: (chars j ++ (itemsChars rest ++ [']']))
  | .object [] => ['\x7b', '\x7d']
  | .object ((key, j) :: rest) =>
    '\x7b' :: (quoted key ++ ':' :: (chars j ++ (membersChars rest ++ ['\x7d'])))

def itemsChars : List Json → List Char
  | [] => []
  | j :: rest => ',' :: (chars j ++ itemsChars rest)

def membersChars : List (String × Json) → List Char
  | [] => []
  | (key, j) :: rest => ',' :: (quoted key ++ ':' :: (chars j ++ membersChars rest))

end

/-- The value as text. -/
def render (j : Json) : String := String.ofList j.chars

end Fleet.Json
