import Fleet.Text.Percent
import Fleet.Text.Split

/-!
# Spans of characters

The tables of what characters are like are lists of spans, each written as one or two hexadecimal
numbers: `35C`, or `300-34E` with both ends.
-/

namespace Fleet.Text

/-- The value of hexadecimal digits. -/
def readHex (cs : List Char) : Nat :=
  cs.foldl (fun n c => 16 * n + (Percent.hexValue? c).getD 0) 0

/-- The words of lines, with single spaces between them. -/
def wordsOf (lines : List String) : List (List Char) :=
  lines.flatMap fun line => splitOn ' ' line.toList

/-- The characters from the first to the last number. -/
structure Span where
  first : Nat
  last : Nat
deriving DecidableEq, Repr, Inhabited

namespace Span

def ofText (cs : List Char) : Span :=
  match cut? '-' cs with
  | some (first, last) => ⟨readHex first, readHex last⟩
  | none => ⟨readHex cs, readHex cs⟩

def ofLines (lines : List String) : List Span := (wordsOf lines).map ofText

def contains (s : Span) (c : Char) : Bool := s.first ≤ c.toNat && c.toNat ≤ s.last

end Span

def isWithin (spans : List Span) (c : Char) : Bool := spans.any (·.contains c)

/-- What a table says of a character: the value beside the first spans that hold it. -/
def lookupSpan? {α : Type} (table : List (α × List Span)) (c : Char) : Option α :=
  (table.find? fun entry => isWithin entry.2 c).map (·.1)

end Fleet.Text
