import Fleet.Net.Domain.Disallowed
import Fleet.Net.Domain.Mapping
import Fleet.Net.Domain.Punycode
import Fleet.Text.Composite
import Fleet.Text.Direction
import Fleet.Text.Joining

/-!
# Names of hosts

A name is made of labels between dots. In the form that is sent it has ASCII characters only: a label
with others is written in Punycode behind a mark. What may be written in a name, and what stands for
the same, is laid down for all characters.
-/

namespace Fleet.Net.Domain

def isAscii (c : Char) : Bool := c.toNat < 0x80

/-- A character that no name may hold in the form that is sent. -/
def isForbidden (c : Char) : Bool :=
  c.toNat ≤ 0x20 || c.toNat = 0x7F || "#/:<>?@[\\]^|%".toList.contains c

/-! ## Characters -/

/-- What a character stands for in a name. -/
def mapped? (c : Char) : Option (List Char) :=
  if isDisallowed c then none
  else some (((Mapping.all.find? (·.contains c)).map (·.apply c)).getD [c])

/-- The text that a text stands for, with its letters composed. -/
def mappedText? (cs : List Char) : Option (List Char) :=
  (cs.mapM mapped?).map fun parts => Text.composed parts.flatten

/-- Every character stands for itself, and the letters are composed. -/
def isMapped (cs : List Char) : Bool :=
  (cs.all fun c => mapped? c = some [c]) && Text.composed cs = cs

/-! ## Labels -/

/-- What stands before Punycode. -/
def mark : List Char := ['x', 'n', '-', '-']

/-- The most characters of a label that holds others than those of ASCII. -/
def maxLabel : Nat := 1000

/-- The most characters of Punycode that is read. -/
def maxPunycode : Nat := 2000

/-- The label that a mapped one writes. Punycode is read; it writes at least one character beyond
ASCII, and none that stands for another. -/
def unmarked? (label : List Char) : Option (List Char) :=
  if mark.isPrefixOf label then do
    let code := label.drop mark.length
    if code.isEmpty || code.getLast? = some '-' || maxPunycode < code.length then none
    else (Punycode.decode? code).filter isMapped
  else some label

/-- A label does not begin with a mark, joiners stand where they may, and it is not too long. -/
def isLabel (label : List Char) : Bool :=
  !label.head?.any Text.isMark && Text.Joining.areFounded [] label
    && (label.all isAscii || label.length ≤ maxLabel)

def label? (mapped : List Char) : Option (List Char) := (unmarked? mapped).filter isLabel

def sentLabel (label : List Char) : List Char :=
  if label.all isAscii then label else mark ++ Punycode.encode label

/-! ## Names -/

/-- The labels of a name. If one of them has parts from right to left, all have to keep their
direction. -/
def labels? (cs : List Char) : Option (List (List Char)) := do
  let labels ← (Text.splitOn '.' (← mappedText? cs)).mapM label?
  let isMixed := labels.any fun label => label.any fun c => (Text.Direction.ofChar c).isBackward
  if isMixed && !labels.all Text.Direction.isSteady then none else some labels

/-- The text is its own name, up to capital letters. -/
def isPlain (cs : List Char) : Bool :=
  cs.all isAscii
    && (Text.splitOn '.' cs).all fun label => !mark.isPrefixOf (label.map Char.toLower)

/-- The name as it is sent. -/
def ofText? (cs : List Char) : Option (List Char) := do
  let name ←
    if isPlain cs then some (cs.map Char.toLower)
    else (labels? cs).map fun labels => List.intercalate ['.'] (labels.map sentLabel)
  if name.any isForbidden then none else some name

theorem ofText?_of_isPlain {cs : List Char} (h : isPlain cs = true) :
    ofText? cs =
      if (cs.map Char.toLower).any isForbidden then none else some (cs.map Char.toLower) := by
  unfold ofText?
  rw [if_pos h]
  rfl

end Fleet.Net.Domain
