import Fleet.Json.Basic

/-!
# Readings of JSON text

What stands in a text, from left to right up to the first place where it stops being JSON. A fault
keeps its place in the tree, so that whoever decodes a reading from left to right meets a fault and
a value of the wrong type in the order in which the text has them.
-/

namespace Fleet.Json

mutual

/-- A value. A number is absent if it is too great for floating point, a string if one of its
escapes is half of a pair; both are still values to whoever skips them. -/
inductive Reading where
  | fault
  | null
  | bool (b : Bool)
  | number (n : Option Number)
  | string (s : Option String)
  | array (items : Items)
  | object (members : Members)

/-- The items of an array, up to its bracket or a fault. -/
inductive Items where
  | fault
  | done
  | item (value : Reading) (rest : Items)

/-- The members of an object, up to its brace or a fault. -/
inductive Members where
  | fault
  | done
  | member (key : Option String) (value : Reading) (rest : Members)

end

instance : Inhabited Reading := ⟨.fault⟩

mutual

def toReading : Json → Reading
  | .null => .null
  | .bool b => .bool b
  | .number n => .number (some n)
  | .string s => .string (some s)
  | .array items => .array (toItems items)
  | .object members => .object (toMembers members)

def toItems : List Json → Items
  | [] => .done
  | j :: rest => .item (toReading j) (toItems rest)

def toMembers : List (String × Json) → Members
  | [] => .done
  | (key, j) :: rest => .member (some key) (toReading j) (toMembers rest)

end

mutual

/-- No fault anywhere, whatever the depth: the text can be skipped. -/
def Reading.isWhole : Reading → Bool
  | .fault => false
  | .array items => items.isWhole
  | .object members => members.isWhole
  | _ => true

def Items.isWhole : Items → Bool
  | .fault => false
  | .done => true
  | .item value rest => value.isWhole && rest.isWhole

def Members.isWhole : Members → Bool
  | .fault => false
  | .done => true
  | .member _ value rest => value.isWhole && rest.isWhole

end

end Fleet.Json
