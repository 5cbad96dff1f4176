import Fleet.Json.Reader

/-!
# Decoders

A decoder takes a reading to a value of a type. It goes from left to right and stops at the first
thing it cannot accept, which is either a fault of the text or a value of another shape.
-/

namespace Fleet.Json

/-- Why a reading gives no value. -/
inductive Refusal where
  /-- The text is not JSON. -/
  | malformed
  /-- The text is JSON of another shape. -/
  | mismatched
deriving DecidableEq, Repr, Inhabited

/-- How a reading is met. -/
inductive Context where
  /-- While the text is read; so many arrays and objects may still open inside one another. -/
  | live (levels : Nat)
  /-- After it was read as a whole. -/
  | held
  /-- After it was read as a whole, from a document without null, in which an array may hold more than
  is asked for. -/
  | loose
deriving DecidableEq, Repr, Inhabited

/-- The start of a text, in which 127 levels may open. -/
def Context.start : Context := .live 127

/-- Inside an array or object. -/
def Context.enter : Context → Except Refusal Context
  | .live 0 => .error .malformed
  | .live (n + 1) => .ok (.live n)
  | .held => .ok .held
  | .loose => .ok .loose

/-- What an array with too many items is: a text that should have ended it, a wrong length, or no
fault. -/
def Context.surplus : Context → Except Refusal Unit
  | .live _ => .error .malformed
  | .held => .error .mismatched
  | .loose => .ok ()

abbrev Decoder (α : Type) := Context → Reading → Except Refusal α

/-- The refusal of a value of the wrong shape; a fault in the value comes first. -/
def Reading.mismatch : Reading → Refusal
  | .fault | .number none | .string none => .malformed
  | _ => .mismatched

namespace Decoder

/-! ## Whole values -/

def skip : Decoder Unit
  | .live _, r => if r.isWhole then .ok () else .error .malformed
  | _, _ => .ok ()

mutual

/-- Accepts what can be kept for later. -/
def hold : Decoder Unit
  | _, .fault | _, .number none | _, .string none => .error .malformed
  | c, .array items => do holdItems (← c.enter) items
  | c, .object members => do holdMembers (← c.enter) members
  | _, _ => .ok ()

def holdItems : Context → Items → Except Refusal Unit
  | _, .fault => .error .malformed
  | _, .done => .ok ()
  | c, .item value rest => do hold c value; holdItems c rest

def holdMembers : Context → Members → Except Refusal Unit
  | _, .fault | _, .member none _ _ => .error .malformed
  | _, .done => .ok ()
  | c, .member (some _) value rest => do hold c value; holdMembers c rest

end

mutual

/-- Any value. The keys of an object become ascending, and of equal keys the last counts. -/
def any : Decoder Json
  | _, .fault | _, .number none | _, .string none => .error .malformed
  | _, .null => .ok .null
  | _, .bool b => .ok (.bool b)
  | _, .number (some n) => .ok (.number n)
  | _, .string (some s) => .ok (.string s)
  | c, .array items => do return .array (← anyItems (← c.enter) items)
  | c, .object members => do return .object (← anyMembers (← c.enter) members [])

def anyItems : Context → Items → Except Refusal (List Json)
  | _, .fault => .error .malformed
  | _, .done => .ok []
  | c, .item value rest => do
    let j ← any c value
    return j :: (← anyItems c rest)

def anyMembers : Context → Members → List (String × Json) → Except Refusal (List (String × Json))
  | _, .fault, _ | _, .member none _ _, _ => .error .malformed
  | _, .done, members => .ok members
  | c, .member (some key) value rest, members => do
    anyMembers c rest (insertMember key (← any c value) members)

end

def anyObject : Decoder (List (String × Json))
  | c, .object members => do anyMembers (← c.enter) members []
  | _, r => .error r.mismatch

/-! ## Plain values -/

def bool : Decoder Bool
  | _, .bool b => .ok b
  | _, r => .error r.mismatch

def string : Decoder String
  | _, .string (some s) => .ok s
  | _, r => .error r.mismatch

def intIn (low high : Int) : Decoder Int
  | _, .number (some (.int i)) => if low ≤ i && i ≤ high then .ok i else .error .mismatched
  | _, r => .error r.mismatch

def int64 : Decoder Int := intIn Text.minInt64 Text.maxInt64

def int32 : Decoder Int := intIn (-2147483648) 2147483647

def natTo (high : Nat) : Decoder Nat := fun c r => Int.toNat <$> intIn 0 high c r

def nat64 : Decoder Nat := natTo Text.maxNat64

def nat32 : Decoder Nat := natTo 4294967295

def nat16 : Decoder Nat := natTo 65535

/-- A number of either form, as floating point. -/
def float : Decoder Binary64
  | _, .number (some (.float x)) => .ok x
  | _, .number (some (.int i)) => .ok ⟨i < 0, (Magnitude.ofNat? i.natAbs).getD Magnitude.zero⟩
  | _, r => .error r.mismatch

/-! ## Composite values -/

def option {α : Type} (d : Decoder α) : Decoder (Option α)
  | _, .null => .ok none
  | c, r => some <$> d c r

def items {α : Type} (d : Decoder α) (c : Context) : Items → Except Refusal (List α)
  | .fault => .error .malformed
  | .done => .ok []
  | .item value rest => do
    let a ← d c value
    return a :: (← items d c rest)

def list {α : Type} (d : Decoder α) : Decoder (List α)
  | c, .array is => do items d (← c.enter) is
  | _, r => .error r.mismatch

/-- A name of a table, as a string or as the only key of an object that says nothing more. -/
def oneOf {α : Type} (table : List (String × α)) : Decoder α
  | _, .string (some s) => (table.lookup s).elim (.error .mismatched) .ok
  | _, .string none => .error .malformed
  | .live n, .object members => do
    let _ ← (Context.live n).enter
    match members with
    | .member (some key) value rest => do
      let a ← (table.lookup key).elim (.error .mismatched) .ok
      match value with
      | .null => pure ()
      | r => throw r.mismatch
      match rest with
      | .done => return a
      | _ => throw .malformed
    | _ => throw .malformed
  | c, .object (.member (some key) value .done) => do
    let a ← (table.lookup key).elim (.error .mismatched) .ok
    match value with
    | .null | .object .done => return a
    | .array .done => if c = .loose then return a else throw .mismatched
    | _ => throw .mismatched
  | .live _, _ => .error .malformed
  | _, _ => .error .mismatched

end Decoder

/-! ## Texts -/

/-- A value that is a whole text. -/
def decode {α : Type} (d : Decoder α) (text : String) : Except Refusal α := do
  let (r, rest) := Reading.ofText text.toList
  let a ← d .start r
  if (skipSpaces rest).isEmpty then return a else throw .malformed

def Decoder.ofJson {α : Type} (d : Decoder α) (j : Json) : Except Refusal α := d .start j.toReading

end Fleet.Json
