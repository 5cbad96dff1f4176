import Fleet.Json.Decoder

/-!
# Records as JSON

The fields of a record, each with its name, its decoder and what stands for it when it is missing.
They are put together with the applicative operators in the order of the record. A record is an
object whose other members are ignored, or an array of its fields in order.
-/

namespace Fleet.Json

/-- Takes the value of a field into a draft. -/
abbrev Intake (δ : Type) := Context → Reading → δ → Except Refusal δ

/-- The fields of a record of type `α`. -/
structure Fields (α : Type) where
  Draft : Type
  blank : Draft
  size : Nat
  named : String → Option (Intake Draft)
  placed : Nat → Option (Intake Draft)
  /-- The record, where the draft is from an array or from an object. -/
  finish : (fromArray : Bool) → Draft → Except Refusal α

namespace Fields

variable {α β γ : Type}

/-! ## One field -/

/-- A field meets its value once. -/
def intake (d : Decoder α) : Intake (Option α)
  | c, r, none => some <$> d c r
  | _, _, some _ => .error .mismatched

def field (name : String) (d : Decoder α) (missing : Bool → Except Refusal α) : Fields α where
  Draft := Option α
  blank := none
  size := 1
  named key := if key = name then some (intake d) else none
  placed i := if i = 0 then some (intake d) else none
  finish fromArray draft := draft.elim (missing fromArray) .ok

def required (name : String) (d : Decoder α) : Fields α := field name d fun _ => .error .mismatched

def defaulted (name : String) (d : Decoder α) (a : α) : Fields α := field name d fun _ => .ok a

/-- A field that may be null, and missing from an object. -/
def optional (name : String) (d : Decoder α) : Fields (Option α) :=
  field name (.option d) fun fromArray => if fromArray then .error .mismatched else .ok none

/-! ## Several fields -/

protected def pure (a : α) : Fields α where
  Draft := Unit
  blank := ()
  size := 0
  named _ := none
  placed _ := none
  finish _ _ := .ok a

protected def map (f : α → β) (x : Fields α) : Fields β where
  Draft := x.Draft
  blank := x.blank
  size := x.size
  named := x.named
  placed := x.placed
  finish fromArray d := f <$> x.finish fromArray d

protected def seq (f : Fields (α → β)) (x : Fields α) : Fields β where
  Draft := f.Draft × x.Draft
  blank := (f.blank, x.blank)
  size := f.size + x.size
  named key :=
    match f.named key with
    | some take => some fun c r d => (·, d.2) <$> take c r d.1
    | none => (x.named key).map fun take c r d => (d.1, ·) <$> take c r d.2
  placed i :=
    if i < f.size then (f.placed i).map fun take c r d => (·, d.2) <$> take c r d.1
    else (x.placed (i - f.size)).map fun take c r d => (d.1, ·) <$> take c r d.2
  finish fromArray d := do
    let g ← f.finish fromArray d.1
    return g (← x.finish fromArray d.2)

instance : Applicative Fields where
  pure := Fields.pure
  map := Fields.map
  seq f x := Fields.seq f (x ())

/-! ## Records -/

/-- Goes through the members of an object; `other` says how a member of another name is met. -/
def object (f : Fields α) (other : Decoder Unit) (c : Context) :
    Members → f.Draft → Except Refusal α
  | .fault, _ | .member none _ _, _ => .error .malformed
  | .done, d => f.finish false d
  | .member (some key) value rest, d => do
    match f.named key with
    | some take => object f other c rest (← take c value d)
    | none =>
      other c value
      object f other c rest d

/-- Goes through the items of an array from position `i`. -/
def array (f : Fields α) (c : Context) : (i : Nat) → Items → f.Draft → Except Refusal α
  | _, .fault, _ => .error .malformed
  | _, .done, d => f.finish true d
  | i, .item value rest, d => do
    match f.placed i with
    | some take => array f c (i + 1) rest (← take c value d)
    | none =>
      c.surplus
      f.finish true d

def decoder (f : Fields α) : Decoder α
  | c, .object members => do f.object Decoder.skip (← c.enter) members f.blank
  | c, .array is => do f.array (← c.enter) 0 is f.blank
  | _, r => .error r.mismatch

/-- A record some of whose members are those of another record; it is never an array. The members
that are not its own are read as a whole before the other record takes its own. -/
def spread (own : Fields α) (inner : Fields β) (join : α → β → γ) : Decoder γ
  | c, .object members => do
    let a ← own.object Decoder.hold (← c.enter) members own.blank
    let b ← inner.object Decoder.skip .held members inner.blank
    return join a b
  | _, r => .error r.mismatch

end Fields

end Fleet.Json
