import Fleet.Binary64.Basic
import Fleet.Ordered.Map

/-!
# JSON values

A number keeps the form it was written in: whole numbers are exact, all others are floating point.
The members of an object keep an order; `insert` is for objects whose keys are ascending.
-/

namespace Fleet

/-- A number as JSON text distinguishes it. -/
inductive Json.Number where
  | int (i : Int)
  | float (x : Binary64)
deriving DecidableEq, Repr, Inhabited

inductive Json where
  | null
  | bool (b : Bool)
  | number (n : Json.Number)
  | string (s : String)
  | array (items : List Json)
  | object (members : List (String × Json))
deriving Repr, Inhabited

namespace Json

def int (i : Int) : Json := .number (.int i)

def nat (n : Nat) : Json := .int n

def ofOption {α : Type} (f : α → Json) : Option α → Json
  | none => .null
  | some a => f a

def ofList {α : Type} (f : α → Json) (l : List α) : Json := .array (l.map f)

def get? (j : Json) (key : String) : Option Json :=
  match j with
  | .object members => members.lookup key
  | _ => none

/-- Puts a member at its place among ascending keys, over one with the same key. -/
def insertMember (key : String) (value : Json) (members : List (String × Json)) :
    List (String × Json) :=
  OrdMap.place key value members

/-! ## Equality -/

mutual

protected def decEq : (a b : Json) → Decidable (a = b)
  | .null, .null => .isTrue rfl
  | .null, .bool _ | .null, .number _ | .null, .string _ | .null, .array _ | .null, .object _ =>
    .isFalse nofun
  | .bool a, .bool b => if h : a = b then .isTrue (h ▸ rfl) else .isFalse (h <| bool.inj ·)
  | .bool _, .null | .bool _, .number _ | .bool _, .string _ | .bool _, .array _
  | .bool _, .object _ => .isFalse nofun
  | .number a, .number b => if h : a = b then .isTrue (h ▸ rfl) else .isFalse (h <| number.inj ·)
  | .number _, .null | .number _, .bool _ | .number _, .string _ | .number _, .array _
  | .number _, .object _ => .isFalse nofun
  | .string a, .string b => if h : a = b then .isTrue (h ▸ rfl) else .isFalse (h <| string.inj ·)
  | .string _, .null | .string _, .bool _ | .string _, .number _ | .string _, .array _
  | .string _, .object _ => .isFalse nofun
  | .array a, .array b =>
    match Json.decEqItems a b with
    | .isTrue h => .isTrue (h ▸ rfl)
    | .isFalse h => .isFalse (h <| array.inj ·)
  | .array _, .null | .array _, .bool _ | .array _, .number _ | .array _, .string _
  | .array _, .object _ => .isFalse nofun
  | .object a, .object b =>
    match Json.decEqMembers a b with
    | .isTrue h => .isTrue (h ▸ rfl)
    | .isFalse h => .isFalse (h <| object.inj ·)
  | .object _, .null | .object _, .bool _ | .object _, .number _ | .object _, .string _
  | .object _, .array _ => .isFalse nofun

protected def decEqItems : (a b : List Json) → Decidable (a = b)
  | [], [] => .isTrue rfl
  | [], _ :: _ | _ :: _, [] => .isFalse nofun
  | x :: xs, y :: ys =>
    match Json.decEq x y, Json.decEqItems xs ys with
    | .isTrue h, .isTrue h' => .isTrue (h ▸ h' ▸ rfl)
    | .isFalse h, _ => .isFalse fun e => h (List.cons.inj e).1
    | _, .isFalse h => .isFalse fun e => h (List.cons.inj e).2

protected def decEqMembers : (a b : List (String × Json)) → Decidable (a = b)
  | [], [] => .isTrue rfl
  | [], _ :: _ | _ :: _, [] => .isFalse nofun
  | (k, x) :: xs, (l, y) :: ys =>
    if hk : k = l then
      match Json.decEq x y, Json.decEqMembers xs ys with
      | .isTrue h, .isTrue h' => .isTrue (hk ▸ h ▸ h' ▸ rfl)
      | .isFalse h, _ => .isFalse fun e => h (Prod.mk.inj (List.cons.inj e).1).2
      | _, .isFalse h => .isFalse fun e => h (List.cons.inj e).2
    else .isFalse fun e => hk (Prod.mk.inj (List.cons.inj e).1).1

end

instance : DecidableEq Json := Json.decEq

/-! ## Nesting -/

mutual

/-- How many arrays and objects stand inside one another. -/
def depth : Json → Nat
  | .array items => depthItems items + 1
  | .object members => depthMembers members + 1
  | _ => 0

/-- The greatest depth of the items. -/
def depthItems : List Json → Nat
  | [] => 0
  | j :: rest => max j.depth (depthItems rest)

/-- The greatest depth of the values. -/
def depthMembers : List (String × Json) → Nat
  | [] => 0
  | (_, j) :: rest => max j.depth (depthMembers rest)

end

end Json

end Fleet
