import Fleet.Json.Basic
import Fleet.Toml.Scalar

/-!
# TOML tables

What a document says, statement by statement, and the table that the statements build. A table
remembers how it came about, because that decides which later statements may add to it.
-/

namespace Fleet.Toml

/-- How a table came about. -/
inductive TableOrigin where
  /-- By a header of its own, or as the document. -/
  | header
  /-- On the way to another table's header. -/
  | implied
  /-- On the way of a dotted key. -/
  | dotted
  /-- Written out as a value; nothing can be added. -/
  | inline_
deriving DecidableEq, Repr, Inhabited

/-- A dotted key may go through a table that no header or value made. -/
def TableOrigin.isOpen : TableOrigin → Bool
  | .implied | .dotted => true
  | _ => false

inductive Value where
  | string (s : String)
  | number (n : Number)
  | bool (b : Bool)
  /-- A date, a time of day or both. -/
  | time
  | array (items : List Value)
  | table (origin : TableOrigin) (entries : List (String × Value))
  /-- Tables that headers in double brackets add to. -/
  | tables (tables : List (List (String × Value)))
deriving Repr, Inhabited

/-- The entries of a table, and how it came about. -/
structure Table where
  origin : TableOrigin
  entries : List (String × Value)
deriving Repr, Inhabited

def Table.value (t : Table) : Value := .table t.origin t.entries

inductive Statement where
  | header (path : List String)
  | arrayHeader (path : List String)
  | entry (path : List String) (value : Value)
deriving Repr, Inhabited

/-! ## Adding to tables -/

/-- Puts a value at a key, over one that is there. -/
def setEntry (key : String) (v : Value) : List (String × Value) → List (String × Value)
  | [] => [(key, v)]
  | (k, w) :: rest => if k = key then (k, v) :: rest else (k, w) :: setEntry key v rest

/-- Changes the table at the end of a path, which is made where it is missing. Through an array of
tables the path goes to the last one; it cannot go through other values. -/
def Table.modifyAt (dotted : Bool) (f : Table → Option Table) : List String → Table → Option Table
  | [], t => f t
  | key :: rest, t => do
    let v ← match t.entries.lookup key with
      | none =>
        Table.value <$> modifyAt dotted f rest ⟨if dotted then .dotted else .implied, []⟩
      | some (.table origin entries) =>
        if origin = .inline_ || (dotted && !origin.isOpen) then none
        else Table.value <$> modifyAt dotted f rest ⟨origin, entries⟩
      | some (.tables ts) => do
        let last ← ts.getLast?
        let changed ← modifyAt dotted f rest ⟨.header, last⟩
        some (.tables (ts.dropLast ++ [changed.entries]))
      | some _ => none
    return { t with entries := setEntry key v t.entries }

/-- The key at the end of a path and the way to it. -/
def splitLast? (path : List String) : Option (List String × String) :=
  path.getLast?.map fun key => (path.dropLast, key)

/-- Adds a new entry. A plain key goes into the table itself, a dotted one into a table that dotted
keys made. -/
def Table.addEntry (t : Table) (path : List String) (v : Value) : Option Table := do
  let (way, key) ← splitLast? path
  t.modifyAt true (fun t =>
    if (t.origin = .dotted) = (way = []) || (t.entries.lookup key).isSome then none
    else some { t with entries := t.entries ++ [(key, v)] }) way

/-- Opens the table of a header, once. -/
def Table.openTable (t : Table) (path : List String) : Option Table := do
  let (way, key) ← splitLast? path
  t.modifyAt false (fun t =>
    match t.entries.lookup key with
    | none => some { t with entries := t.entries ++ [(key, .table .header [])] }
    | some (.table .implied entries) =>
      some { t with entries := setEntry key (.table .header entries) t.entries }
    | some _ => none) way

/-- Opens one more table of an array. -/
def Table.openArrayTable (t : Table) (path : List String) : Option Table := do
  let (way, key) ← splitLast? path
  t.modifyAt false (fun t =>
    match t.entries.lookup key with
    | none => some { t with entries := t.entries ++ [(key, .tables [[]])] }
    | some (.tables ts) => some { t with entries := setEntry key (.tables (ts ++ [[]])) t.entries }
    | some _ => none) way

/-! ## Documents -/

/-- Adds the statements to the document; `current` is the path of the last header. -/
def build : List Statement → (current : List String) → Table → Option Table
  | [], _, t => some t
  | .header path :: rest, _, t => do build rest path (← t.openTable path)
  | .arrayHeader path :: rest, _, t => do build rest path (← t.openArrayTable path)
  | .entry path v :: rest, current, t => do
    build rest current (← t.modifyAt false (·.addEntry path v) current)

/-- The table that the statements build, if none is in conflict with those before it. -/
def ofStatements (statements : List Statement) : Option Table := build statements [] ⟨.header, []⟩

/-- The table that the entries of an inline table build. -/
def ofInlineEntries (entries : List (List String × Value)) : Option Table := do
  let t ← entries.foldlM (fun (t : Table) e => t.addEntry e.1 e.2) (⟨.header, []⟩ : Table)
  return { t with origin := .inline_ }

/-! ## As JSON -/

mutual

/-- The value as JSON, which has no infinities and no times. An infinity becomes the zero of floating
point, no whole number either, and a time becomes an object that says nothing else. -/
def Value.toJson : Value → Json
  | .string s => .string s
  | .number (.int i) => .int i
  | .number (.float x) => .number (.float x)
  | .number .notFinite => .number (.float ⟨false, .zero⟩)
  | .time => .object [("time", .null)]
  | .bool b => .bool b
  | .array items => .array (itemsJson items)
  | .table _ entries => .object (entriesJson entries)
  | .tables ts => .array (tablesJson ts)

def itemsJson : List Value → List Json
  | [] => []
  | v :: rest => v.toJson :: itemsJson rest

def entriesJson : List (String × Value) → List (String × Json)
  | [] => []
  | (key, v) :: rest => (key, v.toJson) :: entriesJson rest

def tablesJson : List (List (String × Value)) → List Json
  | [] => []
  | t :: rest => .object (entriesJson t) :: tablesJson rest

end

def Table.toJson (t : Table) : Json := t.value.toJson

end Fleet.Toml
