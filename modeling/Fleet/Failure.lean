import Fleet.Entity

/-!
# Failures

Why an operation of the control plane ends without a result. A missing or disabled entity is no
failure of its own: where it matters, a result says so.
-/

namespace Fleet

/-- Why the store does not answer. -/
inductive StoreError where
  | unavailable (message : String)
  | query (message : String)
  /-- The seed document cannot be read. -/
  | seedUnreadable
  /-- The seed document is not one. -/
  | seedMalformed
deriving DecidableEq, Repr, Inhabited

def StoreError.message : StoreError → String
  | .unavailable m => "Store unavailable: " ++ m
  | .query m => "Query failed: " ++ m
  | .seedUnreadable => "Seed I/O error"
  | .seedMalformed => "Seed parse error"

inductive Failure where
  /-- An argument is out of its range. -/
  | invalid (field reason : String)
  | notFound (entity : EntityRef)
  /-- A stored reference of the entity is not what its field asks for. -/
  | undecodable (entity : EntityRef) (field : String)
  | store (error : StoreError)
deriving DecidableEq, Repr, Inhabited

namespace Failure

def entityText (e : EntityRef) : String := e.kind.name ++ " " ++ Text.intText e.id

def message : Failure → String
  | .invalid field reason => "Invalid " ++ field ++ ": " ++ reason
  | .notFound e => entityText e ++ " not found"
  | .undecodable e field => "Failed to decode " ++ field ++ " of " ++ entityText e
  | .store e => "Store error: " ++ e.message

end Failure

/-- Ids of stored entities are positive. -/
def requireId (field : String) (id : Int) : Except Failure Unit :=
  if id ≤ 0 then .error (.invalid field ("expected a positive id, got " ++ Text.intText id))
  else .ok ()

/-! ## Words that name nothing -/

/-- A word in a request that is none of the known ones. -/
inductive UnknownWord where
  | kind (text : String)
  | protocol (text : String)
  | scope (text : String)
deriving DecidableEq, Repr, Inhabited

/-- A kind is quoted as it was given, the others in lower case. -/
def UnknownWord.message : UnknownWord → String
  | .kind text => "unknown entity kind '" ++ text ++ "'"
  | .protocol text => "unknown proxy protocol '" ++ Text.lower text ++ "'"
  | .scope text => "unknown pending scope '" ++ Text.lower text ++ "'"

/-- The kind that a request means, in letters of either case. -/
def Kind.ofText (text : String) : Except UnknownWord Kind :=
  (spellings.lookup (Text.lower text)).elim (.error (.kind text)) .ok

end Fleet
