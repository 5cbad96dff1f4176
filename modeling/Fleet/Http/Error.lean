import Fleet.Failure
import Fleet.Http.Basic

/-!
# Error responses

The status, the code and the text with which a failure is answered.
-/

namespace Fleet.Http

structure ApiError where
  status : Nat
  code : String
  message : String
deriving DecidableEq, Repr, Inhabited

namespace ApiError

def badRequest (message : String) : ApiError := ⟨400, "validation", message⟩

/-- Stored data that cannot be read is no fault of the request. -/
def ofFailure (f : Failure) : ApiError :=
  match f with
  | .invalid _ _ => ⟨400, "validation", f.message⟩
  | .notFound _ => ⟨404, "not_found", f.message⟩
  | .undecodable _ _ => ⟨500, "decode", f.message⟩
  | .store (.unavailable _) => ⟨503, "store_unavailable", f.message⟩
  | .store _ => ⟨500, "store", f.message⟩

def response (e : ApiError) : Response :=
  ⟨e.status, .json (.object [("code", .string e.code), ("error", .string e.message)])⟩

end ApiError

end Fleet.Http
