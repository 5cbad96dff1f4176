import Fleet.Http.Error
import Fleet.Http.MediaType
import Fleet.Store.Program

/-!
# Handlers

A handler is a program over the store that ends in a response. What it needs from the request is taken
first, from left to right: the parts of the path, then the body.
-/

namespace Fleet.Http

/-- A program that may end early with a response. -/
abbrev Handler (α : Type) := ExceptT Response Program α

namespace Handler

variable {α : Type}

/-- Ends with a response that has no words of its own. -/
def reject (status : Nat) : Handler α := throw ⟨status, .none⟩

def fail (e : ApiError) : Handler α := throw e.response

/-- Makes an action; its failure is an error response. -/
def act (a : Action α) : Handler α :=
  ExceptT.mk do
    match ← a.run with
    | .ok x => return .ok x
    | .error f => return .error (ApiError.ofFailure f).response

def response (h : Handler Response) : Program Response := do
  match ← h.run with
  | .ok r | .error r => return r

def json (j : Json) : Response := ⟨200, .json j⟩

/-! ## Parts of requests -/

def segment (cs : List Char) : Handler String :=
  (segmentText? cs).elim (reject 400) pure

def idSegment (cs : List Char) : Handler Int := do
  let text ← segment cs
  (Text.readInt64? text.toList).elim (reject 400) pure

/-- The request says that its body is JSON. -/
def Request.hasJson (r : Request) : Bool :=
  ((r.header? "content-type").bind visibleText?).any MediaType.isJson

/-- The body, as a value of a type. -/
def body (d : Json.Decoder α) (r : Request) : Handler α :=
  if !Request.hasJson r then reject 415
  else
    match Json.decode d r.body with
    | .ok a => pure a
    | .error .malformed => reject 400
    | .error .mismatched => reject 422

/-- A word that the request may have wrong. -/
def word (r : Except UnknownWord α) : Handler α :=
  match r with
  | .ok a => pure a
  | .error w => fail (.badRequest w.message)

end Handler

end Fleet.Http
