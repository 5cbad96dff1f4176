import Fleet.Json.Decoder
import Fleet.Text.Ascii
import Fleet.Text.Split
import Fleet.Text.Utf8

/-!
# Requests and responses

What the listeners take and give. A header value is a sequence of bytes, which can be read as text only
if it is visible ASCII.
-/

namespace Fleet.Http

/-- A request, its target as it stands in the request line. -/
structure Request where
  method : String
  target : String
  headers : List (String × List UInt8) := []
  body : String := ""
deriving DecidableEq, Repr, Inhabited

inductive Body where
  /-- Nothing, or words of no consequence. -/
  | none
  | text (s : String)
  | json (j : Json)
deriving DecidableEq, Repr, Inhabited

structure Response where
  status : Nat
  body : Body := .none
deriving DecidableEq, Repr, Inhabited

/-- A response with the id of its request: the one that the request brought, if it brought one. -/
structure Exchange where
  requestId : Option (List UInt8)
  response : Response
deriving DecidableEq, Repr, Inhabited

/-! ## Headers -/

/-- The first value of a header; names are compared without regard to case. -/
def Request.header? (r : Request) (name : String) : Option (List UInt8) :=
  (r.headers.find? fun h => Text.lower h.1 = name).map (·.2)

/-- The text of a value of visible ASCII characters, spaces and tabs. -/
def visibleText? (value : List UInt8) : Option (List Char) :=
  if value.all fun b => b = 9 || (32 ≤ b && b ≤ 126) then
    some (value.map fun b => Char.ofNat b.toNat)
  else none

/-! ## Targets -/

/-- A target without the scheme and the host that may stand before its path. -/
def withoutHost : List Char → List Char
  | '/' :: path => '/' :: path
  | cs =>
    match Text.cut? ':' cs with
    | some (_, '/' :: '/' :: rest) => rest.dropWhile fun c => c ≠ '/' && c ≠ '?'
    | _ => cs

/-- The path and the query. A fragment is not part of a request. -/
def Request.resource (r : Request) : List Char :=
  withoutHost (r.target.toList.takeWhile (· ≠ '#'))

/-- The text between the slashes of the path, still percent-encoded. -/
def Request.segments (r : Request) : List (List Char) :=
  (Text.splitOn '/' (r.resource.takeWhile (· ≠ '?'))).drop 1

def Request.query (r : Request) : List Char := (r.resource.dropWhile (· ≠ '?')).drop 1

/-- The text of a segment, if its bytes are text. -/
def segmentText? (segment : List Char) : Option String :=
  (Text.Utf8.decode? (Text.Percent.decode (Text.Utf8.encode segment))).map String.ofList

/-! ## Forms -/

/-- The text of a form's name or value; a plus sign is a space. -/
def formText (cs : List Char) : String :=
  let bytes := Text.Utf8.encode (cs.map fun c => if c = '+' then ' ' else c)
  String.ofList (Text.Utf8.decodeLossy (Text.Percent.decode bytes))

/-- The names and values of a form. -/
def formPairs (cs : List Char) : List (String × String) :=
  ((Text.splitOn '&' cs).filter (!·.isEmpty)).map fun part =>
    match Text.cut? '=' part with
    | some (name, value) => (formText name, formText value)
    | none => (formText part, "")

/-! ## Methods -/

inductive Method where
  | get
  | post
  | put
deriving DecidableEq, Repr, Inhabited

def Method.name : Method → String
  | .get => "GET"
  | .post => "POST"
  | .put => "PUT"

/-- The method that asks for the head of a response alone. -/
def headMethod : String := "HEAD"

/-- A request of this name is served by a route of the method. -/
def Method.serves (m : Method) (name : String) : Bool :=
  name = m.name || (m = .get && name = headMethod)

/-- The head of a response: text becomes empty, and JSON nothing. -/
def Response.head (r : Response) : Response :=
  { r with
    body := match r.body with
      | .text _ => .text ""
      | _ => .none }

end Fleet.Http
