import Fleet.Text.Split

/-!
# Media types

The value of a content type header: a type, a subtype with an optional suffix, and parameters. Only
whether it names JSON is of interest, but a value that is no media type names nothing.
-/

namespace Fleet.Http.MediaType

def isToken (c : Char) : Bool := c.isAlphanum || "!#$%&'*+-.^_\x60|~".toList.contains c

def isQuotable (c : Char) : Bool := 31 < c.toNat && c.toNat ≠ 127

/-! ## Parameters -/

/-- What follows a quoted value, which has at least one character and ends at the next quote. -/
def quoted? : List Char → Option (List Char)
  | [] => none
  | first :: rest =>
    if !isQuotable first then none
    else
      match rest.dropWhile fun c => c ≠ '"' && isQuotable c with
      | '"' :: rest => some rest
      | _ => none

/-- What follows a parameter and its semicolon; `some none` at the end of the text. -/
def parameter? (cs : List Char) : Option (Option (List Char)) :=
  match cs.takeWhile isToken, cs.dropWhile isToken with
  | _ :: _, '=' :: '"' :: rest => do
    match (← quoted? rest).dropWhile (· = ' ') with
    | [] => some none
    | ';' :: rest => some (some rest)
    | _ => none
  | _ :: _, '=' :: rest =>
    match rest.takeWhile isToken, rest.dropWhile isToken with
    | _, [] => some none
    | _ :: _, ';' :: rest => some (some rest)
    | _, _ => none
  | _, _ => none

/-- The text is a list of parameters, each with spaces before it; `fuel` bounds their number. -/
def areParameters : (fuel : Nat) → List Char → Bool
  | 0, _ => false
  | fuel + 1, cs =>
    match cs.dropWhile (· = ' ') with
    | [] => true
    | cs =>
      match parameter? cs with
      | none => false
      | some none => true
      | some (some rest) => areParameters fuel rest

/-! ## JSON -/

def lower (cs : List Char) : String := String.ofList (cs.map Char.toLower)

/-- The subtype is JSON up to its last plus sign, or has it as a suffix. A plus sign that begins a
subtype is part of it. -/
def isJsonSubtype (subtype : List Char) : Bool :=
  match subtype with
  | [] => false
  | c :: rest =>
    match Text.cut? '+' rest.reverse with
    | none => lower subtype = "json"
    | some (suffix, before) =>
      lower (c :: before.reverse) = "json" || lower suffix.reverse = "json"

/-- The value names JSON: `application/json`, or a subtype that ends in `+json`. -/
def isJson (cs : List Char) : Bool :=
  match Text.cut? '/' cs with
  | none => false
  | some (type, rest) =>
    let subtype := rest.takeWhile isToken
    let parameters := rest.dropWhile isToken
    lower type = "application" && isJsonSubtype subtype
      && match parameters with
        | [] => true
        | ';' :: ps => areParameters (ps.length + 1) ps
        | _ => false

end Fleet.Http.MediaType
