import Fleet.Net.Location

/-!
# Request targets

To which URLs a request can be made: a target has a scheme and a host, or is a host alone. Paths and
queries are encoded so that they hold nothing a target does not allow, so that only what stands before
them can be refused.
-/

namespace Fleet.Net.RequestTarget

/-! ## Hosts -/

/-- What was met of the text before the path. -/
structure Progress where
  /-- The colons since the last `@` or closing bracket. -/
  colons : Nat := 0
  opened : Bool := false
  closed : Bool := false
  /-- An encoded character since the last `@` or closing bracket. -/
  encoded : Bool := false
deriving DecidableEq, Repr, Inhabited

/-- A character that may stand anywhere before the path. -/
def isPlain (c : Char) : Bool := c.isAlphanum || "!$&'()*+,-.;=_~".toList.contains c

/-- A colon more than in eight groups of an address, a second bracket and a character of no host are
refused. -/
def Progress.step? (p : Progress) (c : Char) : Option Progress :=
  match c with
  | ':' => if p.colons < 8 then some { p with colons := p.colons + 1 } else none
  | '@' => some { p with colons := 0, encoded := false }
  | '[' => if p.opened || p.encoded then none else some { p with opened := true }
  | ']' =>
    if !p.opened || p.closed then none
    else some { p with colons := 0, closed := true, encoded := false }
  | '%' => some { p with encoded := true }
  | c => if isPlain c then some p else none

/-- The text before the path ends in a host and perhaps a port. Brackets come in pairs, and only users
and addresses have encoded characters. -/
def isAuthority (cs : List Char) : Bool :=
  (cs.foldlM Progress.step? {}).any fun p =>
    p.opened = p.closed && p.colons ≤ 1 && !p.encoded && cs.getLast? ≠ some '@'

/-! ## Targets -/

/-- The most characters of a scheme and of a target. -/
def maxScheme : Nat := 64

def maxLength : Nat := 65534

def isBeforePath (c : Char) : Bool := c ≠ '/' && c ≠ '?' && c ≠ '#'

def isTarget (url : List Char) : Bool :=
  url.length ≤ maxLength &&
    match url.span (· ≠ ':') with
    | (scheme, ':' :: '/' :: '/' :: rest) =>
      let authority := rest.takeWhile isBeforePath
      scheme.length ≤ maxScheme && !authority.isEmpty && isAuthority authority
    | _ => url.all isBeforePath && isAuthority url

end Fleet.Net.RequestTarget
