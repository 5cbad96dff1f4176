import Fleet.Net.Host
import Fleet.Net.Path

/-!
# URLs

Addresses of the web and the resolution of references against them, as the URL standard has it: the
schemes with a host and a default port.
-/

namespace Fleet.Net

structure Url where
  scheme : List Char
  /-- The user and the password, percent-encoded. -/
  user : List Char := []
  host : Host
  port : Nat
  /-- The segments after each slash, percent-encoded. -/
  path : List (List Char) := []
  query : Option (List Char) := none
  fragment : Option (List Char) := none
deriving DecidableEq, Repr, Inhabited

namespace Url

/-- The schemes of the web, with their default ports. -/
def defaultPorts : List (List Char × Nat) :=
  [(['h', 't', 't', 'p'], 80), (['h', 't', 't', 'p', 's'], 443), (['w', 's'], 80),
    (['w', 's', 's'], 443), (['f', 't', 'p'], 21)]

/-! ## Characters -/

def isSlash (c : Char) : Bool := c = '/' || c = '\\'

/-- The text without blanks and controls at its ends, and without tabs and line ends. -/
def clean (cs : List Char) : List Char :=
  let isEdge := fun (c : Char) => c.toNat ≤ 0x20
  let inner := (((cs.dropWhile isEdge).reverse).dropWhile isEdge).reverse
  inner.filter fun c => c ≠ '\t' && c ≠ '\n' && c ≠ '\r'

def encodeUser : List Char → List Char :=
  Text.Percent.encode " \"#<>?\x60\x7b\x7d/:;=@[\\]^|".toList

def encodeQuery : List Char → List Char := Text.Percent.encode " \"#<>'".toList

def encodeFragment : List Char → List Char := Text.Percent.encode " \"<>\x60".toList

/-! ## Parts -/

def scheme? (cs : List Char) : Option (List Char × List Char) :=
  let isInner := fun (c : Char) => c.isAlphanum || c = '+' || c = '-' || c = '.'
  match cs.head?.filter Char.isAlpha, cs.dropWhile isInner with
  | some _, ':' :: rest => some ((cs.takeWhile isInner).map Char.toLower, rest)
  | _, _ => none

/-- The text before the path, the query or the fragment, and from there on. -/
def cutAuthority (cs : List Char) : List Char × List Char :=
  cs.span fun c => !(isSlash c || c = '?' || c = '#')

/-- Cuts at a mark; there may be none. -/
def cutAt (mark : Char) (cs : List Char) : List Char × Option (List Char) :=
  match Text.cut? mark cs with
  | some (before, after) => (before, some after)
  | none => (cs, none)

/-- A part with its mark, if there is one. -/
def marked (mark : Char) (part : Option (List Char)) : List Char := part.elim [] (mark :: ·)

/-- The text up to its query and fragment, and those two. -/
def cutTail (cs : List Char) : List Char × Option (List Char) × Option (List Char) :=
  let (cs, fragment) := cutAt '#' cs
  let (cs, query) := cutAt '?' cs
  (cs, query, fragment)

/-- Encodes a user and a password; an empty password is left out with its colon. -/
def userText (cs : List Char) : List Char :=
  match Text.cut? ':' cs with
  | some (user, []) => encodeUser user
  | some (user, password) => encodeUser user ++ ':' :: encodeUser password
  | none => encodeUser cs

/-- The user before the last `@`, encoded, and what follows it. -/
def cutUser (cs : List Char) : List Char × List Char :=
  match Text.cut? '@' cs.reverse with
  | some (after, before) => (userText before.reverse, after.reverse)
  | none => ([], cs)

/-- The host and what follows its colon. A colon within brackets belongs to the host. -/
def cutPort : (inBrackets : Bool) → List Char → List Char × Option (List Char)
  | _, [] => ([], none)
  | inBrackets, c :: rest =>
    if c = ':' && !inBrackets then ([], some rest)
    else
      let (host, port) := cutPort (if c = '[' then true else if c = ']' then false else inBrackets) rest
      (c :: host, port)

/-- The number of a port; an empty one is none. -/
def portNumber? : Option (List Char) → Option (Option Nat)
  | none | some [] => some none
  | some digits => ((Text.readNat? digits).filter (· ≤ 65535)).map some

/-! ## Paths -/

def segments (cs : List Char) : List (List Char) :=
  Text.splitOn '/' (cs.map fun c => if c = '\\' then '/' else c)

/-- The URL with another path, query and fragment; the path continues from `start`. -/
def withPath (u : Url) (start : List (List Char)) (cs : List Char) : Url :=
  let (cs, query, fragment) := cutTail cs
  { u with
    path := Path.follow false start (segments cs)
    query := query.map encodeQuery
    fragment := fragment.map encodeFragment }

/-! ## Texts -/

/-- The URL whose user or host is at the front. -/
def ofAuthority? (scheme : List Char) (default : Nat) (cs : List Char) : Option Url := do
  let (authority, rest) := cutAuthority cs
  let (user, authority) := cutUser authority
  let (host, port) := cutPort false authority
  let host ← Host.ofText? host
  let port ← portNumber? port
  let rest := match rest with
    | c :: tail => if isSlash c then tail else rest
    | [] => []
  return withPath { scheme, user, host, port := port.getD default } [] rest

/-- What follows the slashes before a host. If the first two lean forward there are no more of them. -/
def afterSlashes : List Char → List Char
  | '/' :: '/' :: rest => rest
  | cs => cs.dropWhile isSlash

def relative? (base : Url) (cs : List Char) : Option Url :=
  match cs with
  | [] => some { base with fragment := none }
  | '#' :: rest => some { base with fragment := some (encodeFragment rest) }
  | '?' :: rest =>
    let (query, fragment) := cutAt '#' rest
    some { base with query := some (encodeQuery query), fragment := fragment.map encodeFragment }
  | c :: rest =>
    if isSlash c then
      if rest.head?.any isSlash then do
        let default ← defaultPorts.lookup base.scheme
        ofAuthority? base.scheme default (afterSlashes (c :: rest))
      else some (base.withPath [] rest)
    else some (base.withPath base.path.dropLast (c :: rest))

/-- The URL as a text. A default port is left out. -/
def text (u : Url) : List Char :=
  let user := if u.user.isEmpty then [] else u.user ++ ['@']
  let port := if defaultPorts.lookup u.scheme = some u.port then [] else ':' :: Text.natDigits u.port
  u.scheme ++ [':', '/', '/'] ++ user ++ u.host.text ++ port ++ Path.text u.path ++ marked '?' u.query
    ++ marked '#' u.fragment

end Url

end Fleet.Net
