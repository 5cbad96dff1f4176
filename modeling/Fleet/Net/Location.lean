import Fleet.Net.Url

/-!
# Locations

What a reference leads to: a URL of the web, taken apart, or a URL of another scheme, of which only the
text is kept.
-/

namespace Fleet.Net

inductive Location where
  | web (url : Url)
  /-- The text of a URL of another scheme. -/
  | other (text : List Char)
deriving DecidableEq, Repr, Inhabited

namespace Location

open Url

def text : Location → List Char
  | .web url => url.text
  | .other text => text

/-- The URL, if a web server without encryption answers there. -/
def http? : Location → Option Url
  | .web url => if url.scheme = ['h', 't', 't', 'p'] then some url else none
  | .other _ => none

/-! ## Other schemes -/

/-- A character that no host may hold. -/
def isForbidden (c : Char) : Bool := c = '\x00' || " #/:<>?@[\\]^|".toList.contains c

/-- The host of a scheme that does not say what a host is. -/
def opaqueHost? : List Char → Option (List Char)
  | '[' :: rest =>
    if rest.getLast? = some ']' then
      (v6? rest.dropLast).map fun groups => (Host.address (.v6 groups)).text
    else none
  | cs => if cs.any isForbidden then none else some (Text.Percent.encode [] cs)

/-- The port and what follows it, which begins with a backslash if it is there. -/
def cutPortEnd (cs : List Char) : List Char × List Char := cs.span (· ≠ '\\')

/-- The user, the host and the port before a path; `isLast` if nothing follows. A host may be empty if
there is nothing beside it. The rest belongs to the path. -/
def authority? (isLast : Bool) (cs : List Char) : Option (List Char × List Char) := do
  let (user, rest) := cutUser cs
  let (host, port) := cutPort false rest
  let (port, more) := match port with
    | some cs => let (digits, more) := cutPortEnd cs; (some digits, more)
    | none => (none, [])
  if host.isEmpty && (port.isSome || !user.isEmpty || (cs.head? = some '@' && !isLast)) then none
  else
    let host ← opaqueHost? host
    let port := (← portNumber? port).map Text.natDigits
    return ((if user.isEmpty then [] else user ++ ['@']) ++ host ++ marked ':' port, more)

/-- What follows the two slashes before a host; `isLast` if no query and no fragment follows. -/
def afterHost? (isLast : Bool) (cs : List Char) : Option (List Char) := do
  let (authority, path) := cs.span (· ≠ '/')
  let (authority, more) ← authority? (isLast && path.isEmpty) authority
  let path := match more ++ path with
    | [] => []
    | '/' :: rest | rest => Path.ofText rest
  return authority ++ Path.text path

/-- What follows the scheme, up to the query: a host and a path, a path, or a text that is neither. -/
def body? (isLast : Bool) : List Char → Option (List Char)
  | '/' :: '/' :: rest => (afterHost? isLast rest).map (['/', '/'] ++ ·)
  | '/' :: rest =>
    let path := Path.ofText rest
    some ((if path.head? = some [] && 1 < path.length then ['/', '.'] else []) ++ Path.text path)
  | cs => some (Text.Percent.encode [] cs)

/-! ## Files -/

/-- The host of a file; this machine needs no name. -/
def fileHost? (cs : List Char) : Option (List Char) :=
  if cs.isEmpty then some []
  else (Host.ofText? cs).map fun host =>
    if host.text = "localhost".toList then [] else host.text

/-- The host of a file and the text of its path. A drive is no host. -/
def fileParts? : List Char → Option (List Char × List Char)
  | '/' :: '/' :: rest =>
    let (host, path) := rest.span (· ≠ '/')
    if Path.isDrive host then some ([], rest)
    else (fileHost? host).map fun host => (host, if host.isEmpty then path else path.drop 1)
  | '/' :: path => some ([], path)
  | path => some ([], path)

/-- The host and the path of a file. A path with a drive is on this machine. -/
def fileBody? (cs : List Char) : Option (List Char) := do
  let (host, path) ← fileParts? (cs.map fun c => if c = '\\' then '/' else c)
  let path := Path.follow true [] (Text.splitOn '/' path)
  let host := if path.head?.any Path.isDrive then [] else host
  return ['/', '/'] ++ host ++ Path.text (Path.trimmed path)

def fileScheme : List Char := ['f', 'i', 'l', 'e']

/-- The text of a URL whose scheme is not of the web. -/
def foreign? (scheme rest : List Char) : Option (List Char) := do
  let (cs, query, fragment) := cutTail rest
  let isLast := query.isNone && fragment.isNone
  let body ← if scheme = fileScheme then fileBody? cs else body? isLast cs
  let encodeQuery :=
    if scheme = fileScheme then encodeQuery else Text.Percent.encode " \"#<>".toList
  let query := query.map encodeQuery
  return scheme ++ ':' :: body ++ marked '?' query ++ marked '#' (fragment.map encodeFragment)

/-! ## References -/

/-- The location of a text that begins with a scheme. -/
def absolute? (scheme rest : List Char) : Option Location :=
  match defaultPorts.lookup scheme with
  | some default => (ofAuthority? scheme default (rest.dropWhile isSlash)).map .web
  | none => (foreign? scheme rest).map .other

/-- Resolves a reference. A scheme that is the base's own may stand before a relative reference. -/
def join? (base : Url) (reference : List Char) : Option Location :=
  let cs := clean reference
  match scheme? cs with
  | none => (base.relative? cs).map .web
  | some (scheme, rest) =>
    if scheme = base.scheme && (rest.takeWhile isSlash).length < 2 then
      (base.relative? rest).map .web
    else absolute? scheme rest

/-- The URL of the web that a text writes. -/
def ofText? (cs : List Char) : Option Url :=
  match scheme? (clean cs) with
  | none => none
  | some (scheme, rest) =>
    match absolute? scheme rest with
    | some (.web url) => some url
    | _ => none

end Location

end Fleet.Net
