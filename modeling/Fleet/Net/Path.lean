import Fleet.Text.Percent
import Fleet.Text.Split

/-!
# Paths of URLs

A path is the list of its segments, each of them behind a slash. A segment of one dot is no step, and
one of two dots a step up, which does not lead above a drive.
-/

namespace Fleet.Net.Path

def encodeSegment : List Char → List Char := Text.Percent.encode " \"#<>?\x60\x7b\x7d".toList

/-- A segment of one dot; a dot may be encoded. -/
def isDot (segment : List Char) : Bool :=
  [".", "%2e"].contains (String.ofList (segment.map Char.toLower))

def isDotDot (segment : List Char) : Bool :=
  ["..", ".%2e", "%2e.", "%2e%2e"].contains (String.ofList (segment.map Char.toLower))

/-! ## Drives -/

def isDrive : List Char → Bool
  | [letter, mark] => letter.isAlpha && (mark = ':' || mark = '|')
  | _ => false

/-- The segment is a drive, or one up to its first backslash. -/
def hasDrive (segment : List Char) : Bool := isDrive (segment.takeWhile (· ≠ '\\'))

def parent (path : List (List Char)) : List (List Char) :=
  if path.getLast?.any hasDrive then path else path.dropLast

/-- How a segment is written behind a path. At the front of the path of a file a drive has a colon. -/
def written (isFile : Bool) (path : List (List Char)) (segment : List Char) : List Char :=
  if isFile && path.isEmpty && isDrive segment then segment.take 1 ++ [':']
  else encodeSegment segment

/-! ## Steps -/

/-- The path after the steps. A dot at the end leaves an empty segment. -/
def follow (isFile : Bool) (path : List (List Char)) : List (List Char) → List (List Char)
  | [] => path
  | [last] =>
    if isDotDot last then parent path ++ [[]]
    else if isDot last then path ++ [[]]
    else path ++ [written isFile path last]
  | segment :: rest =>
    if isDotDot segment then follow isFile (parent path) rest
    else if isDot segment then follow isFile path rest
    else follow isFile (path ++ [written isFile path segment]) rest

/-- The path of a text whose segments are between slashes. -/
def ofText (cs : List Char) : List (List Char) := follow false [] (Text.splitOn '/' cs)

def text (path : List (List Char)) : List Char := path.flatMap ('/' :: ·)

/-- Without the empty segments at the front; one segment is left. -/
def trimmed (path : List (List Char)) : List (List Char) :=
  match path.dropWhile List.isEmpty with
  | [] => [[]]
  | segments => segments

end Fleet.Net.Path
