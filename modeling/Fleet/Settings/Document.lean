import Fleet.Settings.Codec
import Fleet.Text.Utf8
import Fleet.Toml.Reader

/-!
# Settings in a file

Settings are written as TOML. A document is accepted when it can be read, fits the sections and
nothing is wrong with what it sets.
-/

namespace Fleet

/-- Why a document gives no settings. -/
inductive DocumentFault where
  /-- There is no such file, or it is not text. -/
  | unreadable
  /-- It is not TOML, or a value does not fit its setting. -/
  | malformed
  | refused (problems : List Problem)
deriving DecidableEq, Repr, Inhabited

/-- The problems of a refused document on one line. -/
def DocumentFault.problemText (problems : List Problem) : String :=
  "Invalid config: " ++ String.intercalate ", " (problems.map Problem.text)

namespace Settings

/-- Accepts settings with which nothing is wrong. -/
def accept (s : Settings) : Except DocumentFault Settings :=
  match s.problems with
  | [] => .ok s
  | problems => .error (.refused problems)

def ofTable? (t : Toml.Table) : Option Settings := (decoder .loose t.toJson.toReading).toOption

def ofText (text : String) : Except DocumentFault Settings :=
  match (Toml.read? text).bind ofTable? with
  | some s => s.accept
  | none => .error .malformed

/-- The settings in a file, which is missing or has bytes. -/
def ofFile : (bytes : Option (List UInt8)) → Except DocumentFault Settings
  | none => .error .unreadable
  | some bytes =>
    match Text.Utf8.decode? bytes with
    | some text => ofText (String.ofList text)
    | none => .error .unreadable

end Settings

end Fleet
