import Fleet.Settings.Document

/-!
# Watching the settings

Whenever the file of the settings is written anew and can be accepted, its settings are delivered. A
file that cannot be accepted, or is gone, leaves the settings as they are.
-/

namespace Fleet

/-- What happens in the directory of the file. -/
inductive FileChange where
  | written (text : String)
  /-- Another file is written. -/
  | besides
  | removed
deriving DecidableEq, Repr, Inhabited

/-- The settings that were delivered and not yet taken, and those that were taken last. -/
structure Watch where
  delivered : List Settings := []
  taken : Option Settings := none
deriving DecidableEq, Repr, Inhabited

namespace Watch

def notice (w : Watch) : FileChange → Watch
  | .written text =>
    match Settings.ofText text with
    | .ok s => { w with delivered := w.delivered ++ [s] }
    | .error _ => w
  | .besides | .removed => w

/-- Takes the next settings that differ from the last ones taken. -/
def take (w : Watch) : Option Settings × Watch :=
  match w.delivered.dropWhile (some · = w.taken) with
  | [] => (none, { w with delivered := [] })
  | s :: rest => (some s, ⟨rest, some s⟩)

end Watch

end Fleet
