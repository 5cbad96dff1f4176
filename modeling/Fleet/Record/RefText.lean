import Fleet.Json.Decoder
import Fleet.Json.Printer
import Fleet.Text.Blank

/-!
# Reference text

A record keeps its references as JSON text, exactly as they were stored. Blank text and `null` are no
reference; any other text is decoded when it is needed, and may turn out not to fit.
-/

namespace Fleet

structure RefText where
  text : String
deriving DecidableEq, Repr, Inhabited

namespace RefText

def empty : RefText := ⟨""⟩

/-- Nothing but blanks, or `null` between blanks. -/
def isEmpty (r : RefText) : Bool :=
  let cs := Text.trim r.text.toList
  cs.isEmpty || cs = ['n', 'u', 'l', 'l']

/-- The reference, if there is one. -/
def decode {α : Type} (d : Json.Decoder α) (r : RefText) : Except Json.Refusal (Option α) :=
  if r.isEmpty then .ok none else some <$> Json.decode d r.text

/-- The text that stores a value. -/
def encode (j : Json) : RefText := ⟨j.render⟩

/-- In a document, a string is the text itself, `null` is none, and any other value is its compact
text. -/
def ofJson : Json → RefText
  | .string s => ⟨s⟩
  | .null => empty
  | j => encode j

def decoder : Json.Decoder RefText := fun c r => ofJson <$> Json.Decoder.any c r

def toJson (r : RefText) : Json := .string r.text

end RefText

end Fleet
