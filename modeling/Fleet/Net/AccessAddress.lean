import Fleet.Text.Blank
import Fleet.Text.Decimal
import Fleet.Text.Split

/-!
# Access addresses

Where a node can be reached: `host` or `host:port`. A host of version 6 stands in brackets when a port
follows; without brackets it has no port.
-/

namespace Fleet.Net

structure AccessAddress where
  host : List Char
  port : Option Nat
deriving DecidableEq, Repr, Inhabited

namespace AccessAddress

/-- Why a text is no access address; each fault quotes the text without blanks at its ends. -/
inductive Fault where
  | port (digits address : List Char)
  /-- A bracket is not closed. -/
  | unclosed (address : List Char)
  /-- Something else than a port follows the bracket. -/
  | surplus (tail address : List Char)
deriving DecidableEq, Repr, Inhabited

def Fault.message : Fault → String
  | .port digits address =>
    "invalid port '" ++ String.ofList digits ++ "' in access address '" ++ String.ofList address ++ "'"
  | .unclosed address => "unterminated IPv6 address '" ++ String.ofList address ++ "'"
  | .surplus tail address =>
    "unexpected '" ++ String.ofList tail ++ "' after IPv6 address '" ++ String.ofList address ++ "'"

def portOf (address digits : List Char) : Except Fault Nat :=
  (Text.readUnsigned? 65535 digits).elim (.error (.port digits address)) .ok

/-- Splits a text that has no blanks at its ends. -/
def ofTrimmed (address : List Char) : Except Fault AccessAddress :=
  match address with
  | '[' :: rest =>
    match Text.cut? ']' rest with
    | none => .error (.unclosed address)
    | some (host, []) => .ok ⟨host, none⟩
    | some (host, ':' :: digits) => (portOf address digits).map fun n => ⟨host, some n⟩
    | some (_, tail) => .error (.surplus tail address)
  | _ =>
    match Text.cut? ':' address with
    | none => .ok ⟨address, none⟩
    | some (host, digits) =>
      if digits.contains ':' then .ok ⟨address, none⟩
      else (portOf address digits).map fun n => ⟨host, some n⟩

/-- The host and the port that a text gives. -/
def ofText (text : List Char) : Except Fault AccessAddress := ofTrimmed (Text.trim text)

end AccessAddress

end Fleet.Net
