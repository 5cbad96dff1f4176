import Fleet.Json.Fields

/-!
# Node versions

A node's version counts how often its config was marked as changed; beside it stands the greatest
version that the node reported as applied.
-/

namespace Fleet

structure NodeVersion where
  version : Nat := 0
  applied : Nat := 0
deriving DecidableEq, Repr, Inhabited

namespace NodeVersion

/-- The node has not applied its latest version. -/
def isPending (v : NodeVersion) : Bool := v.applied < v.version

def mark (v : NodeVersion) : NodeVersion := { v with version := v.version + 1 }

/-- Takes a reported version, no greater than the current one and never backwards. -/
def ack (v : NodeVersion) (reported : Nat) : NodeVersion :=
  { v with applied := max v.applied (min reported v.version) }

def fields : Json.Fields NodeVersion :=
  NodeVersion.mk <$> .required "version" Json.Decoder.nat64
    <*> .required "applied" Json.Decoder.nat64

def decoder : Json.Decoder NodeVersion := fields.decoder

def members (v : NodeVersion) : List (String × Json) :=
  [("version", .nat v.version), ("applied", .nat v.applied)]

def toJson (v : NodeVersion) : Json := .object v.members

end NodeVersion

end Fleet
