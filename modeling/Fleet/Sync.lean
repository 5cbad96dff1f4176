import Fleet.Config.Compose

/-!
# Synchronisation

What nodes ask for: which of them are pending, the configs they run, and the acknowledgement of the
version they applied. None of it changes a record.
-/

namespace Fleet

open Fleet.Action

/-- What a list of pending entities names. -/
inductive PendingScope where
  | nodes
  | clusters
deriving DecidableEq, Repr, Inhabited

namespace PendingScope

def name : PendingScope → String
  | .nodes => "nodes"
  | .clusters => "clusters"

def names : List (String × PendingScope) := [("nodes", .nodes), ("clusters", .clusters)]

/-- The spellings that a request may use, in lower case. -/
def spellings : List (String × PendingScope) :=
  [("nodes", .nodes), ("node", .nodes), ("clusters", .clusters), ("cluster", .clusters)]

/-- The scope that a request means, in letters of either case. -/
def ofText (text : String) : Except UnknownWord PendingScope :=
  (spellings.lookup (Text.lower text)).elim (.error (.scope text)) .ok

def decoder : Json.Decoder PendingScope := Json.Decoder.oneOf names

def toJson (s : PendingScope) : Json := .string s.name

end PendingScope

/-! ## Pending lists -/

/-- The enabled clusters of the nodes; a cluster that is in the list already is not read again. -/
def clustersOf : List Int → OrdSet Int → Action (OrdSet Int)
  | [], found => return found
  | id :: rest, found => do
    match ← findNode id with
    | none => clustersOf rest found
    | some node =>
      if found.contains node.clusterId then clustersOf rest found
      else
        match ← findCluster node.clusterId with
        | some cluster =>
          clustersOf rest (if cluster.state.isEnabled then found.add cluster.id else found)
        | none => clustersOf rest found

/-- The pending nodes, or the enabled clusters that have one. -/
def listPending (scope : PendingScope) : Action (OrdSet Int) := do
  let nodes ← ask .pendingNodes
  note (.pendingNodes nodes.length)
  match scope with
  | .nodes => return OrdSet.ofList nodes
  | .clusters => clustersOf nodes .empty

/-! ## Configs and acknowledgements -/

def fetch (target : EntityRef) : Action (Option Config) := do
  check (requireId "id" target.id)
  composeFresh target

/-- The config of a node, stamped with the version that was read before it was composed. -/
def fetchNode (id : Int) : Action (Option NodeSnapshot) := do
  check (requireId "node_id" id)
  let version ← ask (.version id)
  let config ← composeFresh ⟨.node, id⟩
  return (config.bind Config.node?).map fun c => ⟨version.version, c⟩

/-- Records the version that a stored node applied. -/
def ackNode (id : Int) (version : Nat) : Action NodeVersion := do
  check (requireId "node_id" id)
  match ← findNode id with
  | none => throw (.notFound ⟨.node, id⟩)
  | some _ => ask (.ack id version)

end Fleet
