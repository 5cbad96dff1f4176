import Fleet.Health.Probe
import Fleet.Store.Program

/-!
# Health checks

All enabled nodes of a cluster are probed at once. Every node gets one result, and the results stand
in the order of the ids, whichever probe ended first.
-/

namespace Fleet

open Json.Decoder

/-! ## Results -/

structure NodeHealth where
  nodeId : Int
  nodeName : String
  /-- The address that was probed, empty if there is none. -/
  nodeAddr : String
  isOk : Bool
  error : String
deriving DecidableEq, Repr, Inhabited

namespace NodeHealth

def fields : Json.Fields NodeHealth :=
  (fun nodeId nodeName nodeAddr isOk error _ => ⟨nodeId, nodeName, nodeAddr, isOk, error⟩)
    <$> .required "nodeId" int64 <*> .required "nodeName" string <*> .required "nodeAddr" string
    <*> .required "isOk" bool <*> .required "error" string <*> .required "costMs" float

/-- A result as it is delivered, with the time that the probe took. -/
def decoder : Json.Decoder NodeHealth := fields.decoder

def toJson (r : NodeHealth) : Json :=
  .object [("nodeId", .int r.nodeId), ("nodeName", .string r.nodeName),
    ("nodeAddr", .string r.nodeAddr), ("isOk", .bool r.isOk), ("error", .string r.error)]

/-- The result of a node that was probed at an address. -/
def ofOutcome (node : Node) (address : String) : Except ProbeFault Unit → NodeHealth
  | .ok () => ⟨node.id, node.name, address, true, ""⟩
  | .error fault => ⟨node.id, node.name, address, false, fault.message⟩

end NodeHealth

/-! ## The network -/

/-- What answers the probes, in which order they end, and whether anyone reaches the listeners. -/
structure Network where
  accepts : Bool
  /-- Two probes that go to one place may come back differently. -/
  reply : (node : Node) → Net.Url → (timeout : Nat) → Reply
  order : List Node → List Node
  order_perm : ∀ nodes, (order nodes).Perm nodes

/-- A network in which nothing is reached. -/
def Network.isolated : Network where
  accepts := false
  reply _ _ _ := .lost
  order nodes := nodes
  order_perm _ := .refl _

/-- What comes back from a location; requests are sent to web servers without encryption only. -/
def Network.replyFrom (network : Network) (node : Node) (target : Net.Location) (timeout : Nat) :
    Reply :=
  target.http?.elim .lost fun url => network.reply node url timeout

/-- A reply of the 200s passes. -/
def Reply.outcome (timeout : Nat) : Reply → Except ProbeFault Unit
  | .status code => if 200 ≤ code && code < 300 then .ok () else .error (.status code)
  | .lost => .error .lost
  | .late => .error (.late timeout)

/-! ## Checks -/

/-- The first address that is not blank. -/
def accessAddress (node : Node) : Except ProbeFault String :=
  match node.accessAddrs.decode (list string) with
  | .error _ => .error .addressesMalformed
  | .ok addresses =>
    ((addresses.getD []).find? fun a => !Text.isBlankText a).elim (.error .noAddress) .ok

def checkNode (network : Network) (probe : Probe) (node : Node) : NodeHealth :=
  match accessAddress node with
  | .error fault => .ofOutcome node "" (.error fault)
  | .ok address =>
    .ofOutcome node address do
      let target ← probeTarget address probe
      (network.replyFrom node target probe.timeout).outcome probe.timeout

/-- The results in the order of the ids. -/
def inIdOrder (results : List NodeHealth) : List NodeHealth :=
  results.mergeSort fun a b => a.nodeId ≤ b.nodeId

def storedNodes : List Int → Action (List Node)
  | [] => return []
  | id :: rest => do
    let node ← Action.findNode id
    return node.toList ++ (← storedNodes rest)

/-- The policy that a cluster keeps. -/
def Cluster.policy (c : Cluster) : Except Failure (Option HealthPolicy) :=
  (c.healthCheck.decode HealthPolicy.decoder).mapError fun _ =>
    .undecodable ⟨.cluster, c.id⟩ "health_check"

def countResults : List NodeHealth → Action Unit
  | [] => return
  | r :: rest => do
    Action.note (.count (.probes r.isOk) 1)
    countResults rest

def healthCheck (settings : ProbeSettings) (network : Network) (cluster : Int) :
    Action (List NodeHealth) := do
  Action.check (requireId "cluster_id" cluster)
  match ← Action.findCluster cluster with
  | none => throw (.notFound ⟨.cluster, cluster⟩)
  | some c =>
    let probe := Probe.ofPolicy settings (← Action.check c.policy)
    let nodes ← storedNodes (← Action.ask (.enabledNodes cluster))
    let results := (network.order nodes).map (checkNode network probe)
    countResults results
    return inIdOrder results

end Fleet
