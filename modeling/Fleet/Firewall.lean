import Fleet.Message
import Fleet.Store.Program
import Fleet.Text.Calendar

/-!
# Firewall events

A hit of a firewall rule that a node reports becomes a message to the operators. A node that is not
stored or in no cluster makes no message.
-/

namespace Fleet

open Json Json.Decoder Json.Fields

structure FirewallEvent where
  serverId : Int
  ruleGroup : String
  ruleSet : String
  /-- Seconds since 1970 at which the node saw the hit. -/
  createdAt : Int
deriving DecidableEq, Repr, Inhabited

/-- An event with the node that reports it. -/
structure FirewallReport where
  nodeId : Int
  event : FirewallEvent
deriving DecidableEq, Repr, Inhabited

namespace FirewallEvent

def fields : Fields FirewallEvent :=
  FirewallEvent.mk <$> required "serverId" int64 <*> defaulted "ruleGroup" string ""
    <*> defaulted "ruleSet" string "" <*> required "createdAt" int64

def decoder : Json.Decoder FirewallEvent := fields.decoder

def members (e : FirewallEvent) : List (String × Json) :=
  [("serverId", .int e.serverId), ("ruleGroup", .string e.ruleGroup),
    ("ruleSet", .string e.ruleSet), ("createdAt", .int e.createdAt)]

def toJson (e : FirewallEvent) : Json := .object e.members

end FirewallEvent

namespace FirewallReport

def decoder : Json.Decoder FirewallReport :=
  Fields.spread (required "nodeId" int64) FirewallEvent.fields FirewallReport.mk

def toJson (r : FirewallReport) : Json := .object (("nodeId", .int r.nodeId) :: r.event.members)

end FirewallReport

/-! ## Messages -/

/-- A name with the id it belongs to. -/
def named (label name : String) (id : Int) : String :=
  label ++ ": " ++ name ++ " (ID: " ++ Text.intText id ++ ")\n"

def FirewallEvent.message (e : FirewallEvent) (node : Node) (clusterName serverName : String) :
    MessageDraft where
  target := ⟨node.clusterId, node.id, e.serverId⟩
  messageType := .firewallEvent
  subject := "Firewall event"
  body := named "Cluster" clusterName node.clusterId ++ named "Node" node.name node.id
    ++ named "Server" serverName e.serverId ++ "Rule group: " ++ e.ruleGroup ++ "\nRule set: "
    ++ e.ruleSet ++ "\nTime: " ++ Text.timeText e.createdAt

/-- The message of a report. A cluster that is not stored, and a server that is not stored or not
enabled, are named by nothing. -/
def FirewallReport.message? (r : FirewallReport) : Action (Option MessageDraft) := do
  Action.check (requireId "node_id" r.nodeId)
  match ← Action.findNode r.nodeId with
  | none => return none
  | some node =>
    if node.clusterId ≤ 0 then return none
    let cluster ← Action.findCluster node.clusterId
    let server ← Action.findServer r.event.serverId
    let serverName := (server.filter (·.state.isEnabled)).elim "" (·.name)
    return some (r.event.message node (cluster.elim "" (·.name)) serverName)

/-- Records the message of a report, if it makes one, and tells its number. -/
def FirewallReport.deliver (r : FirewallReport) (outbox : Outbox) :
    Program (Except Failure (Option Int) × Outbox) := do
  match ← r.message?.run with
  | .ok (some draft) =>
    let (id, outbox) := outbox.record draft
    return (.ok (some id), outbox)
  | .ok none => return (.ok none, outbox)
  | .error e => return (.error e, outbox)

end Fleet
