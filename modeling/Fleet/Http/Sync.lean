import Fleet.Firewall
import Fleet.Http.Handler
import Fleet.Sync

/-!
# The listener for nodes

What nodes ask for and report. Nobody is asked who they are, so nothing here writes a record: a node
can only acknowledge its version and report firewall events.
-/

namespace Fleet.Http

open Handler

/-- The resources of the listener. Parts of a path are still encoded. -/
inductive SyncRoute where
  | health
  | pending
  | config (kind id : List Char)
  | nodeConfig (id : List Char)
  | nodeAck (id : List Char)
  | firewallEvents
deriving DecidableEq, Repr, Inhabited

namespace SyncRoute

/-- The resource of a path. Only a part at the end of the path may not be empty. -/
def ofSegments? (segments : List (List Char)) : Option SyncRoute :=
  match segments.map String.ofList with
  | ["healthz"] => some .health
  | ["api", "v1", "sync", "pending"] => some .pending
  | ["api", "v1", "sync", "config", kind, id] =>
    if id.isEmpty then none else some (.config kind.toList id.toList)
  | ["api", "v1", "sync", "nodes", id, "config"] => some (.nodeConfig id.toList)
  | ["api", "v1", "sync", "nodes", id, "ack"] => some (.nodeAck id.toList)
  | ["api", "v1", "firewall", "events"] => some .firewallEvents
  | _ => none

def method : SyncRoute → Method
  | .nodeAck _ | .firewallEvents => .post
  | _ => .get

end SyncRoute

/-! ## Documents -/

def ackFields : Json.Fields Nat := .required "version" Json.Decoder.nat64

def versionJson (v : NodeVersion) : Json :=
  .object (v.members ++ [("pending", .bool v.isPending)])

/-! ## Handlers -/

/-- The scope that a query asks for; it may be named once. -/
def queryScope (query : List Char) : Handler PendingScope :=
  match (formPairs query).filter (·.1 = "scope") with
  | [] => pure .nodes
  | [(_, text)] => word (PendingScope.ofText text)
  | _ => reject 400

def pendingHandler (query : List Char) : Handler Response := do
  let scope ← queryScope query
  let ids ← act (listPending scope)
  return json (.object [("scope", scope.toJson), ("ids", .ofList .int ids.toList)])

def configHandler (kind id : List Char) : Handler Response := do
  let kind ← segment kind
  let id ← idSegment id
  let kind ← word (Kind.ofText kind)
  match ← act (fetch ⟨kind, id⟩) with
  | some config => return json config.toJson
  | none => fail (.ofFailure (.notFound ⟨kind, id⟩))

def nodeConfigHandler (id : List Char) : Handler Response := do
  let id ← idSegment id
  match ← act (fetchNode id) with
  | some snapshot => return json snapshot.toJson
  | none => fail (.ofFailure (.notFound ⟨.node, id⟩))

def ackHandler (id : List Char) (r : Request) : Handler Response := do
  let id ← idSegment id
  let version ← body ackFields.decoder r
  return json (versionJson (← act (ackNode id version)))

def firewallHandler (outbox : Outbox) (r : Request) : Handler (Response × Outbox) := do
  let report ← body FirewallReport.decoder r
  ExceptT.mk do
    match ← report.deliver outbox with
    | (.ok id, outbox) => return .ok (json (.object [("taskId", .ofOption .int id)]), outbox)
    | (.error f, _) => return .error (ApiError.ofFailure f).response

def SyncRoute.serve (route : SyncRoute) (outbox : Outbox) (r : Request) :
    Program (Response × Outbox) :=
  let keep := fun (h : Handler Response) => (·, outbox) <$> response h
  match route with
  | .health => return (⟨200, .text "ok"⟩, outbox)
  | .pending => keep (pendingHandler r.query)
  | .config kind id => keep (configHandler kind id)
  | .nodeConfig id => keep (nodeConfigHandler id)
  | .nodeAck id => keep (ackHandler id r)
  | .firewallEvents => do
    match ← (firewallHandler outbox r).run with
    | .ok result => return result
    | .error response => return (response, outbox)

def serveSync (outbox : Outbox) (r : Request) : Program (Response × Outbox) :=
  match SyncRoute.ofSegments? r.segments with
  | none => return (⟨404, .none⟩, outbox)
  | some route =>
    if !route.method.serves r.method then return (⟨405, .none⟩, outbox)
    else do
      let (response, outbox) ← route.serve outbox r
      return (if r.method = headMethod then response.head else response, outbox)

end Fleet.Http
