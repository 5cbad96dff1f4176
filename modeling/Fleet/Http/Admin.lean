import Fleet.Health.Check
import Fleet.Http.Handler
import Fleet.Message
import Fleet.Mutation

/-!
# The listener for operators

The mutations, and what operators look at. Every request has to bring the current key, and without it
nothing else of the request is looked at.
-/

namespace Fleet.Http

open Handler Json.Decoder

/-! ## The key -/

def bearer : List Char := "Bearer ".toList

/-- The request brings the key, which is not empty. -/
def hasKey (key : String) (r : Request) : Bool :=
  key ≠ "" && (r.header? "authorization").bind visibleText? = some (bearer ++ key.toList)

/-! ## Routes -/

/-- The resources of the listener. Parts of a path are still encoded. -/
inductive AdminRoute where
  | status
  | messages
  | save (kind : Kind)
  | groupOrders
  | groupProxy (id protocol : List Char)
  | healthCheck (cluster : List Char)
  | setState (kind id : List Char) (enabled : Bool)
deriving DecidableEq, Repr, Inhabited

namespace AdminRoute

/-- The names of the collections that records are saved to. -/
def collections : List (String × Kind) :=
  [("clusters", .cluster), ("nodes", .node), ("servers", .server), ("groups", .serverGroup),
    ("reverse-proxies", .reverseProxy), ("origins", .origin)]

/-- The resource of a path. Only a part at the end of the path may not be empty. -/
def ofSegments? (segments : List (List Char)) : Option AdminRoute :=
  match segments.map String.ofList with
  | ["admin", "status"] => some .status
  | ["admin", "messages"] => some .messages
  | ["admin", collection] => (collections.lookup collection).map .save
  | ["admin", "groups", "orders"] => some .groupOrders
  | ["admin", "groups", id, "reverse-proxy", protocol] =>
    if protocol.isEmpty then none else some (.groupProxy id.toList protocol.toList)
  | ["admin", "clusters", id, "health-check", "execute"] => some (.healthCheck id.toList)
  | ["admin", "entities", kind, id, "disable"] => some (.setState kind.toList id.toList false)
  | ["admin", "entities", kind, id, "enable"] => some (.setState kind.toList id.toList true)
  | _ => none

def method : AdminRoute → Method
  | .status | .messages => .get
  | .save _ => .put
  | _ => .post

end AdminRoute

/-! ## Documents -/

def version : String := "0.1.0"

def statusJson (pendingNodes : Nat) : Json :=
  .object [("version", .string version), ("status", .string "operational"),
    ("pendingNodes", .nat pendingNodes)]

def healthJson (cluster : Int) (results : List NodeHealth) : Json :=
  .object [("clusterId", .int cluster), ("results", .ofList NodeHealth.toJson results)]

/-- The proxy that a group is to have; none clears it. -/
def groupProxyFields : Json.Fields (Option ReverseProxyRef) :=
  .defaulted "reverseProxyRef" (option ReverseProxyRef.decoder) none

def groupOrdersFields : Json.Fields (List Int) := .required "groupIds" (list int64)

/-! ## Handlers -/

structure AdminContext where
  probes : ProbeSettings
  network : Network
  outbox : Outbox

def statusHandler : Handler Response := do
  return json (statusJson (← act (Action.ask .pendingNodes)).length)

def saveHandler (kind : Kind) (r : Request) : Handler Response := do
  let record ← body (Record.decoder kind) r
  return json (← act (saveRecord record)).toJson

def groupOrdersHandler (r : Request) : Handler Response := do
  let ids ← body groupOrdersFields.decoder r
  return json (← act (orderGroups ids)).toJson

def groupProxyHandler (id protocol : List Char) (r : Request) : Handler Response := do
  let id ← idSegment id
  let protocol ← segment protocol
  let proxy ← body groupProxyFields.decoder r
  let protocol ← word (Protocol.ofText protocol)
  return json (← act (setGroupProxy id protocol proxy)).toJson

def healthCheckHandler (c : AdminContext) (cluster : List Char) : Handler Response := do
  let id ← idSegment cluster
  return json (healthJson id (← act (Fleet.healthCheck c.probes c.network id)))

def setStateHandler (kind id : List Char) (enabled : Bool) : Handler Response := do
  let kind ← segment kind
  let id ← idSegment id
  let kind ← word (Kind.ofText kind)
  return json (← act (Fleet.setState ⟨kind, id⟩ enabled)).toJson

def AdminRoute.serve (route : AdminRoute) (c : AdminContext) (r : Request) : Program Response :=
  match route with
  | .status => response statusHandler
  | .messages => return json (.ofList Message.toJson c.outbox.messages)
  | .save kind => response (saveHandler kind r)
  | .groupOrders => response (groupOrdersHandler r)
  | .groupProxy id protocol => response (groupProxyHandler id protocol r)
  | .healthCheck cluster => response (healthCheckHandler c cluster)
  | .setState kind id enabled => response (setStateHandler kind id enabled)

/-- The response to a request that brings the key. -/
def serveKeyed (c : AdminContext) (r : Request) : Program Response :=
  match AdminRoute.ofSegments? r.segments with
  | none => return ⟨404, .none⟩
  | some route => if route.method.serves r.method then route.serve c r else return ⟨405, .none⟩

/-- The response to a request, where the key is the current one. -/
def serveAdmin (key : String) (c : AdminContext) (r : Request) : Program Response :=
  if hasKey key r then do
    let response ← serveKeyed c r
    return if r.method = headMethod then response.head else response
  else return ⟨401, .none⟩

end Fleet.Http
