import Fleet.Config.Cache
import Fleet.Store.Program

/-!
# Composition

From a reference to the config of the entity, downwards through the references that the records
keep. A missing or disabled entity is absent; a reference that does not decode ends the composition.
Kinds refer downwards only, so each kind is composed by those before it.
-/

namespace Fleet

/-- A program that may fail and carries the cache along, also when it fails. -/
abbrev Composing (α : Type) := ExceptT Failure (StateT Cache Program) α

namespace Composing

variable {α β : Type}

def ofAction (a : Action α) : Composing α :=
  ExceptT.mk fun cache => do return (← a.run, cache)

def note (m : Measure) : Composing Unit := ofAction (Action.note m)

/-- What follows on what the cache answers; a hit is measured. -/
def looked (key : EntityRef) (cache : Cache) :
    Except Failure (Lookup × Cache) → Program (Except Failure Lookup × Cache)
  | .error e => .done (.error e, cache)
  | .ok (.hit config, cache) =>
    .note (.count (.cacheHits key.kind) 1) (.done (.ok (.hit config), cache))
  | .ok (l, cache) => .done (.ok l, cache)

def lookup (key : EntityRef) : Composing Lookup :=
  ExceptT.mk fun cache => looked key cache (cache.lookup key)

def update (f : Cache → Cache) : Composing Unit := ExceptT.lift (modify f)

/-- The value of a reference that a record keeps. -/
def reference (owner : EntityRef) (field : String) (d : Json.Decoder α) (r : RefText) :
    Composing (Option α) :=
  ExceptT.mk <| pure <|
    match r.decode d with
    | .ok a => .ok a
    | .error _ => .error (.undecodable owner field)

/-- Those of a list that are not absent, in order. -/
def present (f : β → Composing (Option α)) : List β → Composing (List α)
  | [] => pure []
  | b :: rest => do
    let a ← f b
    return a.toList ++ (← present f rest)

/-! ## One entity -/

/-- Keeps what was built; what failed leaves nothing behind. -/
def settled (key : EntityRef) (wrap : α → Config) (build : Composing (Option α)) :
    Composing (Option α) :=
  ExceptT.mk fun cache => do
    let (result, cache) ← build.run.run (cache.begin key)
    match result with
    | .ok a => return (.ok a, cache.settle key (a.map wrap))
    | .error e => return (.error e, cache.abandon key)

/-- Takes an entity from the cache or builds it. No positive id, no entity. -/
def cached (key : EntityRef) (wrap : α → Config) (unwrap : Config → Option α)
    (build : Composing (Option α)) : Composing (Option α) := do
  if key.id ≤ 0 then
    return none
  match ← lookup key with
  | .absent => return none
  | .miss => settled key wrap build
  | .hit config =>
    match unwrap config with
    | some a => return some a
    | none => settled key wrap build

/-! ## Origins -/

def buildOrigin (id : Int) : Composing (Option OriginConfig) := do
  match ← ofAction (Action.findOrigin id) with
  | none => return none
  | some r => return if r.state.isEnabled then some r.config else none

def origin (id : Int) : Composing (Option OriginConfig) :=
  cached ⟨.origin, id⟩ .origin Config.origin? (buildOrigin id)

/-! ## Reverse proxies -/

/-- The configs of the references that are on. -/
def origins (refs : List OriginRef) : Composing (List OriginConfig) :=
  present (fun r => origin r.originId) (refs.filter (·.isOn))

def fillReverseProxy (r : ReverseProxy) : Composing ReverseProxyConfig := do
  let me : EntityRef := ⟨.reverseProxy, r.id⟩
  let originRefs := Json.Decoder.list OriginRef.decoder
  let scheduling ← reference me "scheduling" Scheduling.decoder r.scheduling
  let primary ← reference me "primary_origins" originRefs r.primaryOrigins
  let backup ← reference me "backup_origins" originRefs r.backupOrigins
  let primaryOrigins ← origins (primary.getD [])
  let backupOrigins ← origins (backup.getD [])
  return {
    id := r.id
    isOn := r.isOn
    scheduling
    primaryOriginRefs := primary.getD []
    backupOriginRefs := backup.getD []
    primaryOrigins
    backupOrigins
    requestHost := r.requestHost
    stripPrefix := r.stripPrefix }

def buildReverseProxy (id : Int) : Composing (Option ReverseProxyConfig) := do
  match ← ofAction (Action.findReverseProxy id) with
  | none => return none
  | some r => if r.state.isEnabled then return some (← fillReverseProxy r) else return none

def reverseProxy (id : Int) : Composing (Option ReverseProxyConfig) :=
  cached ⟨.reverseProxy, id⟩ .reverseProxy Config.reverseProxy? (buildReverseProxy id)

/-! ## Slots -/

def slot (owner : EntityRef) (p : Protocol) (r : RefText) : Composing ProxySlot := do
  match ← reference owner p.field ReverseProxyRef.decoder r with
  | none => return {}
  | some ref => return ⟨some ref, ← reverseProxy ref.reverseProxyId⟩

def slots (owner : EntityRef) (r : Protocol → RefText) : Composing ProxySlots := do
  let http ← slot owner .http (r .http)
  let tcp ← slot owner .tcp (r .tcp)
  let udp ← slot owner .udp (r .udp)
  return { http, tcp, udp }

/-! ## Groups and servers -/

def fillServerGroup (g : ServerGroup) : Composing ServerGroupConfig := do
  let proxies ← slots ⟨.serverGroup, g.id⟩ g.slot
  return { id := g.id, name := g.name, isOn := g.isOn, order := g.order, proxies }

def buildServerGroup (id : Int) : Composing (Option ServerGroupConfig) := do
  match ← ofAction (Action.findServerGroup id) with
  | none => return none
  | some g => if g.state.isEnabled then return some (← fillServerGroup g) else return none

def serverGroup (id : Int) : Composing (Option ServerGroupConfig) :=
  cached ⟨.serverGroup, id⟩ .serverGroup Config.serverGroup? (buildServerGroup id)

/-- The greater order first; of equal orders, the one that was first stays first. -/
def ranked (groups : List ServerGroupConfig) : List ServerGroupConfig :=
  groups.mergeSort fun a b => decide (b.order ≤ a.order)

def fillServer (s : Server) : Composing ServerConfig := do
  let me : EntityRef := ⟨.server, s.id⟩
  let proxies ← slots me s.slot
  let groupIds ← reference me "group_ids" (Json.Decoder.list Json.Decoder.int64) s.groupIds
  let groups ← present serverGroup (groupIds.getD [])
  return {
    id := s.id
    clusterId := s.clusterId
    name := s.name
    isOn := s.isOn
    serverType := s.serverType
    proxies
    groups := ranked groups }

def buildServer (id : Int) : Composing (Option ServerConfig) := do
  match ← ofAction (Action.findServer id) with
  | none => return none
  | some s => if s.state.isEnabled then return some (← fillServer s) else return none

def server (id : Int) : Composing (Option ServerConfig) :=
  cached ⟨.server, id⟩ .server Config.server? (buildServer id)

/-! ## Clusters and nodes -/

def fillCluster (c : Cluster) : Composing ClusterConfig := do
  let me : EntityRef := ⟨.cluster, c.id⟩
  let apiNodes ← reference me "api_nodes" (Json.Decoder.list Json.Decoder.int64) c.apiNodes
  let healthCheck ← reference me "health_check" HealthPolicy.decoder c.healthCheck
  return {
    id := c.id
    name := c.name
    installDir := c.installDir
    useAllApiNodes := c.useAllApiNodes
    apiNodeIds := apiNodes.getD []
    healthCheck }

def buildCluster (id : Int) : Composing (Option ClusterConfig) := do
  match ← ofAction (Action.findCluster id) with
  | none => return none
  | some c => if c.state.isEnabled then return some (← fillCluster c) else return none

def cluster (id : Int) : Composing (Option ClusterConfig) :=
  cached ⟨.cluster, id⟩ .cluster Config.cluster? (buildCluster id)

/-- The enabled servers of a cluster that is there. -/
def clusterServers (cluster : Option ClusterConfig) (id : Int) : Composing (List ServerConfig) := do
  if cluster.isSome then
    present server (← ofAction (Action.ask (.enabledServers id)))
  else
    return []

def fillNode (n : Node) : Composing NodeConfig := do
  let me : EntityRef := ⟨.node, n.id⟩
  let addrs ← reference me "access_addrs" (Json.Decoder.list Json.Decoder.string) n.accessAddrs
  let cluster ← cluster n.clusterId
  let servers ← clusterServers cluster n.clusterId
  return {
    id := n.id
    name := n.name
    isOn := n.isOn
    clusterId := n.clusterId
    accessAddrs := addrs.getD []
    cluster
    servers }

def buildNode (id : Int) : Composing (Option NodeConfig) := do
  match ← ofAction (Action.findNode id) with
  | none => return none
  | some n => if n.state.isEnabled then return some (← fillNode n) else return none

def node (id : Int) : Composing (Option NodeConfig) :=
  cached ⟨.node, id⟩ .node Config.node? (buildNode id)

/-! ## Any entity -/

def entity (target : EntityRef) : Composing (Option Config) :=
  match target.kind with
  | .cluster => Option.map .cluster <$> cluster target.id
  | .node => Option.map .node <$> node target.id
  | .server => Option.map .server <$> server target.id
  | .serverGroup => Option.map .serverGroup <$> serverGroup target.id
  | .reverseProxy => Option.map .reverseProxy <$> reverseProxy target.id
  | .origin => Option.map .origin <$> origin target.id

end Composing

def ComposeOutcome.of : Except Failure (Option Config) → ComposeOutcome
  | .ok (some _) => .composed
  | .ok none => .absent
  | .error _ => .error

def compose (target : EntityRef) : Composing (Option Config) :=
  ExceptT.mk fun cache => do
    let (result, cache) ← (Composing.entity target).run.run cache
    .note (.count (.compositions target.kind (.of result)) 1)
      (.note (.composeTime target.kind) (.done (result, cache)))

/-- Composes an entity with a cache of its own. -/
def composeFresh (target : EntityRef) : Action (Option Config) :=
  ExceptT.mk do return (← (compose target).run.run .empty).1

end Fleet
