import Fleet.Record.Basic

/-!
# Composed configs

What a node runs: the records with every reference resolved into the config it names. Nothing in a
config points back into the store.
-/

namespace Fleet

structure OriginConfig where
  id : Int
  isOn : Bool
  name : String
  description : String
  addr : NetworkAddress
  weight : Nat
  connTimeout : Option TimeDuration
  readTimeout : Option TimeDuration
  idleTimeout : Option TimeDuration
  maxConns : Nat
  maxIdleConns : Nat
  domains : List String
deriving DecidableEq, Repr, Inhabited

/-- An origin has no references, so its config is its record. -/
def Origin.config (r : Origin) : OriginConfig where
  id := r.id
  isOn := r.isOn
  name := r.name
  description := r.description
  addr := r.addr
  weight := r.weight
  connTimeout := r.connTimeout
  readTimeout := r.readTimeout
  idleTimeout := r.idleTimeout
  maxConns := r.maxConns
  maxIdleConns := r.maxIdleConns
  domains := r.domains

/-- The origins stand in the order of their references. -/
structure ReverseProxyConfig where
  id : Int
  isOn : Bool
  scheduling : Option Scheduling
  primaryOriginRefs : List OriginRef
  backupOriginRefs : List OriginRef
  primaryOrigins : List OriginConfig
  backupOrigins : List OriginConfig
  requestHost : String
  stripPrefix : String
deriving DecidableEq, Repr, Inhabited

/-- The proxy of one protocol. The reference stays when its target is disabled or missing. -/
structure ProxySlot where
  reference : Option ReverseProxyRef := none
  config : Option ReverseProxyConfig := none
deriving DecidableEq, Repr, Inhabited

/-- The proxies of a server or a group, one for each protocol. -/
structure ProxySlots where
  http : ProxySlot := {}
  tcp : ProxySlot := {}
  udp : ProxySlot := {}
deriving DecidableEq, Repr, Inhabited

namespace ProxySlots

def get (s : ProxySlots) : Protocol → ProxySlot
  | .http => s.http
  | .tcp => s.tcp
  | .udp => s.udp

def set (s : ProxySlots) (p : Protocol) (slot : ProxySlot) : ProxySlots :=
  match p with
  | .http => { s with http := slot }
  | .tcp => { s with tcp := slot }
  | .udp => { s with udp := slot }

theorem get_set (s : ProxySlots) (p q : Protocol) (slot : ProxySlot) :
    (s.set p slot).get q = if q = p then slot else s.get q := by
  cases p <;> cases q <;> rfl

/-- Changes the config of a slot that has one. -/
def modifyConfig (s : ProxySlots) (p : Protocol) (f : ReverseProxyConfig → ReverseProxyConfig) :
    ProxySlots :=
  s.set p { s.get p with config := (s.get p).config.map f }

end ProxySlots

structure ServerGroupConfig where
  id : Int
  name : String
  isOn : Bool
  order : Int
  proxies : ProxySlots
deriving DecidableEq, Repr, Inhabited

structure ServerConfig where
  id : Int
  clusterId : Int
  name : String
  isOn : Bool
  serverType : ServerType
  proxies : ProxySlots
  /-- The greater order comes first. -/
  groups : List ServerGroupConfig
deriving DecidableEq, Repr, Inhabited

structure ClusterConfig where
  id : Int
  name : String
  installDir : String
  useAllApiNodes : Bool
  apiNodeIds : List Int
  healthCheck : Option HealthPolicy
deriving DecidableEq, Repr, Inhabited

structure NodeConfig where
  id : Int
  name : String
  isOn : Bool
  clusterId : Int
  accessAddrs : List String
  cluster : Option ClusterConfig
  servers : List ServerConfig
deriving DecidableEq, Repr, Inhabited

inductive Config where
  | cluster (c : ClusterConfig)
  | node (c : NodeConfig)
  | server (c : ServerConfig)
  | serverGroup (c : ServerGroupConfig)
  | reverseProxy (c : ReverseProxyConfig)
  | origin (c : OriginConfig)
deriving DecidableEq, Repr, Inhabited

namespace Config

def kind : Config → Kind
  | .cluster _ => .cluster
  | .node _ => .node
  | .server _ => .server
  | .serverGroup _ => .serverGroup
  | .reverseProxy _ => .reverseProxy
  | .origin _ => .origin

def id : Config → Int
  | .cluster c => c.id
  | .node c => c.id
  | .server c => c.id
  | .serverGroup c => c.id
  | .reverseProxy c => c.id
  | .origin c => c.id

def cluster? : Config → Option ClusterConfig
  | .cluster c => some c
  | _ => none

def node? : Config → Option NodeConfig
  | .node c => some c
  | _ => none

def server? : Config → Option ServerConfig
  | .server c => some c
  | _ => none

def serverGroup? : Config → Option ServerGroupConfig
  | .serverGroup c => some c
  | _ => none

def reverseProxy? : Config → Option ReverseProxyConfig
  | .reverseProxy c => some c
  | _ => none

def origin? : Config → Option OriginConfig
  | .origin c => some c
  | _ => none

end Config

/-- A node's config with the version it was composed at. -/
structure NodeSnapshot where
  version : Nat
  config : NodeConfig
deriving DecidableEq, Repr, Inhabited

end Fleet
