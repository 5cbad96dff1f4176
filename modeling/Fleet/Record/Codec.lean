import Fleet.Json.Fields
import Fleet.Record.Basic

/-!
# Records as documents

The JSON form of records and of their parts. Every field of a record may be missing; the parts that
stand inside references ask for some of theirs.
-/

namespace Fleet

open Json Json.Decoder Json.Fields

/-! ## Names -/

def Kind.decoder : Json.Decoder Kind := oneOf Kind.names

def Kind.toJson (k : Kind) : Json := .string k.name

def EntityState.decoder : Json.Decoder EntityState := oneOf EntityState.names

def EntityState.toJson (s : EntityState) : Json := .string s.name

def Protocol.decoder : Json.Decoder Protocol := oneOf Protocol.names

def Protocol.toJson (p : Protocol) : Json := .string p.name

namespace ServerType

def name : ServerType → String
  | .httpProxy => "http_proxy"
  | .httpWeb => "http_web"
  | .tcpProxy => "tcp_proxy"
  | .udpProxy => "udp_proxy"

def names : List (String × ServerType) :=
  [.httpProxy, .httpWeb, .tcpProxy, .udpProxy].map fun t => (t.name, t)

def decoder : Json.Decoder ServerType := oneOf names

def toJson (t : ServerType) : Json := .string t.name

end ServerType

namespace TimeUnit

def name : TimeUnit → String
  | .ms => "ms"
  | .second => "second"
  | .minute => "minute"
  | .hour => "hour"

def names : List (String × TimeUnit) := [.ms, .second, .minute, .hour].map fun u => (u.name, u)

def decoder : Json.Decoder TimeUnit := oneOf names

def toJson (u : TimeUnit) : Json := .string u.name

end TimeUnit

/-! ## Parts -/

namespace EntityRef

def fields : Fields EntityRef :=
  EntityRef.mk <$> required "kind" Kind.decoder <*> required "id" int64

def decoder : Json.Decoder EntityRef := fields.decoder

def toJson (r : EntityRef) : Json := .object [("kind", r.kind.toJson), ("id", .int r.id)]

end EntityRef

namespace TimeDuration

def fields : Fields TimeDuration :=
  TimeDuration.mk <$> required "count" nat64 <*> defaulted "unit" TimeUnit.decoder .second

def decoder : Json.Decoder TimeDuration := fields.decoder

def toJson (d : TimeDuration) : Json := .object [("count", .nat d.count), ("unit", d.unit.toJson)]

end TimeDuration

namespace NetworkAddress

def fields : Fields NetworkAddress :=
  NetworkAddress.mk <$> required "protocol" string <*> required "host" string
    <*> required "portRange" string

def decoder : Json.Decoder NetworkAddress := fields.decoder

def toJson (a : NetworkAddress) : Json :=
  .object [("protocol", .string a.protocol), ("host", .string a.host),
    ("portRange", .string a.portRange)]

end NetworkAddress

namespace Scheduling

def fields : Fields Scheduling :=
  Scheduling.mk <$> required "code" string <*> defaulted "options" anyObject []

def decoder : Json.Decoder Scheduling := fields.decoder

def toJson (s : Scheduling) : Json :=
  .object [("code", .string s.code), ("options", .object s.options)]

end Scheduling

namespace HealthPolicy

def fields : Fields HealthPolicy :=
  HealthPolicy.mk <$> defaulted "isOn" bool false <*> defaulted "port" nat16 0
    <*> defaulted "urlPath" string "" <*> defaulted "timeout" (option TimeDuration.decoder) none

def decoder : Json.Decoder HealthPolicy := fields.decoder

def toJson (p : HealthPolicy) : Json :=
  .object [("isOn", .bool p.isOn), ("port", .nat p.port), ("urlPath", .string p.urlPath),
    ("timeout", .ofOption TimeDuration.toJson p.timeout)]

end HealthPolicy

namespace ReverseProxyRef

def fields : Fields ReverseProxyRef :=
  ReverseProxyRef.mk <$> required "reverseProxyId" int64 <*> defaulted "isOn" bool true
    <*> defaulted "isPrior" bool false

def decoder : Json.Decoder ReverseProxyRef := fields.decoder

def toJson (r : ReverseProxyRef) : Json :=
  .object [("reverseProxyId", .int r.reverseProxyId), ("isOn", .bool r.isOn),
    ("isPrior", .bool r.isPrior)]

end ReverseProxyRef

namespace OriginRef

def fields : Fields OriginRef :=
  OriginRef.mk <$> required "originId" int64 <*> defaulted "isOn" bool true

def decoder : Json.Decoder OriginRef := fields.decoder

def toJson (r : OriginRef) : Json := .object [("originId", .int r.originId), ("isOn", .bool r.isOn)]

end OriginRef

/-! ## Records -/

/-- The reference in a field that may be left out. -/
def refField (name : String) : Fields RefText := defaulted name RefText.decoder .empty

namespace Cluster

def fields : Fields Cluster :=
  Cluster.mk <$> defaulted "id" int64 0 <*> defaulted "state" EntityState.decoder .enabled
    <*> defaulted "name" string "" <*> defaulted "install_dir" string ""
    <*> defaulted "use_all_api_nodes" bool false <*> refField "api_nodes" <*> refField "health_check"

def decoder : Json.Decoder Cluster := fields.decoder

def toJson (r : Cluster) : Json :=
  .object [("id", .int r.id), ("state", r.state.toJson), ("name", .string r.name),
    ("install_dir", .string r.installDir), ("use_all_api_nodes", .bool r.useAllApiNodes),
    ("api_nodes", r.apiNodes.toJson), ("health_check", r.healthCheck.toJson)]

end Cluster

namespace Node

def fields : Fields Node :=
  Node.mk <$> defaulted "id" int64 0 <*> defaulted "cluster_id" int64 0
    <*> defaulted "state" EntityState.decoder .enabled <*> defaulted "is_on" bool true
    <*> defaulted "name" string "" <*> refField "access_addrs"

def decoder : Json.Decoder Node := fields.decoder

def toJson (r : Node) : Json :=
  .object [("id", .int r.id), ("cluster_id", .int r.clusterId), ("state", r.state.toJson),
    ("is_on", .bool r.isOn), ("name", .string r.name), ("access_addrs", r.accessAddrs.toJson)]

end Node

namespace Server

def fields : Fields Server :=
  Server.mk <$> defaulted "id" int64 0 <*> defaulted "cluster_id" int64 0
    <*> defaulted "state" EntityState.decoder .enabled <*> defaulted "is_on" bool true
    <*> defaulted "name" string "" <*> defaulted "server_type" ServerType.decoder .httpProxy
    <*> refField "group_ids" <*> refField "http_reverse_proxy" <*> refField "tcp_reverse_proxy"
    <*> refField "udp_reverse_proxy"

def decoder : Json.Decoder Server := fields.decoder

def toJson (r : Server) : Json :=
  .object [("id", .int r.id), ("cluster_id", .int r.clusterId), ("state", r.state.toJson),
    ("is_on", .bool r.isOn), ("name", .string r.name), ("server_type", r.serverType.toJson),
    ("group_ids", r.groupIds.toJson), ("http_reverse_proxy", r.httpReverseProxy.toJson),
    ("tcp_reverse_proxy", r.tcpReverseProxy.toJson),
    ("udp_reverse_proxy", r.udpReverseProxy.toJson)]

end Server

namespace ServerGroup

def fields : Fields ServerGroup :=
  ServerGroup.mk <$> defaulted "id" int64 0 <*> defaulted "state" EntityState.decoder .enabled
    <*> defaulted "is_on" bool true <*> defaulted "name" string "" <*> defaulted "order" int32 0
    <*> refField "http_reverse_proxy" <*> refField "tcp_reverse_proxy"
    <*> refField "udp_reverse_proxy"

def decoder : Json.Decoder ServerGroup := fields.decoder

def toJson (r : ServerGroup) : Json :=
  .object [("id", .int r.id), ("state", r.state.toJson), ("is_on", .bool r.isOn),
    ("name", .string r.name), ("order", .int r.order),
    ("http_reverse_proxy", r.httpReverseProxy.toJson),
    ("tcp_reverse_proxy", r.tcpReverseProxy.toJson),
    ("udp_reverse_proxy", r.udpReverseProxy.toJson)]

end ServerGroup

namespace ReverseProxy

def fields : Fields ReverseProxy :=
  ReverseProxy.mk <$> defaulted "id" int64 0 <*> defaulted "state" EntityState.decoder .enabled
    <*> defaulted "is_on" bool true <*> refField "scheduling" <*> refField "primary_origins"
    <*> refField "backup_origins" <*> defaulted "request_host" string ""
    <*> defaulted "strip_prefix" string ""

def decoder : Json.Decoder ReverseProxy := fields.decoder

def toJson (r : ReverseProxy) : Json :=
  .object [("id", .int r.id), ("state", r.state.toJson), ("is_on", .bool r.isOn),
    ("scheduling", r.scheduling.toJson), ("primary_origins", r.primaryOrigins.toJson),
    ("backup_origins", r.backupOrigins.toJson), ("request_host", .string r.requestHost),
    ("strip_prefix", .string r.stripPrefix)]

end ReverseProxy

namespace Origin

/-- A duration in a field that may be null or left out. -/
def timeoutField (name : String) : Fields (Option TimeDuration) :=
  defaulted name (option TimeDuration.decoder) none

def fields : Fields Origin :=
  Origin.mk <$> defaulted "id" int64 0 <*> defaulted "state" EntityState.decoder .enabled
    <*> defaulted "is_on" bool true <*> defaulted "name" string "" <*> defaulted "description" string ""
    <*> defaulted "addr" NetworkAddress.decoder ⟨"", "", ""⟩ <*> defaulted "weight" nat32 0
    <*> timeoutField "conn_timeout" <*> timeoutField "read_timeout" <*> timeoutField "idle_timeout"
    <*> defaulted "max_conns" nat32 0 <*> defaulted "max_idle_conns" nat32 0
    <*> defaulted "domains" (list string) []

def decoder : Json.Decoder Origin := fields.decoder

def toJson (r : Origin) : Json :=
  .object [("id", .int r.id), ("state", r.state.toJson), ("is_on", .bool r.isOn),
    ("name", .string r.name), ("description", .string r.description), ("addr", r.addr.toJson),
    ("weight", .nat r.weight), ("conn_timeout", .ofOption TimeDuration.toJson r.connTimeout),
    ("read_timeout", .ofOption TimeDuration.toJson r.readTimeout),
    ("idle_timeout", .ofOption TimeDuration.toJson r.idleTimeout), ("max_conns", .nat r.maxConns),
    ("max_idle_conns", .nat r.maxIdleConns), ("domains", .ofList .string r.domains)]

end Origin

namespace Record

def decoder : Kind → Json.Decoder Record
  | .cluster => fun c r => .cluster <$> Cluster.decoder c r
  | .node => fun c r => .node <$> Node.decoder c r
  | .server => fun c r => .server <$> Server.decoder c r
  | .serverGroup => fun c r => .serverGroup <$> ServerGroup.decoder c r
  | .reverseProxy => fun c r => .reverseProxy <$> ReverseProxy.decoder c r
  | .origin => fun c r => .origin <$> Origin.decoder c r

def toJson : Record → Json
  | .cluster r => r.toJson
  | .node r => r.toJson
  | .server r => r.toJson
  | .serverGroup r => r.toJson
  | .reverseProxy r => r.toJson
  | .origin r => r.toJson

end Record

end Fleet
