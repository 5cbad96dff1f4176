import Fleet.Config.Basic
import Fleet.Record.Codec

/-!
# Configs on the wire

The JSON form of configs. A config travels with its kind, as an object of the two or as an array of
them; in an object they may come in either order.
-/

namespace Fleet

open Json Json.Decoder Json.Fields

namespace OriginConfig

def fields : Fields OriginConfig :=
  OriginConfig.mk <$> required "id" int64 <*> required "isOn" bool <*> required "name" string
    <*> required "description" string <*> required "addr" NetworkAddress.decoder
    <*> required "weight" nat32 <*> optional "connTimeout" TimeDuration.decoder
    <*> optional "readTimeout" TimeDuration.decoder <*> optional "idleTimeout" TimeDuration.decoder
    <*> required "maxConns" nat32 <*> required "maxIdleConns" nat32
    <*> required "domains" (list string)

def decoder : Json.Decoder OriginConfig := fields.decoder

def toJson (c : OriginConfig) : Json :=
  .object [("id", .int c.id), ("isOn", .bool c.isOn), ("name", .string c.name),
    ("description", .string c.description), ("addr", c.addr.toJson), ("weight", .nat c.weight),
    ("connTimeout", .ofOption TimeDuration.toJson c.connTimeout),
    ("readTimeout", .ofOption TimeDuration.toJson c.readTimeout),
    ("idleTimeout", .ofOption TimeDuration.toJson c.idleTimeout), ("maxConns", .nat c.maxConns),
    ("maxIdleConns", .nat c.maxIdleConns), ("domains", .ofList .string c.domains)]

end OriginConfig

namespace ReverseProxyConfig

def fields : Fields ReverseProxyConfig :=
  ReverseProxyConfig.mk <$> required "id" int64 <*> required "isOn" bool
    <*> optional "scheduling" Scheduling.decoder
    <*> required "primaryOriginRefs" (list OriginRef.decoder)
    <*> required "backupOriginRefs" (list OriginRef.decoder)
    <*> required "primaryOrigins" (list OriginConfig.decoder)
    <*> required "backupOrigins" (list OriginConfig.decoder)
    <*> required "requestHost" string <*> required "stripPrefix" string

def decoder : Json.Decoder ReverseProxyConfig := fields.decoder

def toJson (c : ReverseProxyConfig) : Json :=
  .object [("id", .int c.id), ("isOn", .bool c.isOn),
    ("scheduling", .ofOption Scheduling.toJson c.scheduling),
    ("primaryOriginRefs", .ofList OriginRef.toJson c.primaryOriginRefs),
    ("backupOriginRefs", .ofList OriginRef.toJson c.backupOriginRefs),
    ("primaryOrigins", .ofList OriginConfig.toJson c.primaryOrigins),
    ("backupOrigins", .ofList OriginConfig.toJson c.backupOrigins),
    ("requestHost", .string c.requestHost), ("stripPrefix", .string c.stripPrefix)]

end ReverseProxyConfig

namespace ProxySlots

def slotFields (reference config : String) : Fields ProxySlot :=
  ProxySlot.mk <$> optional reference ReverseProxyRef.decoder
    <*> optional config ReverseProxyConfig.decoder

def fields : Fields ProxySlots :=
  ProxySlots.mk <$> slotFields "httpReverseProxyRef" "httpReverseProxy"
    <*> slotFields "tcpReverseProxyRef" "tcpReverseProxy"
    <*> slotFields "udpReverseProxyRef" "udpReverseProxy"

def decoder : Json.Decoder ProxySlots := fields.decoder

def slotMembers (reference config : String) (s : ProxySlot) : List (String × Json) :=
  [(reference, .ofOption ReverseProxyRef.toJson s.reference),
    (config, .ofOption ReverseProxyConfig.toJson s.config)]

def members (s : ProxySlots) : List (String × Json) :=
  slotMembers "httpReverseProxyRef" "httpReverseProxy" s.http
    ++ slotMembers "tcpReverseProxyRef" "tcpReverseProxy" s.tcp
    ++ slotMembers "udpReverseProxyRef" "udpReverseProxy" s.udp

def toJson (s : ProxySlots) : Json := .object s.members

end ProxySlots

namespace ServerGroupConfig

/-- The fields beside the slots. -/
def ownFields : Fields (ProxySlots → ServerGroupConfig) :=
  ServerGroupConfig.mk <$> required "id" int64 <*> required "name" string <*> required "isOn" bool
    <*> required "order" int32

def decoder : Json.Decoder ServerGroupConfig :=
  Fields.spread ownFields ProxySlots.fields fun f proxies => f proxies

def toJson (c : ServerGroupConfig) : Json :=
  .object ([("id", .int c.id), ("name", .string c.name), ("isOn", .bool c.isOn),
    ("order", .int c.order)] ++ c.proxies.members)

end ServerGroupConfig

namespace ServerConfig

/-- The fields beside the slots. -/
def ownFields : Fields (ProxySlots → ServerConfig) :=
  (fun id clusterId name isOn serverType groups proxies =>
      ⟨id, clusterId, name, isOn, serverType, proxies, groups⟩)
    <$> required "id" int64 <*> required "clusterId" int64 <*> required "name" string
    <*> required "isOn" bool <*> required "serverType" ServerType.decoder
    <*> required "groups" (list ServerGroupConfig.decoder)

def decoder : Json.Decoder ServerConfig :=
  Fields.spread ownFields ProxySlots.fields fun f proxies => f proxies

def toJson (c : ServerConfig) : Json :=
  .object ([("id", .int c.id), ("clusterId", .int c.clusterId), ("name", .string c.name),
    ("isOn", .bool c.isOn), ("serverType", c.serverType.toJson)] ++ c.proxies.members
    ++ [("groups", .ofList ServerGroupConfig.toJson c.groups)])

end ServerConfig

namespace ClusterConfig

def fields : Fields ClusterConfig :=
  ClusterConfig.mk <$> required "id" int64 <*> required "name" string <*> required "installDir" string
    <*> required "useAllApiNodes" bool <*> required "apiNodeIds" (list int64)
    <*> optional "healthCheck" HealthPolicy.decoder

def decoder : Json.Decoder ClusterConfig := fields.decoder

def toJson (c : ClusterConfig) : Json :=
  .object [("id", .int c.id), ("name", .string c.name), ("installDir", .string c.installDir),
    ("useAllApiNodes", .bool c.useAllApiNodes), ("apiNodeIds", .ofList .int c.apiNodeIds),
    ("healthCheck", .ofOption HealthPolicy.toJson c.healthCheck)]

end ClusterConfig

namespace NodeConfig

def fields : Fields NodeConfig :=
  NodeConfig.mk <$> required "id" int64 <*> required "name" string <*> required "isOn" bool
    <*> required "clusterId" int64 <*> required "accessAddrs" (list string)
    <*> optional "cluster" ClusterConfig.decoder <*> required "servers" (list ServerConfig.decoder)

def decoder : Json.Decoder NodeConfig := fields.decoder

def toJson (c : NodeConfig) : Json :=
  .object [("id", .int c.id), ("name", .string c.name), ("isOn", .bool c.isOn),
    ("clusterId", .int c.clusterId), ("accessAddrs", .ofList .string c.accessAddrs),
    ("cluster", .ofOption ClusterConfig.toJson c.cluster),
    ("servers", .ofList ServerConfig.toJson c.servers)]

end NodeConfig

/-! ## Configs with their kind -/

namespace Config

def bodyDecoder : Kind → Json.Decoder Config
  | .cluster => fun c r => .cluster <$> ClusterConfig.decoder c r
  | .node => fun c r => .node <$> NodeConfig.decoder c r
  | .server => fun c r => .server <$> ServerConfig.decoder c r
  | .serverGroup => fun c r => .serverGroup <$> ServerGroupConfig.decoder c r
  | .reverseProxy => fun c r => .reverseProxy <$> ReverseProxyConfig.decoder c r
  | .origin => fun c r => .origin <$> OriginConfig.decoder c r

def bodyJson : Config → Json
  | .cluster c => c.toJson
  | .node c => c.toJson
  | .server c => c.toJson
  | .serverGroup c => c.toJson
  | .reverseProxy c => c.toJson
  | .origin c => c.toJson

/-- What the members met so far say. -/
inductive Draft where
  | blank
  | kind (kind : Kind)
  /-- A config whose kind is still to come. -/
  | body (body : Reading)
  | config (config : Config)

def Draft.withKind (kind : Kind) : Draft → Except Refusal Draft
  | .blank => .ok (.kind kind)
  | .body value => .config <$> bodyDecoder kind .held value
  | _ => .error .mismatched

/-- Goes through the members of an object. A config that comes before its kind is read as a whole
first. -/
def object (c : Context) : Members → Draft → Except Refusal Config
  | .fault, _ | .member none _ _, _ => .error .malformed
  | .done, .config config => .ok config
  | .done, _ => .error .mismatched
  | .member (some key) value rest, draft => do
    if key = "kind" then
      match draft with
      | .kind _ | .config _ => throw .mismatched
      | draft =>
        let kind ← Kind.decoder c value
        object c rest (← draft.withKind kind)
    else if key = "config" then
      match draft with
      | .body _ | .config _ => throw .mismatched
      | .kind kind => object c rest (.config (← bodyDecoder kind c value))
      | .blank =>
        hold c value
        object c rest (.body value)
    else
      skip c value
      object c rest draft

/-- Takes the kind and then the config. -/
def array (c : Context) : Items → Except Refusal Config
  | .item kind (.item body rest) => do
    let kind ← Kind.decoder c kind
    let config ← bodyDecoder kind c body
    match rest with
    | .done => return config
    | .fault => throw .malformed
    | .item _ _ =>
      c.surplus
      return config
  | .item kind rest => do
    let _ ← Kind.decoder c kind
    match rest with
    | .fault => throw .malformed
    | _ => throw .mismatched
  | .done => .error .mismatched
  | .fault => .error .malformed

def decoder : Json.Decoder Config
  | c, .object members => do object (← c.enter) members .blank
  | c, .array items => do array (← c.enter) items
  | _, r => .error r.mismatch

def toJson (c : Config) : Json := .object [("kind", c.kind.toJson), ("config", c.bodyJson)]

end Config

namespace NodeSnapshot

def fields : Fields NodeSnapshot :=
  NodeSnapshot.mk <$> required "version" nat64 <*> required "config" NodeConfig.decoder

def decoder : Json.Decoder NodeSnapshot := fields.decoder

def toJson (s : NodeSnapshot) : Json :=
  .object [("version", .nat s.version), ("config", s.config.toJson)]

end NodeSnapshot

end Fleet
