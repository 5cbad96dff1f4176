import Fleet.Store.Basic

/-!
# Seeds

A document of initial records, a list for each kind.
-/

namespace Fleet

open Json.Decoder Json.Fields

structure Seed where
  clusters : List Cluster := []
  nodes : List Node := []
  servers : List Server := []
  groups : List ServerGroup := []
  reverseProxies : List ReverseProxy := []
  origins : List Origin := []
deriving DecidableEq, Repr, Inhabited

namespace Seed

def fields : Json.Fields Seed :=
  Seed.mk <$> defaulted "clusters" (list Cluster.decoder) [] <*> defaulted "nodes" (list Node.decoder) []
    <*> defaulted "servers" (list Server.decoder) []
    <*> defaulted "groups" (list ServerGroup.decoder) []
    <*> defaulted "reverse_proxies" (list ReverseProxy.decoder) []
    <*> defaulted "origins" (list Origin.decoder) []

def decoder : Json.Decoder Seed := fields.decoder

def toJson (s : Seed) : Json :=
  .object [("clusters", .ofList Cluster.toJson s.clusters), ("nodes", .ofList Node.toJson s.nodes),
    ("servers", .ofList Server.toJson s.servers), ("groups", .ofList ServerGroup.toJson s.groups),
    ("reverse_proxies", .ofList ReverseProxy.toJson s.reverseProxies),
    ("origins", .ofList Origin.toJson s.origins)]

def records (s : Seed) : List Record :=
  s.clusters.map .cluster ++ s.nodes.map .node ++ s.servers.map .server
    ++ s.groups.map .serverGroup ++ s.reverseProxies.map .reverseProxy ++ s.origins.map .origin

end Seed

/-- Saves the records of a seed, up to the first that fails. -/
def Store.loadSeed (s : Store) (seed : Seed) : Except StoreError Unit × Store :=
  s.saveAll seed.records

end Fleet
