import Fleet.Record.Codec

/-!
# Declared edges

The edges that a record declares by its references. A reference that does not decode, or that names
no positive id, declares none; a name may be given twice.
-/

namespace Fleet

open Json.Decoder

/-- What a reference decodes to, where a malformed one counts as none. -/
def RefText.decoded? {α : Type} (d : Json.Decoder α) (r : RefText) : Option α :=
  match r.decode d with
  | .ok a => a
  | .error _ => none

/-- The edges from entities of one kind to the record that names them. -/
def edgesTo (parent : EntityRef) (kind : Kind) (ids : List Int) : List Edge :=
  (ids.filter (0 < ·)).map fun id => ⟨⟨kind, id⟩, parent⟩

/-- The ids that the proxy slots name, in the order of the protocols. -/
def slotIds (slot : Protocol → RefText) : List Int :=
  Protocol.all.filterMap fun p => ((slot p).decoded? ReverseProxyRef.decoder).map (·.reverseProxyId)

/-- The ids of origins that a list of references names. -/
def originIds (r : RefText) : List Int :=
  ((r.decoded? (list OriginRef.decoder)).getD []).map (·.originId)

def Server.edges (s : Server) : List Edge :=
  let me : EntityRef := ⟨.server, s.id⟩
  (if 0 < s.clusterId then [⟨me, ⟨.cluster, s.clusterId⟩⟩] else [])
    ++ edgesTo me .serverGroup ((s.groupIds.decoded? (list int64)).getD [])
    ++ edgesTo me .reverseProxy (slotIds s.slot)

def ServerGroup.edges (g : ServerGroup) : List Edge :=
  edgesTo ⟨.serverGroup, g.id⟩ .reverseProxy (slotIds g.slot)

def ReverseProxy.edges (r : ReverseProxy) : List Edge :=
  edgesTo ⟨.reverseProxy, r.id⟩ .origin (originIds r.primaryOrigins ++ originIds r.backupOrigins)

/-- The edges that a record declares, in the order of its fields. -/
def Record.edges : Record → List Edge
  | .server s => s.edges
  | .serverGroup g => g.edges
  | .reverseProxy r => r.edges
  | _ => []

end Fleet
