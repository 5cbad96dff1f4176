import Fleet.Record.Edges
import Fleet.Store.Index
import Fleet.Store.Version

/-!
# The store

All records by reference, the index of their edges, the next free id and the versions of the nodes.
A save that fails changes nothing.
-/

namespace Fleet

structure Store where
  records : OrdMap EntityRef Record := .empty
  index : EdgeIndex := {}
  /-- The id of the next record that comes without one. -/
  nextId : Int := 1
  versions : OrdMap Int NodeVersion := .empty
deriving Inhabited

namespace Store

def empty : Store := {}

/-! ## Reading -/

def find? (s : Store) (r : EntityRef) : Option Record := s.records.find? r

def isEnabled (s : Store) (r : EntityRef) : Bool := (s.find? r).any Record.isEnabled

/-- The ids of the enabled nodes of a cluster, ascending. -/
def enabledNodes (s : Store) (cluster : Int) : List Int :=
  (s.records.values.filterMap Record.node?).filterMap fun n =>
    if n.clusterId = cluster && n.state.isEnabled then some n.id else none

/-- The ids of the enabled servers of a cluster, ascending. -/
def enabledServers (s : Store) (cluster : Int) : List Int :=
  (s.records.values.filterMap Record.server?).filterMap fun r =>
    if r.clusterId = cluster && r.state.isEnabled then some r.id else none

/-- The enabled entities that refer to an entity, ascending. -/
def parentsOf (s : Store) (child : EntityRef) : List EntityRef :=
  (s.index.parentsOf child).filter s.isEnabled

def edgeCount (s : Store) : Nat := s.index.edgeCount

def version (s : Store) (node : Int) : NodeVersion := (s.versions.find? node).getD {}

/-- The ids of the enabled nodes with a version they have not applied, ascending. -/
def pendingNodes (s : Store) : List Int :=
  (s.versions.entries.filter fun e => e.2.isPending && s.isEnabled ⟨.node, e.1⟩).map (·.1)

/-! ## Writing -/

/-- Stores a record under its own reference. -/
def put (s : Store) (r : Record) : Store :=
  { s with
    index := s.index.replace r.ref r.edges
    records := s.records.insert r.ref r }

/-- Stores a record and returns its id. A record without a positive id gets the next free one; ids
end below the greatest number of 64 bits. -/
def save (s : Store) (r : Record) : Except StoreError (Int × Store) :=
  if r.id ≤ 0 then
    if s.nextId < Text.maxInt64 then
      .ok (s.nextId, { s with nextId := s.nextId + 1 }.put (r.withId s.nextId))
    else .error (.query "entity id space exhausted")
  else if r.id < Text.maxInt64 then
    .ok (r.id, { s with nextId := max s.nextId (r.id + 1) }.put r)
  else
    .error (.query (r.kind.name ++ " id " ++ Text.intText r.id ++ " leaves no room for new ids"))

def updateState (s : Store) (target : EntityRef) (state : EntityState) : Bool × Store :=
  match s.find? target with
  | some r => (true, { s with records := s.records.insert target (r.withState state) })
  | none => (false, s)

def setVersion (s : Store) (node : Int) (v : NodeVersion) : Store :=
  { s with versions := s.versions.insert node v }

def mark (s : Store) (node : Int) : Store := s.setVersion node (s.version node).mark

/-- Records the version that a node reports as applied. -/
def ack (s : Store) (node : Int) (reported : Nat) : Store :=
  s.setVersion node ((s.version node).ack reported)

/-! ## Seeds -/

/-- Saves the records in order, up to the first that fails. -/
def saveAll (s : Store) : List Record → Except StoreError Unit × Store
  | [] => (.ok (), s)
  | r :: rest =>
    match s.save r with
    | .ok (_, s) => s.saveAll rest
    | .error e => (.error e, s)

end Store

end Fleet
