import Fleet.Failure
import Fleet.Store.Basic

/-!
# Store calls

The calls that the rest of the control plane makes to the store, each one an atomic step with an
answer of its own type.
-/

namespace Fleet

inductive Call where
  | find (target : EntityRef)
  | enabledNodes (cluster : Int)
  | enabledServers (cluster : Int)
  | parents (child : EntityRef)
  | save (record : Record)
  | updateState (target : EntityRef) (state : EntityState)
  | mark (node : Int)
  | ack (node : Int) (version : Nat)
  | version (node : Int)
  | pendingNodes
deriving DecidableEq, Repr

namespace Call

abbrev Answer : Call → Type
  | .find _ => Option Record
  | .enabledNodes _ | .enabledServers _ | .pendingNodes => List Int
  | .parents _ => List EntityRef
  | .save _ => Int
  | .updateState _ _ => Bool
  | .mark _ => Nat
  | .ack _ _ | .version _ => NodeVersion

def isRead : Call → Bool
  | .find _ | .enabledNodes _ | .enabledServers _ | .parents _ | .version _ | .pendingNodes => true
  | _ => false

/-! ## Methods -/

/-- The calls by name, as faults and read counts tell them apart. -/
inductive Method where
  | find (kind : Kind)
  | enabledNodes
  | enabledServers
  | parents
  | save (kind : Kind)
  | updateState
  | mark
  | ack
  | version
  | pendingNodes
deriving DecidableEq, Repr, Inhabited

namespace Method

def name : Method → String
  | .find k => "find_" ++ k.name
  | .enabledNodes => "find_enabled_node_ids_with_cluster"
  | .enabledServers => "find_enabled_server_ids_with_cluster"
  | .parents => "find_parents"
  | .save k => "save_" ++ k.name
  | .updateState => "update_state"
  | .mark => "mark_node_pending"
  | .ack => "ack_node_version"
  | .version => "find_node_version"
  | .pendingNodes => "find_pending_node_ids"

def all : List Method :=
  Kind.all.map .find ++ Kind.all.map .save
    ++ [.enabledNodes, .enabledServers, .parents, .updateState, .mark, .ack, .version, .pendingNodes]

def names : List (String × Method) := all.map fun m => (m.name, m)

def isRead : Method → Bool
  | .save _ | .updateState | .mark | .ack => false
  | _ => true

end Method

def method : Call → Method
  | .find r => .find r.kind
  | .enabledNodes _ => .enabledNodes
  | .enabledServers _ => .enabledServers
  | .parents _ => .parents
  | .save r => .save r.kind
  | .updateState _ _ => .updateState
  | .mark _ => .mark
  | .ack _ _ => .ack
  | .version _ => .version
  | .pendingNodes => .pendingNodes

end Call

/-- The store's own answer to a call, and the store after it. -/
def Store.answer (s : Store) : (c : Call) → Except StoreError c.Answer × Store
  | .find r => (.ok (s.find? r), s)
  | .enabledNodes k => (.ok (s.enabledNodes k), s)
  | .enabledServers k => (.ok (s.enabledServers k), s)
  | .parents r => (.ok (s.parentsOf r), s)
  | .save r =>
    match s.save r with
    | .ok (id, s) => (.ok id, s)
    | .error e => (.error e, s)
  | .updateState r state =>
    let (found, s) := s.updateState r state
    (.ok found, s)
  | .mark n =>
    let s := s.mark n
    (.ok (s.version n).version, s)
  | .ack n v =>
    let s := s.ack n v
    (.ok (s.version n), s)
  | .version n => (.ok (s.version n), s)
  | .pendingNodes => (.ok s.pendingNodes, s)

theorem Store.answer_of_isRead {s : Store} {c : Call} (h : c.isRead = true) :
    (s.answer c).2 = s := by
  cases c <;> simp_all [Call.isRead, Store.answer]

end Fleet
