import Fleet.Record.Parts
import Fleet.Record.RefText

/-!
# Records

What the store keeps, one type per kind of entity, and their sum.
-/

namespace Fleet

/-- Nodes that run the same servers. -/
structure Cluster where
  id : Int := 0
  state : EntityState := .enabled
  name : String := ""
  installDir : String := ""
  /-- Nodes may talk to every API node, not only to `apiNodes`. -/
  useAllApiNodes : Bool := false
  /-- Ids of API nodes. -/
  apiNodes : RefText := .empty
  /-- A health policy. -/
  healthCheck : RefText := .empty
deriving DecidableEq, Repr, Inhabited

/-- A machine at the edge that fetches its config. -/
structure Node where
  id : Int := 0
  clusterId : Int := 0
  state : EntityState := .enabled
  isOn : Bool := true
  name : String := ""
  /-- Texts `host` or `host:port`. -/
  accessAddrs : RefText := .empty
deriving DecidableEq, Repr, Inhabited

inductive ServerType where
  | httpProxy
  | httpWeb
  | tcpProxy
  | udpProxy
deriving DecidableEq, Repr, Inhabited

/-- A service that every node of its cluster offers. -/
structure Server where
  id : Int := 0
  clusterId : Int := 0
  state : EntityState := .enabled
  isOn : Bool := true
  name : String := ""
  serverType : ServerType := .httpProxy
  /-- Ids of server groups. -/
  groupIds : RefText := .empty
  httpReverseProxy : RefText := .empty
  tcpReverseProxy : RefText := .empty
  udpReverseProxy : RefText := .empty
deriving DecidableEq, Repr, Inhabited

/-- Servers that share reverse proxies. -/
structure ServerGroup where
  id : Int := 0
  state : EntityState := .enabled
  isOn : Bool := true
  name : String := ""
  /-- The greater comes first. -/
  order : Int := 0
  httpReverseProxy : RefText := .empty
  tcpReverseProxy : RefText := .empty
  udpReverseProxy : RefText := .empty
deriving DecidableEq, Repr, Inhabited

/-- A way to origins. -/
structure ReverseProxy where
  id : Int := 0
  state : EntityState := .enabled
  isOn : Bool := true
  scheduling : RefText := .empty
  /-- References to origins. -/
  primaryOrigins : RefText := .empty
  /-- References to the origins that stand in for the primary ones. -/
  backupOrigins : RefText := .empty
  requestHost : String := ""
  stripPrefix : String := ""
deriving DecidableEq, Repr, Inhabited

/-- A machine that content comes from. -/
structure Origin where
  id : Int := 0
  state : EntityState := .enabled
  isOn : Bool := true
  name : String := ""
  description : String := ""
  addr : NetworkAddress := ⟨"", "", ""⟩
  weight : Nat := 0
  connTimeout : Option TimeDuration := none
  readTimeout : Option TimeDuration := none
  idleTimeout : Option TimeDuration := none
  maxConns : Nat := 0
  maxIdleConns : Nat := 0
  /-- The domains it serves; none means all. -/
  domains : List String := []
deriving DecidableEq, Repr, Inhabited

/-! ## Slots -/

def Server.slot (s : Server) : Protocol → RefText
  | .http => s.httpReverseProxy
  | .tcp => s.tcpReverseProxy
  | .udp => s.udpReverseProxy

def ServerGroup.slot (g : ServerGroup) : Protocol → RefText
  | .http => g.httpReverseProxy
  | .tcp => g.tcpReverseProxy
  | .udp => g.udpReverseProxy

def ServerGroup.withSlot (g : ServerGroup) (p : Protocol) (r : RefText) : ServerGroup :=
  match p with
  | .http => { g with httpReverseProxy := r }
  | .tcp => { g with tcpReverseProxy := r }
  | .udp => { g with udpReverseProxy := r }

theorem ServerGroup.slot_withSlot (g : ServerGroup) (p q : Protocol) (r : RefText) :
    (g.withSlot p r).slot q = if q = p then r else g.slot q := by
  cases p <;> cases q <;> rfl

/-! ## Records of every kind -/

inductive Record where
  | cluster (r : Cluster)
  | node (r : Node)
  | server (r : Server)
  | serverGroup (r : ServerGroup)
  | reverseProxy (r : ReverseProxy)
  | origin (r : Origin)
deriving DecidableEq, Repr, Inhabited

namespace Record

def kind : Record → Kind
  | .cluster _ => .cluster
  | .node _ => .node
  | .server _ => .server
  | .serverGroup _ => .serverGroup
  | .reverseProxy _ => .reverseProxy
  | .origin _ => .origin

def id : Record → Int
  | .cluster r => r.id
  | .node r => r.id
  | .server r => r.id
  | .serverGroup r => r.id
  | .reverseProxy r => r.id
  | .origin r => r.id

def withId (id : Int) : Record → Record
  | .cluster r => .cluster { r with id }
  | .node r => .node { r with id }
  | .server r => .server { r with id }
  | .serverGroup r => .serverGroup { r with id }
  | .reverseProxy r => .reverseProxy { r with id }
  | .origin r => .origin { r with id }

def state : Record → EntityState
  | .cluster r => r.state
  | .node r => r.state
  | .server r => r.state
  | .serverGroup r => r.state
  | .reverseProxy r => r.state
  | .origin r => r.state

def withState (state : EntityState) : Record → Record
  | .cluster r => .cluster { r with state }
  | .node r => .node { r with state }
  | .server r => .server { r with state }
  | .serverGroup r => .serverGroup { r with state }
  | .reverseProxy r => .reverseProxy { r with state }
  | .origin r => .origin { r with state }

def ref (r : Record) : EntityRef := ⟨r.kind, r.id⟩

def isEnabled (r : Record) : Bool := r.state.isEnabled

@[simp] theorem kind_withId (id : Int) (r : Record) : (r.withId id).kind = r.kind := by
  cases r <;> rfl

@[simp] theorem id_withId (id : Int) (r : Record) : (r.withId id).id = id := by cases r <;> rfl

@[simp] theorem kind_withState (s : EntityState) (r : Record) : (r.withState s).kind = r.kind := by
  cases r <;> rfl

@[simp] theorem id_withState (s : EntityState) (r : Record) : (r.withState s).id = r.id := by
  cases r <;> rfl

@[simp] theorem state_withState (s : EntityState) (r : Record) : (r.withState s).state = s := by
  cases r <;> rfl

/-! ## Records of one kind -/

def cluster? : Record → Option Cluster
  | .cluster r => some r
  | _ => none

def node? : Record → Option Node
  | .node r => some r
  | _ => none

def server? : Record → Option Server
  | .server r => some r
  | _ => none

def serverGroup? : Record → Option ServerGroup
  | .serverGroup r => some r
  | _ => none

def reverseProxy? : Record → Option ReverseProxy
  | .reverseProxy r => some r
  | _ => none

def origin? : Record → Option Origin
  | .origin r => some r
  | _ => none

end Record

end Fleet
