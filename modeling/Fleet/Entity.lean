import Fleet.Ordered.Map
import Fleet.Text.Ascii
import Fleet.Text.Decimal

/-!
# Entities

The kinds of things that the control plane stores, and references to them. References are ordered by
kind, in the order of the list of kinds, and then by id.
-/

namespace Fleet

open Std

inductive Kind where
  | cluster
  | node
  | server
  | serverGroup
  | reverseProxy
  | origin
deriving DecidableEq, Repr, Inhabited

namespace Kind

def all : List Kind := [.cluster, .node, .server, .serverGroup, .reverseProxy, .origin]

def rank : Kind → Nat
  | .cluster => 0
  | .node => 1
  | .server => 2
  | .serverGroup => 3
  | .reverseProxy => 4
  | .origin => 5

/-- The name in messages, keys and stored text. -/
def name : Kind → String
  | .cluster => "cluster"
  | .node => "node"
  | .server => "server"
  | .serverGroup => "server_group"
  | .reverseProxy => "reverse_proxy"
  | .origin => "origin"

/-- The names in stored text. -/
def names : List (String × Kind) := all.map fun k => (k.name, k)

/-- The spellings that a request may use, in lower case. -/
def spellings : List (String × Kind) :=
  [("cluster", .cluster), ("clusters", .cluster), ("node", .node), ("nodes", .node),
   ("server", .server), ("servers", .server),
   ("server_group", .serverGroup), ("group", .serverGroup), ("groups", .serverGroup),
   ("reverse_proxy", .reverseProxy), ("reverse-proxy", .reverseProxy),
   ("reverse-proxies", .reverseProxy), ("origin", .origin), ("origins", .origin)]

theorem rank_injective {a b : Kind} (h : a.rank = b.rank) : a = b := by
  revert h
  cases a <;> cases b <;> decide

end Kind

/-- Whether a record takes part in composition and propagation. -/
inductive EntityState where
  | enabled
  | disabled
deriving DecidableEq, Repr, Inhabited

namespace EntityState

def isEnabled : EntityState → Bool
  | .enabled => true
  | .disabled => false

def ofBool (enabled : Bool) : EntityState := if enabled then .enabled else .disabled

def name : EntityState → String
  | .enabled => "enabled"
  | .disabled => "disabled"

def names : List (String × EntityState) := [("enabled", .enabled), ("disabled", .disabled)]

end EntityState

/-- Names one stored record. -/
structure EntityRef where
  kind : Kind
  id : Int
deriving DecidableEq, Repr, Inhabited

namespace EntityRef

def text (r : EntityRef) : String := r.kind.name ++ ":" ++ Text.intText r.id

instance : Ord EntityRef := ⟨compareLex (compareOn (·.kind.rank)) (compareOn (·.id))⟩

instance : TransOrd EntityRef :=
  inferInstanceAs
    (TransCmp (compareLex (compareOn fun r : EntityRef => r.kind.rank) (compareOn (·.id))))

instance : LawfulEqOrd EntityRef where
  compare_self := ReflCmp.compare_self
  eq_of_compare {a b} h := by
    have h : compareLex (compareOn fun r : EntityRef => r.kind.rank) (compareOn (·.id)) a b = .eq := h
    rw [compareLex_eq_eq] at h
    have h1 : a.kind.rank = b.kind.rank := LawfulEqCmp.eq_of_compare h.1
    have h2 : a.id = b.id := LawfulEqCmp.eq_of_compare h.2
    cases a; cases b
    simp only at h1 h2
    rw [Kind.rank_injective h1, h2]

end EntityRef

/-- One record refers to another: a change of `child` reaches `parent`. -/
structure Edge where
  child : EntityRef
  parent : EntityRef
deriving DecidableEq, Repr, Inhabited

end Fleet
