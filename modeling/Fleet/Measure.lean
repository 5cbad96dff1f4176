import Fleet.Entity

/-!
# Measures

What the control plane counts about itself. A counter appears once it has been raised, even by zero.
-/

namespace Fleet

inductive ComposeOutcome where
  | composed
  | absent
  | error
deriving DecidableEq, Repr, Inhabited

inductive Counter where
  | compositions (kind : Kind) (outcome : ComposeOutcome)
  | cacheHits (kind : Kind)
  | nodesMarked
  | markFailures
  | probes (isOk : Bool)
deriving DecidableEq, Repr, Inhabited

inductive Measure where
  | count (counter : Counter) (amount : Nat)
  /-- How long a composition took. -/
  | composeTime (kind : Kind)
  /-- How many nodes are pending. -/
  | pendingNodes (n : Nat)
deriving DecidableEq, Repr, Inhabited

/-- All that was measured so far. -/
structure Metrics where
  counters : List (Counter × Nat) := []
  pendingNodes : Option Nat := none
  /-- The number of times taken, by kind. -/
  composeTimes : List (Kind × Nat) := []
deriving DecidableEq, Repr, Inhabited

namespace Metrics

/-- Raises the number of a key, which is zero before. -/
def raise {κ : Type} [DecidableEq κ] (k : κ) (n : Nat) : List (κ × Nat) → List (κ × Nat)
  | [] => [(k, n)]
  | (k', m) :: rest => if k' = k then (k', m + n) :: rest else (k', m) :: raise k n rest

def counter (m : Metrics) (c : Counter) : Nat := (m.counters.lookup c).getD 0

def record (m : Metrics) : Measure → Metrics
  | .count c n => { m with counters := raise c n m.counters }
  | .composeTime k => { m with composeTimes := raise k 1 m.composeTimes }
  | .pendingNodes n => { m with pendingNodes := some n }

end Metrics

/-! ## Names -/

def ComposeOutcome.name : ComposeOutcome → String
  | .composed => "composed"
  | .absent => "absent"
  | .error => "error"

/-- A metric with its labels in braces. -/
def metricKey (name : String) (labels : List (String × String)) : String :=
  name ++ "\x7b" ++ String.intercalate "," (labels.map fun l => l.1 ++ "=" ++ l.2) ++ "\x7d"

def Counter.key : Counter → String
  | .compositions k o => metricKey "edge_compose_total" [("kind", k.name), ("outcome", o.name)]
  | .cacheHits k => metricKey "edge_compose_cache_hits_total" [("kind", k.name)]
  | .nodesMarked => metricKey "edge_propagation_nodes_marked_total" []
  | .markFailures => metricKey "edge_propagation_failures_total" []
  | .probes isOk =>
    metricKey "edge_health_check_total" [("outcome", if isOk then "ok" else "failed")]

def composeTimeKey (k : Kind) : String := metricKey "edge_compose_duration_seconds" [("kind", k.name)]

def pendingNodesKey : String := metricKey "edge_pending_nodes" []

end Fleet
