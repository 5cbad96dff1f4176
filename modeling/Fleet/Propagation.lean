import Fleet.Store.Program

/-!
# Propagation

A change of an entity reaches the nodes above it: the walk goes from the entity to the enabled
records that refer to it, up to the clusters and from there to their enabled nodes. Every node
reached is marked once; a mark that fails does not keep the others from being made.
-/

namespace Fleet

open Fleet.Action

/-! ## The walk -/

/-- How far a walk has come. -/
structure Walk where
  nodes : OrdSet Int := .empty
  /-- The entities met. -/
  seen : OrdSet EntityRef := .empty
  /-- The entities to visit in the next round. -/
  next : List EntityRef := []
deriving Inhabited

namespace Walk

/-- Meets an entity, the first time for a visit. -/
def meet (w : Walk) (r : EntityRef) : Walk :=
  if w.seen.contains r then w else { w with seen := w.seen.add r, next := w.next ++ [r] }

/-- Visits an entity: a node is reached if it is stored, a cluster reaches its enabled nodes, and
any other entity leads to its parents. -/
def visit (w : Walk) (r : EntityRef) : Action Walk := do
  match r.kind with
  | .node =>
    match ← findNode r.id with
    | some _ => return { w with nodes := w.nodes.add r.id }
    | none => return w
  | .cluster =>
    let nodes ← ask (.enabledNodes r.id)
    return { w with nodes := nodes.foldl OrdSet.add w.nodes }
  | _ =>
    let parents ← ask (.parents r)
    return parents.foldl meet w

/-- Visits the entities of a round in order, and then those of the rounds after it. -/
def rounds : (n : Nat) → List EntityRef → Walk → Action Walk
  | 0, _, w => return w
  | n + 1, round, w => do
    let w ← round.foldlM visit { w with next := [] }
    rounds n w.next w

end Walk

/-- The most entities on a way upwards: an origin, its proxy, a group, a server and its cluster. -/
def longestWay : Nat := 5

/-- The nodes that a change of an entity reaches. The entity itself is visited whatever its state. -/
def affectedNodes (target : EntityRef) : Action (OrdSet Int) := do
  let w ← Walk.rounds longestWay [target] { seen := OrdSet.ofList [target] }
  return w.nodes

/-! ## Marks -/

structure Report where
  marked : OrdSet Int := .empty
  failed : OrdSet Int := .empty
deriving Inhabited

namespace Report

def isNoop (r : Report) : Bool := r.marked.isEmpty && r.failed.isEmpty

def append (r s : Report) : Report := ⟨OrdSet.union r.marked s.marked, OrdSet.union r.failed s.failed⟩

def toJson (r : Report) : Json :=
  .object [("marked", .ofList .int r.marked.toList), ("failed", .ofList .int r.failed.toList)]

end Report

/-- Marks nodes in order, and keeps the first error. -/
def markAll : List Int → Report → Option StoreError → Action (Report × Option StoreError)
  | [], report, error => return (report, error)
  | node :: rest, report, error => do
    match ← try_ (.mark node) with
    | .ok _ => markAll rest { report with marked := report.marked.add node } error
    | .error e =>
      note (.count .markFailures 1)
      markAll rest { report with failed := report.failed.add node } (error.or (some e))

/-- Marks every node that a change of an entity reaches. -/
def notify (target : EntityRef) : Action Report := do
  check (requireId "id" target.id)
  let nodes ← affectedNodes target
  let (report, error) ← markAll nodes.toList {} none
  note (.count .nodesMarked report.marked.size)
  match error with
  | some e => throw (.store e)
  | none => return report

end Fleet
