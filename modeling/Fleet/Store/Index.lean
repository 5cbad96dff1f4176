import Fleet.Entity

/-!
# The edge index

Which records refer to an entity. Each owner's edges are kept beside the parents they lead to, so
that they can be replaced when the owner is saved again.
-/

namespace Fleet

structure EdgeIndex where
  /-- The parents of every entity that has some. -/
  parents : OrdMap EntityRef (OrdSet EntityRef) := .empty
  /-- The edges of every owner that declares some. -/
  declared : OrdMap EntityRef (List Edge) := .empty
deriving Inhabited

namespace EdgeIndex

def empty : EdgeIndex := {}

/-- Drops a parent; an entity without parents is not kept. -/
def dropParent (parents : OrdMap EntityRef (OrdSet EntityRef)) (e : Edge) :
    OrdMap EntityRef (OrdSet EntityRef) :=
  match parents.find? e.child with
  | none => parents
  | some set =>
    let set := set.erase e.parent
    if set.isEmpty then parents.erase e.child else parents.insert e.child set

def addParent (parents : OrdMap EntityRef (OrdSet EntityRef)) (e : Edge) :
    OrdMap EntityRef (OrdSet EntityRef) :=
  parents.insert e.child (((parents.find? e.child).getD .empty).add e.parent)

/-- The edges that an owner declared last. -/
def edgesOf (i : EdgeIndex) (owner : EntityRef) : List Edge := (i.declared.find? owner).getD []

/-- Drops the edges that the owner declared before and takes `edges` in their place. -/
def replace (i : EdgeIndex) (owner : EntityRef) (edges : List Edge) : EdgeIndex where
  parents := edges.foldl addParent ((i.edgesOf owner).foldl dropParent i.parents)
  declared := if edges.isEmpty then i.declared.erase owner else i.declared.insert owner edges

def parentsOf (i : EdgeIndex) (child : EntityRef) : List EntityRef :=
  ((i.parents.find? child).getD .empty).toList

def edgeCount (i : EdgeIndex) : Nat := i.parents.values.foldr (fun parents n => parents.size + n) 0

end EdgeIndex

end Fleet
