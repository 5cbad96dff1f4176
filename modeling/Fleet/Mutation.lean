import Fleet.Propagation
import Fleet.Record.Codec

/-!
# Mutations

The changes that an operator makes: a record is written and the nodes that depend on it are marked.
Arguments are checked before anything is written.
-/

namespace Fleet

open Fleet.Action

/-- A change that was made: the record's id and the nodes it reached. -/
structure Outcome where
  id : Int
  propagation : Report
deriving Inhabited

def Outcome.toJson (o : Outcome) : Json :=
  .object [("id", .int o.id), ("propagation", o.propagation.toJson)]

/-- A new record has id zero, a stored one a positive id that leaves room for others. -/
def checkId (r : Record) : Except Failure Unit :=
  if r.id < 0 then
    .error (.invalid "id" ("expected 0 for a new " ++ r.kind.name ++ " or a positive id, got "
      ++ Text.intText r.id))
  else if r.id = Text.maxInt64 then
    .error (.invalid "id" (r.kind.name ++ " id " ++ Text.intText r.id ++ " is out of range"))
  else .ok ()

def notifyOf (target : EntityRef) : Action Outcome := do
  return ⟨target.id, ← notify target⟩

/-! ## Saving -/

/-- The cluster that a server was in before it is saved again. -/
def previousCluster (s : Server) : Action (Option Int) := do
  if 0 < s.id then
    return (← findServer s.id).map (·.clusterId)
  else
    return none

/-- A server that moves to another cluster also reaches the nodes of the one it leaves. -/
def saveServer (s : Server) : Action Outcome := do
  let previous ← previousCluster s
  let id ← ask (.save (.server s))
  let outcome ← notifyOf ⟨.server, id⟩
  match previous with
  | some old =>
    if 0 < old && old ≠ s.clusterId then
      let report ← notify ⟨.cluster, old⟩
      let marked := OrdSet.union outcome.propagation.marked report.marked
      return { outcome with propagation := { outcome.propagation with marked } }
    else
      return outcome
  | none => return outcome

def saveRecord (r : Record) : Action Outcome := do
  check (checkId r)
  match r with
  | .server s => saveServer s
  | r =>
    let id ← ask (.save r)
    notifyOf ⟨r.kind, id⟩

/-! ## Groups -/

/-- A stored group, or the failure that there is none. -/
def requireServerGroup (id : Int) : Action ServerGroup := do
  match ← findServerGroup id with
  | some g => return g
  | none => throw (.notFound ⟨.serverGroup, id⟩)

/-- The text that stores a reference to a proxy, or none. -/
def proxyText : Option ReverseProxyRef → Except Failure RefText
  | none => .ok .empty
  | some r =>
    if r.reverseProxyId < 0 then
      .error (.invalid "reverse_proxy_id"
        ("expected a non-negative id, got " ++ Text.intText r.reverseProxyId))
    else .ok (.encode r.toJson)

def setGroupProxy (groupId : Int) (p : Protocol) (r : Option ReverseProxyRef) : Action Outcome := do
  check (requireId "group_id" groupId)
  let group ← requireServerGroup groupId
  let text ← check (proxyText r)
  let _ ← ask (.save (.serverGroup (group.withSlot p text)))
  notifyOf ⟨.serverGroup, groupId⟩

/-- Reads the listed groups; each is positive, listed once and stored. -/
def readGroups (earlier : List Int) : List Int → Action (List ServerGroup)
  | [] => return []
  | id :: rest => do
    check (requireId "group_ids" id)
    if earlier.contains id then
      throw (.invalid "group_ids" ("group " ++ Text.intText id ++ " listed twice"))
    let group ← requireServerGroup id
    return group :: (← readGroups (earlier ++ [id]) rest)

/-- Writes the groups, the first with the greatest order and the last with order one. -/
def rankGroups : List ServerGroup → Report → Action Report
  | [], report => return report
  | group :: rest, report => do
    let id ← ask (.save (.serverGroup { group with order := rest.length + 1 }))
    let propagated ← notify ⟨.serverGroup, id⟩
    rankGroups rest (report.append propagated)

/-- Orders the listed groups by their place in the list. All of them are checked first. -/
def orderGroups (ids : List Int) : Action Report := do
  if ids.length > 2147483647 then
    throw (.invalid "group_ids" ("too many groups: " ++ Text.natText ids.length))
  let groups ← readGroups [] ids
  rankGroups groups {}

/-! ## States -/

/-- Enables or disables an entity. -/
def setState (target : EntityRef) (enabled : Bool) : Action Outcome := do
  check (requireId "id" target.id)
  if !(← ask (.updateState target (.ofBool enabled))) then
    throw (.notFound target)
  notifyOf target

end Fleet
