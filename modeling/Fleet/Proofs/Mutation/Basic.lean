import Fleet.Mutation
import Fleet.Proofs.Mutation.Covered

/-!
# Mutations and their calls

The changes that an operator can make, the stores that come about, and the calls that a change makes:
it reads, it writes records, and it marks nodes.
-/

namespace Fleet

/-- The changes that an operator can make. -/
inductive Mutation where
  | save (record : Record)
  | setGroupProxy (groupId : Int) (protocol : Protocol) (reference : Option ReverseProxyRef)
  | orderGroups (groupIds : List Int)
  | setState (target : EntityRef) (enabled : Bool)
deriving DecidableEq, Repr, Inhabited

def Mutation.action : Mutation → Action Report
  | .save r => Outcome.propagation <$> saveRecord r
  | .setGroupProxy id p r => Outcome.propagation <$> Fleet.setGroupProxy id p r
  | .orderGroups ids => Fleet.orderGroups ids
  | .setState target enabled => Outcome.propagation <$> Fleet.setState target enabled

/-- The stores that come about by seeds, calls and mutations. -/
inductive Store.Reachable : Store → Prop where
  | empty : Reachable .empty
  | seed {s : Store} (seed : Seed) : Reachable s → Reachable (s.loadSeed seed).2
  | call {s : Store} (c : Call) : Reachable s → Reachable (s.answer c).2
  | mutation {s : Store} (m : Mutation) : Reachable s → Reachable (m.action.on s).2

theorem Store.Reachable.sound {s : Store} (h : s.Reachable) : s.Sound := by
  induction h with
  | empty => exact sound_empty
  | seed seed _ ih => exact ih.saveAll seed.records
  | call c _ ih => exact ih.answer c
  | mutation m _ ih => exact m.action.run.sound_run ih

namespace Call

def Finds : Call → Prop
  | .find _ => True
  | _ => False

/-- The reads of a walk upwards. -/
def Walks : Call → Prop
  | .find _ | .enabledNodes _ | .parents _ => True
  | _ => False

def Propagates : Call → Prop
  | .find _ | .enabledNodes _ | .parents _ | .mark _ => True
  | _ => False

def Mutates : Call → Prop
  | .save _ | .updateState _ _ => True
  | c => c.Propagates

theorem Walks.propagates {c : Call} (h : c.Walks) : c.Propagates := by
  cases c <;> first | exact h | exact h.elim

theorem Walks.isRead {c : Call} (h : c.Walks) : c.isRead = true := by
  cases c <;> first | exact h.elim | rfl

theorem Finds.walks {c : Call} (h : c.Finds) : c.Walks := by
  cases c <;> first | exact h | trivial

theorem Finds.propagates {c : Call} (h : c.Finds) : c.Propagates := h.walks.propagates

theorem Finds.isRead {c : Call} (h : c.Finds) : c.isRead = true := h.walks.isRead

theorem Propagates.mutates {c : Call} (h : c.Propagates) : c.Mutates := by
  cases c <;> first | exact h | trivial

theorem Propagates.sameFleet {c : Call} (h : c.Propagates) (s : Store) :
    s.SameFleet (s.answer c).2 := by
  cases c with
  | find _ | enabledNodes _ | parents _ => exact .refl s
  | mark n => exact ⟨_, rfl⟩
  | _ => exact h.elim

end Call

open Fleet.Action

/-! ## Propagations -/

theorem makes_visit (w : Walk) (x : EntityRef) : (w.visit x).run.Makes Call.Walks := by
  obtain ⟨k, id⟩ := x
  cases k with
  | node =>
      refine makes_bind (makes_bind (makes_ask trivial) fun _ => trivial) fun n => ?_
      cases n <;> trivial
  | cluster => exact makes_bind (makes_ask trivial) fun _ => trivial
  | server | serverGroup | reverseProxy | origin =>
      exact makes_bind (makes_ask trivial) fun _ => trivial

theorem makes_foldlM_visit (xs : List EntityRef) (w : Walk) :
    (xs.foldlM Walk.visit w).run.Makes Call.Walks := by
  induction xs generalizing w with
  | nil => trivial
  | cons x xs ih =>
      rw [List.foldlM_cons]
      exact makes_bind (makes_visit w x) fun w => ih w

theorem makes_rounds (n : Nat) (round : List EntityRef) (w : Walk) :
    (Walk.rounds n round w).run.Makes Call.Walks := by
  induction n generalizing round w with
  | zero => trivial
  | succ n ih => exact makes_bind (makes_foldlM_visit _ _) fun w => ih _ w

theorem makes_affectedNodes (x : EntityRef) : (affectedNodes x).run.Makes Call.Walks :=
  makes_bind (makes_rounds _ _ _) fun _ => trivial

theorem makes_markAll (l : List Int) (report : Report) (error : Option StoreError) :
    (markAll l report error).run.Makes Call.Propagates := by
  induction l generalizing report error with
  | nil => trivial
  | cons n l ih =>
      refine makes_bind ⟨trivial, fun _ => trivial⟩ fun r => ?_
      cases r with
      | ok _ => exact ih _ _
      | error e => exact makes_bind trivial fun _ => ih _ _

theorem makes_notify (x : EntityRef) : (notify x).run.Makes Call.Propagates := by
  refine makes_bind trivial fun _ => ?_
  refine makes_bind ((makes_affectedNodes x).imp fun _ h => h.propagates) fun nodes => ?_
  refine makes_bind (makes_markAll _ _ _) fun r => ?_
  refine makes_bind trivial fun _ => ?_
  cases r.2 <;> trivial

theorem makes_notifyOf (x : EntityRef) : (notifyOf x).run.Makes Call.Propagates :=
  makes_bind (makes_notify x) fun _ => trivial

/-! ## The reads before a write -/

theorem store_of_finds {α : Type} {a : Action α} {s t : Store} {r : Except Failure α}
    (ha : a.run.Makes Call.Finds) (h : on a s = (r, t)) : s = t := by
  have hread : (on a s).2 = s := Program.run_of_isRead fun c hc => (ha.mem_calls c hc).isRead
  rw [← hread, h]

theorem makes_previousCluster (r : Server) : (previousCluster r).run.Makes Call.Finds := by
  unfold previousCluster
  split
  · exact makes_bind (makes_bind (makes_ask trivial) fun _ => trivial) fun _ => trivial
  · trivial

theorem makes_requireServerGroup (id : Int) : (requireServerGroup id).run.Makes Call.Finds := by
  refine makes_bind (makes_bind (makes_ask trivial) fun _ => trivial) fun g => ?_
  cases g <;> trivial

theorem makes_readGroups (earlier ids : List Int) :
    (readGroups earlier ids).run.Makes Call.Finds := by
  induction ids generalizing earlier with
  | nil => trivial
  | cons id ids ih =>
      refine makes_bind trivial fun _ => ?_
      split
      · trivial
      · exact makes_bind (makes_requireServerGroup id) fun _ => makes_bind (ih _) fun _ => trivial

/-! ## Whole mutations -/

theorem makes_notify_mutates (x : EntityRef) : (notify x).run.Makes Call.Mutates :=
  (makes_notify x).imp fun _ h => h.mutates

theorem makes_notifyOf_mutates (x : EntityRef) : (notifyOf x).run.Makes Call.Mutates :=
  (makes_notifyOf x).imp fun _ h => h.mutates

theorem makes_saveServer (r : Server) : (saveServer r).run.Makes Call.Mutates := by
  refine makes_bind ((makes_previousCluster r).imp fun _ h => h.propagates.mutates) fun previous => ?_
  refine makes_bind (makes_ask trivial) fun id => ?_
  refine makes_bind (makes_notifyOf_mutates _) fun o => ?_
  cases previous with
  | none => trivial
  | some old =>
      dsimp only
      split
      · exact makes_bind (makes_notify_mutates _) fun _ => trivial
      · trivial

/-- A record is written and its dependents are notified of it. -/
def writeRecord : Record → Action Outcome
  | .server s => saveServer s
  | r => do
    let id ← ask (.save r)
    notifyOf ⟨r.kind, id⟩

theorem saveRecord_eq (r : Record) : saveRecord r = check (checkId r) >>= fun _ => writeRecord r := by
  cases r <;> rfl

theorem writeRecord_of_ne_server {r : Record} (h : r.kind ≠ .server) :
    writeRecord r = (do
      let id ← ask (.save r)
      notifyOf ⟨r.kind, id⟩) := by
  cases r with
  | server r => exact absurd rfl h
  | cluster _ | node _ | serverGroup _ | reverseProxy _ | origin _ => rfl

theorem makes_saveRecord (r : Record) : (saveRecord r).run.Makes Call.Mutates := by
  refine makes_bind trivial fun _ => ?_
  cases r with
  | server r => exact makes_saveServer r
  | cluster _ | node _ | serverGroup _ | reverseProxy _ | origin _ =>
      exact makes_bind (makes_ask trivial) fun _ => makes_notifyOf_mutates _

theorem makes_setGroupProxy (id : Int) (p : Protocol) (r : Option ReverseProxyRef) :
    (setGroupProxy id p r).run.Makes Call.Mutates := by
  refine makes_bind trivial fun _ => ?_
  refine makes_bind ((makes_requireServerGroup id).imp fun _ h => h.propagates.mutates) fun _ => ?_
  refine makes_bind trivial fun _ => ?_
  exact makes_bind (makes_ask trivial) fun _ => makes_notifyOf_mutates _

theorem makes_rankGroups (groups : List ServerGroup) (report : Report) :
    (rankGroups groups report).run.Makes Call.Mutates := by
  induction groups generalizing report with
  | nil => trivial
  | cons g groups ih =>
      refine makes_bind (makes_ask trivial) fun _ => ?_
      exact makes_bind (makes_notify_mutates _) fun _ => ih _

theorem makes_orderGroups (ids : List Int) : (orderGroups ids).run.Makes Call.Mutates := by
  unfold orderGroups
  split
  · trivial
  · refine makes_bind ((makes_readGroups [] ids).imp fun _ h => h.propagates.mutates) fun _ => ?_
    exact makes_rankGroups _ _

theorem makes_setState (x : EntityRef) (enabled : Bool) :
    (setState x enabled).run.Makes Call.Mutates := by
  refine makes_bind trivial fun _ => ?_
  refine makes_bind (makes_ask trivial) fun found => ?_
  cases found with
  | false => trivial
  | true => exact makes_notifyOf_mutates _

theorem makes_map {α β : Type} {C : Call → Prop} {f : α → β} {a : Action α} (h : a.run.Makes C) :
    (f <$> a).run.Makes C := by
  rw [← bind_pure_comp]
  exact makes_bind h fun _ => trivial

theorem Mutation.makes (m : Mutation) : m.action.run.Makes Call.Mutates := by
  cases m with
  | save r => exact makes_map (makes_saveRecord r)
  | setGroupProxy id p r => exact makes_map (makes_setGroupProxy id p r)
  | orderGroups ids => exact makes_orderGroups ids
  | setState x enabled => exact makes_map (makes_setState x enabled)

end Fleet
