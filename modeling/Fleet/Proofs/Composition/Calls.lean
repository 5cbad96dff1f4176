import Fleet.Proofs.Program
import Fleet.Sync

/-!
# The calls of a composition

Whatever it is answered, and whatever its cache holds, a composition reads records and lists servers,
and makes no other calls.
-/

namespace Fleet

namespace Call

/-- A composition makes the call. -/
def Composes : Call → Prop
  | .find _ | .enabledServers _ => True
  | _ => False

theorem Composes.isRead {c : Call} (h : c.Composes) : c.isRead = true := by
  cases c <;> first | exact h.elim | rfl

end Call

namespace Composing

variable {α β : Type}

/-- From every cache, the calls are those of a composition. -/
def Composes (x : Composing α) : Prop := ∀ cache, (x.run.run cache).Makes Call.Composes

theorem composes_pure (a : α) : Composes (pure a : Composing α) := fun _ => trivial

theorem Composes.bind {x : Composing α} {f : α → Composing β} (hx : Composes x)
    (hf : ∀ a, Composes (f a)) : Composes (x >>= f) := by
  intro cache
  rw [ExceptT.run_bind, StateT.run_bind]
  refine (hx cache).bind fun ⟨r, cache⟩ => ?_
  cases r with
  | ok a => exact hf a cache
  | error e => trivial

theorem composes_ofAction {a : Action α} (ha : a.run.Makes Call.Composes) : Composes (ofAction a) :=
  fun _ => ha.bind fun _ => trivial

theorem composes_reference {owner : EntityRef} {field : String} {d : Json.Decoder α} {r : RefText} :
    Composes (reference owner field d r) := fun _ => trivial

theorem composes_present {f : β → Composing (Option α)} (hf : ∀ b, Composes (f b)) (l : List β) :
    Composes (present f l) := by
  induction l with
  | nil => exact composes_pure _
  | cons b l ih => exact (hf b).bind fun _ => ih.bind fun _ => composes_pure _

theorem composes_lookup (key : EntityRef) : Composes (lookup key) := by
  intro cache
  change (looked key cache (cache.lookup key)).Makes _
  rcases cache.lookup key with _ | ⟨_ | _ | _, _⟩ <;> trivial

theorem composes_settled {key : EntityRef} {wrap : α → Config} {build : Composing (Option α)}
    (h : Composes build) : Composes (settled key wrap build) := by
  intro cache
  refine (h (cache.begin key)).bind fun ⟨r, cache⟩ => ?_
  cases r <;> trivial

theorem composes_cached {key : EntityRef} {wrap : α → Config} {unwrap : Config → Option α}
    {build : Composing (Option α)} (h : Composes build) :
    Composes (cached key wrap unwrap build) := by
  unfold cached
  split
  · exact composes_pure _
  · refine (composes_lookup key).bind fun l => ?_
    cases l with
    | miss => exact composes_settled h
    | absent => exact composes_pure _
    | hit config =>
        dsimp only
        split
        · exact composes_pure _
        · exact composes_settled h

/-! ## Builders -/

/-- The common shape of the builders. -/
theorem composes_build {ρ : Type} {find : Action (Option ρ)} {f : Option ρ → Composing (Option α)}
    (hfind : find.run.Makes Call.Composes) (hnone : f none = pure none)
    (hsome : ∀ r, Composes (f (some r))) : Composes (ofAction find >>= f) := by
  refine Composes.bind (composes_ofAction hfind) fun r => ?_
  cases r with
  | none =>
      rw [hnone]
      exact composes_pure _
  | some r => exact hsome r

theorem composes_filled {enabled : Bool} {fill : Composing α} (h : Composes fill) :
    Composes (if enabled = true then do return some (← fill) else return none) := by
  split
  · exact h.bind fun _ => composes_pure _
  · exact composes_pure _

theorem makes_find {x : EntityRef} {pick : Record → Option α} :
    Program.Makes Call.Composes
      (do return (← Action.ask (.find x)).bind pick : Action (Option α)).run :=
  Action.makes_bind (Action.makes_ask trivial) fun _ => trivial

theorem composes_origin (id : Int) : Composes (origin id) :=
  composes_cached (composes_build makes_find rfl fun _ => composes_pure _)

theorem composes_origins (refs : List OriginRef) : Composes (origins refs) :=
  composes_present (fun _ => composes_origin _) _

theorem composes_reverseProxy (id : Int) : Composes (reverseProxy id) := by
  refine composes_cached (composes_build makes_find rfl fun r => composes_filled ?_)
  refine Composes.bind composes_reference fun _ => ?_
  refine Composes.bind composes_reference fun _ => ?_
  refine Composes.bind composes_reference fun _ => ?_
  refine Composes.bind (composes_origins _) fun _ => ?_
  exact Composes.bind (composes_origins _) fun _ => composes_pure _

theorem composes_slot {owner : EntityRef} {p : Protocol} {r : RefText} :
    Composes (slot owner p r) := by
  refine Composes.bind composes_reference fun ref => ?_
  cases ref with
  | none => exact composes_pure _
  | some ref => exact Composes.bind (composes_reverseProxy _) fun _ => composes_pure _

theorem composes_slots {owner : EntityRef} {r : Protocol → RefText} :
    Composes (slots owner r) := by
  refine Composes.bind composes_slot fun _ => ?_
  refine Composes.bind composes_slot fun _ => ?_
  exact Composes.bind composes_slot fun _ => composes_pure _

theorem composes_serverGroup (id : Int) : Composes (serverGroup id) := by
  refine composes_cached (composes_build makes_find rfl fun r => composes_filled ?_)
  exact Composes.bind composes_slots fun _ => composes_pure _

theorem composes_server (id : Int) : Composes (server id) := by
  refine composes_cached (composes_build makes_find rfl fun r => composes_filled ?_)
  refine Composes.bind composes_slots fun _ => ?_
  refine Composes.bind composes_reference fun _ => ?_
  exact Composes.bind (composes_present composes_serverGroup _) fun _ => composes_pure _

theorem composes_cluster (id : Int) : Composes (cluster id) := by
  refine composes_cached (composes_build makes_find rfl fun r => composes_filled ?_)
  refine Composes.bind composes_reference fun _ => ?_
  exact Composes.bind composes_reference fun _ => composes_pure _

theorem composes_clusterServers (cluster : Option ClusterConfig) (id : Int) :
    Composes (clusterServers cluster id) := by
  unfold clusterServers
  split
  · exact Composes.bind (composes_ofAction (Action.makes_ask trivial)) fun _ =>
      composes_present composes_server _
  · exact composes_pure _

theorem composes_node (id : Int) : Composes (node id) := by
  refine composes_cached (composes_build makes_find rfl fun r => composes_filled ?_)
  refine Composes.bind composes_reference fun _ => ?_
  refine Composes.bind (composes_cluster _) fun _ => ?_
  exact Composes.bind (composes_clusterServers _ _) fun _ => composes_pure _

theorem Composes.map {x : Composing α} {f : α → β} (hx : Composes x) : Composes (f <$> x) := by
  rw [← bind_pure_comp]
  exact hx.bind fun _ => composes_pure _

theorem composes_entity (target : EntityRef) : Composes (entity target) := by
  unfold entity
  split
  · exact (composes_cluster _).map
  · exact (composes_node _).map
  · exact (composes_server _).map
  · exact (composes_serverGroup _).map
  · exact (composes_reverseProxy _).map
  · exact (composes_origin _).map

end Composing

theorem makes_composeFresh (target : EntityRef) :
    (composeFresh target).run.Makes Call.Composes :=
  Program.Makes.bind (Program.Makes.bind (Composing.composes_entity target .empty) fun _ => trivial)
    fun _ => trivial

end Fleet
