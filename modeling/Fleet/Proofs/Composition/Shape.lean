import Fleet.Proofs.Composition.Alike

/-!
# The shape of a composition

A composition is put together from outcomes that are known, lists of servers, and entities of kinds that
are composed before. What holds of these parts and goes through their sequence holds of the composition
of every entity.
-/

namespace Fleet

namespace Composing

variable {α β ρ : Type}

/-- A record looked up, as one of its kind. -/
def found (key : EntityRef) (pick : Record → Option ρ) : Action (Option ρ) := do
  return (← Action.ask (.find key)).bind pick

theorem run_ofAction_map_ask (c : Call) (g : c.Answer → α) (cache : Cache) :
    (ofAction (g <$> Action.ask c)).run.run cache = .call c fun
      | .ok a => .done (.ok (g a), cache)
      | .error e => .done (.error (.store e), cache) := by
  refine congrArg (Program.call c) (funext fun r => ?_)
  cases r <;> rfl

theorem run_found_bind (key : EntityRef) (pick : Record → Option ρ) (f : Option ρ → Composing α)
    (cache : Cache) :
    (ofAction (found key pick) >>= f).run.run cache = .call (.find key) fun
      | .ok r => (f (r.bind pick)).run.run cache
      | .error e => .done (.error (.store e), cache) := by
  refine congrArg (Program.call (.find key)) (funext fun r => ?_)
  cases r <;> rfl

section

variable {key : EntityRef} {wrap : α → Config} {unwrap : Config → Option α}
  {build : Composing (Option α)}

/-- An entity of a positive id is what the cache answers, or is built where it answers nothing. -/
theorem run_cached (hpos : 0 < key.id) (cache : Cache) :
    (cached key wrap unwrap build).run.run cache
      = match cache.lookup key with
        | .error e => .done (.error e, cache)
        | .ok (.absent, cache) => .done (.ok none, cache)
        | .ok (.miss, cache) => (settled key wrap build).run.run cache
        | .ok (.hit config, cache) =>
          .note (.count (.cacheHits key.kind) 1) <|
            match unwrap config with
            | some a => .done (.ok (some a), cache)
            | none => (settled key wrap build).run.run cache := by
  unfold cached
  rw [if_neg (by omega), ExceptT.run_bind, StateT.run_bind]
  change (looked key cache (cache.lookup key) >>= _) = _
  rcases cache.lookup key with e | ⟨_ | _ | config, cache'⟩
  · rfl
  · rfl
  · rfl
  · refine congrArg (Program.note _) ?_
    change (match unwrap config with
      | some a => pure (some a)
      | none => settled key wrap build : Composing (Option α)).run.run cache' = _
    cases unwrap config <;> rfl

theorem run_cached_of_not_pos (h : ¬0 < key.id) (cache : Cache) :
    (cached key wrap unwrap build).run.run cache = .done (.ok none, cache) := by
  unfold cached
  rw [if_pos (by omega)]
  rfl

end

/-- The configs of one kind among all: what the entity of a reference is taken from the cache as, and
kept there as. -/
structure Entry (key : EntityRef) (wrap : α → Config) (unwrap : Config → Option α)
    (build : Composing (Option α)) : Prop where
  entity_eq : entity key = Option.map wrap <$> cached key wrap unwrap build
  kind_wrap : ∀ a, (wrap a).kind = key.kind
  exists_unwrap : ∀ c : Config, c.kind = key.kind → ∃ a, unwrap c = some a

/-- A composition of entities of kinds below a tier. -/
inductive Below : Nat → {α : Type} → Composing α → Prop where
  | outcome {t : Nat} {α : Type} (r : Except Failure α) : Below t (ExceptT.mk (pure r))
  | servers {t : Nat} (cluster : Int) : Below t (ofAction (Action.ask (.enabledServers cluster)))
  | bind {t : Nat} {α β : Type} {x : Composing α} {f : α → Composing β} (hx : Below t x)
      (hf : ∀ a, Below t (f a)) : Below t (x >>= f)
  | entity {t : Nat} {α ρ : Type} {key : EntityRef} {wrap : α → Config}
      {unwrap : Config → Option α} {pick : Record → Option ρ} {f : Option ρ → Composing (Option α)}
      (entry : Entry key wrap unwrap (ofAction (found key pick) >>= f)) (ht : key.kind.tier < t)
      (hf : ∀ r, Below key.kind.tier (f r)) :
      Below t (cached key wrap unwrap (ofAction (found key pick) >>= f))

variable {t : Nat}

theorem below_pure (a : α) : Below t (pure a : Composing α) := .outcome (.ok a)

theorem Below.map {x : Composing α} {f : α → β} (hx : Below t x) : Below t (f <$> x) := by
  rw [← bind_pure_comp]
  exact hx.bind fun _ => below_pure _

theorem below_reference {owner : EntityRef} {field : String} {d : Json.Decoder α} {r : RefText} :
    Below t (reference owner field d r) := .outcome _

theorem below_present {f : β → Composing (Option α)} (hf : ∀ b, Below t (f b)) (l : List β) :
    Below t (present f l) := by
  induction l with
  | nil => exact below_pure _
  | cons b l ih => exact (hf b).bind fun _ => ih.bind fun _ => below_pure _

theorem below_filled {enabled : Bool} {fill : Composing α} (h : Below t fill) :
    Below t (if enabled = true then do return some (← fill) else return none) := by
  split
  · exact h.bind fun _ => below_pure _
  · exact below_pure _

/-! ## Entities -/

/-- How the entity of a reference is composed: its record is found, and filled with entities of kinds
that are composed before. -/
structure Rooted (key : EntityRef) (wrap : α → Config) (unwrap : Config → Option α)
    (build : Composing (Option α)) : Prop where
  entry : Entry key wrap unwrap build
  fills : ∃ (ρ : Type) (pick : Record → Option ρ) (f : Option ρ → Composing (Option α)),
    build = ofAction (found key pick) >>= f ∧ ∀ r, Below key.kind.tier (f r)

section

variable {key : EntityRef} {wrap : α → Config} {unwrap : Config → Option α}
  {build : Composing (Option α)}

theorem rooted_of (pick : Record → Option ρ) {f : Option ρ → Composing (Option α)}
    (entry : Entry key wrap unwrap (ofAction (found key pick) >>= f)) (hnone : f none = pure none)
    (hsome : ∀ r, Below key.kind.tier (f (some r))) :
    Rooted key wrap unwrap (ofAction (found key pick) >>= f) := by
  refine ⟨entry, ρ, pick, f, rfl, fun r => ?_⟩
  cases r with
  | none =>
      rw [hnone]
      exact below_pure _
  | some r => exact hsome r

theorem Rooted.below (h : Rooted key wrap unwrap build) (ht : key.kind.tier < t) :
    Below t (cached key wrap unwrap build) := by
  obtain ⟨entry, _, pick, f, rfl, hf⟩ := h
  exact .entity entry ht hf

end

theorem rooted_origin (id : Int) : Rooted ⟨.origin, id⟩ .origin Config.origin? (buildOrigin id) := by
  refine rooted_of Record.origin? ⟨rfl, fun _ => rfl, fun c hc => ?_⟩ rfl fun _ => below_pure _
  cases c <;> cases hc
  exact ⟨_, rfl⟩

theorem below_origins (ht : Kind.origin.tier < t) (refs : List OriginRef) : Below t (origins refs) :=
  below_present (fun r : OriginRef => (rooted_origin r.originId).below ht) _

theorem rooted_reverseProxy (id : Int) :
    Rooted ⟨.reverseProxy, id⟩ .reverseProxy Config.reverseProxy? (buildReverseProxy id) := by
  refine rooted_of Record.reverseProxy? ⟨rfl, fun _ => rfl, fun c hc => ?_⟩ rfl fun r =>
    below_filled ?_
  · cases c <;> cases hc
    exact ⟨_, rfl⟩
  have horigin : Kind.origin.tier < Kind.reverseProxy.tier := by decide
  refine below_reference.bind fun _ => below_reference.bind fun _ => below_reference.bind fun _ => ?_
  exact (below_origins horigin _).bind fun _ => (below_origins horigin _).bind fun _ => below_pure _

theorem below_slot (ht : Kind.reverseProxy.tier < t) (owner : EntityRef) (p : Protocol)
    (r : RefText) : Below t (slot owner p r) := by
  refine below_reference.bind fun ref => ?_
  cases ref with
  | none => exact below_pure _
  | some ref => exact ((rooted_reverseProxy _).below ht).bind fun _ => below_pure _

theorem below_slots (ht : Kind.reverseProxy.tier < t) (owner : EntityRef) (r : Protocol → RefText) :
    Below t (slots owner r) :=
  (below_slot ht _ _ _).bind fun _ => (below_slot ht _ _ _).bind fun _ =>
    (below_slot ht _ _ _).bind fun _ => below_pure _

theorem rooted_serverGroup (id : Int) :
    Rooted ⟨.serverGroup, id⟩ .serverGroup Config.serverGroup? (buildServerGroup id) := by
  refine rooted_of Record.serverGroup? ⟨rfl, fun _ => rfl, fun c hc => ?_⟩ rfl fun g =>
    below_filled ?_
  · cases c <;> cases hc
    exact ⟨_, rfl⟩
  have hproxy : Kind.reverseProxy.tier < Kind.serverGroup.tier := by decide
  exact (below_slots hproxy _ _).bind fun _ => below_pure _

theorem rooted_server (id : Int) : Rooted ⟨.server, id⟩ .server Config.server? (buildServer id) := by
  refine rooted_of Record.server? ⟨rfl, fun _ => rfl, fun c hc => ?_⟩ rfl fun r => below_filled ?_
  · cases c <;> cases hc
    exact ⟨_, rfl⟩
  have hproxy : Kind.reverseProxy.tier < Kind.server.tier := by decide
  have hgroup : Kind.serverGroup.tier < Kind.server.tier := by decide
  refine (below_slots hproxy _ _).bind fun _ => below_reference.bind fun _ => ?_
  exact (below_present (fun i => (rooted_serverGroup i).below hgroup) _).bind fun _ => below_pure _

theorem rooted_cluster (id : Int) :
    Rooted ⟨.cluster, id⟩ .cluster Config.cluster? (buildCluster id) := by
  refine rooted_of Record.cluster? ⟨rfl, fun _ => rfl, fun c hc => ?_⟩ rfl fun r => below_filled ?_
  · cases c <;> cases hc
    exact ⟨_, rfl⟩
  exact below_reference.bind fun _ => below_reference.bind fun _ => below_pure _

theorem below_clusterServers (ht : Kind.server.tier < t) (cluster : Option ClusterConfig)
    (id : Int) : Below t (clusterServers cluster id) := by
  unfold clusterServers
  split
  · exact (Below.servers id).bind fun _ => below_present (fun i => (rooted_server i).below ht) _
  · exact below_pure _

theorem rooted_node (id : Int) : Rooted ⟨.node, id⟩ .node Config.node? (buildNode id) := by
  refine rooted_of Record.node? ⟨rfl, fun _ => rfl, fun c hc => ?_⟩ rfl fun r => below_filled ?_
  · cases c <;> cases hc
    exact ⟨_, rfl⟩
  have hcluster : Kind.cluster.tier < Kind.node.tier := by decide
  have hserver : Kind.server.tier < Kind.node.tier := by decide
  refine below_reference.bind fun _ => ((rooted_cluster _).below hcluster).bind fun _ => ?_
  exact (below_clusterServers hserver _ _).bind fun _ => below_pure _

theorem exists_rooted (target : EntityRef) :
    ∃ (α : Type) (wrap : α → Config) (unwrap : Config → Option α) (build : Composing (Option α)),
      Rooted target wrap unwrap build := by
  obtain ⟨kind, id⟩ := target
  cases kind with
  | cluster => exact ⟨_, _, _, _, rooted_cluster id⟩
  | node => exact ⟨_, _, _, _, rooted_node id⟩
  | server => exact ⟨_, _, _, _, rooted_server id⟩
  | serverGroup => exact ⟨_, _, _, _, rooted_serverGroup id⟩
  | reverseProxy => exact ⟨_, _, _, _, rooted_reverseProxy id⟩
  | origin => exact ⟨_, _, _, _, rooted_origin id⟩

end Composing

end Fleet
