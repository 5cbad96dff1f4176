import Fleet.Proofs.Composition.Logic
import Fleet.Proofs.Propagation
import Fleet.Sync

/-!
# What the config of a node is composed from

The composition of a node reads the entities that the node uses, and a change of any of them reaches
the node. So the walk upwards finds whatever the composition downwards can meet.
-/

namespace Fleet

namespace Store

/-- The config of the node depends on the entity. -/
inductive Uses (s : Store) (n : Int) : EntityRef → Prop where
  | self : Uses s n ⟨.node, n⟩
  | cluster {r : Node} : s.find? ⟨.node, n⟩ = some (.node r) → r.state.isEnabled = true →
      0 < r.clusterId → Uses s n ⟨.cluster, r.clusterId⟩
  | child {e : Edge} : Uses s n e.parent → s.isEnabled e.parent = true → s.Declares e →
      Uses s n e.child

/-- The composition of the node may make the call. -/
inductive Feeds (s : Store) (n : Int) : Call → Prop where
  | find {x : EntityRef} : s.Uses n x → Feeds s n (.find x)
  | servers {k : Int} : s.Uses n ⟨.cluster, k⟩ → s.isEnabled ⟨.cluster, k⟩ = true →
      Feeds s n (.enabledServers k)

variable {s : Store} {n : Int}

theorem Feeds.isRead {c : Call} (h : s.Feeds n c) : c.isRead = true := by cases h <;> rfl

theorem above_of_height_lt {x p : EntityRef} (h : p.kind.height < x.kind.height) :
    s.above x = s.parentsOf x := by
  have := p.kind.height_pos
  unfold above
  split
  · rename_i hk
    rw [hk] at h
    exact absurd h (Nat.not_lt.2 this)
  · rename_i hk
    rw [hk] at h
    exact absurd h (Nat.not_lt.2 this)
  · rfl

/-- What a node uses reaches the node. -/
theorem Uses.reaches (hs : s.Sound) {x : EntityRef} (h : s.Uses n x)
    (hself : x = ⟨.node, n⟩ → (s.find? x).isSome = true) : s.Reaches x n := by
  induction h with
  | self => exact .here (by simp [direct, hself rfl])
  | cluster hr he _ => exact .here (by simpa [direct] using (mem_enabledNodes hs).2 ⟨_, hr, rfl, he⟩)
  | @child e _ he hd ih =>
      obtain ⟨r, hr, _⟩ := isEnabled_iff.1 he
      obtain ⟨_, _, _, hmem⟩ := id hd
      refine .above ?_ (ih fun _ => by simp [hr])
      rw [above_of_height_lt (Record.height_lt_of_mem_edges hmem)]
      exact (mem_parentsOf hs).2 ⟨hd, he⟩

/-- An enabled entity passes on what it declares. -/
theorem Uses.of_edge {x c : EntityRef} {r : Record} (h : s.Uses n x) (hr : s.find? x = some r)
    (he : r.isEnabled = true) (hc : ⟨c, x⟩ ∈ r.edges) : s.Uses n c :=
  .child (e := ⟨c, x⟩) h (isEnabled_iff.2 ⟨r, hr, he⟩) ⟨x, r, hr, hc⟩

/-- A cluster that is used is that of the node. -/
theorem Uses.cluster_pos {k : Int} (h : s.Uses n ⟨.cluster, k⟩) :
    0 < k ∧ ∃ r, s.find? ⟨.node, n⟩ = some (.node r) ∧ r.state.isEnabled = true ∧ r.clusterId = k := by
  generalize hx : (⟨.cluster, k⟩ : EntityRef) = x at h
  cases h with
  | self => cases hx
  | cluster hr he hpos =>
      cases hx
      exact ⟨hpos, _, hr, he, rfl⟩
  | @child e _ _ hd =>
      obtain ⟨_, _, _, hmem⟩ := hd
      have hlt := Record.height_lt_of_mem_edges hmem
      rw [← hx] at hlt
      exact absurd hlt (Nat.not_lt.2 e.parent.kind.height_pos)

/-- A server of a cluster that is used declares the cluster, whatever its own state. -/
theorem Uses.server_of_find (hs : s.Sound) {k id : Int} {r : Server} (h : s.Uses n ⟨.cluster, k⟩)
    (he : s.isEnabled ⟨.cluster, k⟩ = true) (hr : s.find? ⟨.server, id⟩ = some (.server r))
    (hk : r.clusterId = k) : s.Uses n ⟨.server, id⟩ := by
  subst hk
  refine .child (e := ⟨⟨.server, id⟩, ⟨.cluster, r.clusterId⟩⟩) h he ⟨_, _, hr, ?_⟩
  simp only [Record.edges, Server.edges, if_pos h.cluster_pos.1, List.mem_append]
  rw [← hs.own hr]
  exact .inl (.inl (List.mem_singleton_self _))

theorem Uses.server (hs : s.Sound) {k id : Int} (h : s.Uses n ⟨.cluster, k⟩)
    (he : s.isEnabled ⟨.cluster, k⟩ = true) (hid : id ∈ s.enabledServers k) :
    s.Uses n ⟨.server, id⟩ := by
  obtain ⟨_, hr, hk, _⟩ := (mem_enabledServers hs).1 hid
  exact h.server_of_find hs he hr hk

end Store

namespace Composing

open Store

variable {α β : Type} {s : Store} {n : Int}

/-! ## Rules -/

/-- What the cache keeps as composed is stored and enabled. -/
def Backed (s : Store) (cache : Cache) : Prop :=
  ∀ key config, cache.slots.find? key = some (.ready config) → s.isEnabled key = true

/-- The calls are among those that the config of the node may need. -/
abbrev Reads (s : Store) (n : Int) (x : Composing α) (Q : Except Failure α → Prop) : Prop :=
  Holds s (s.Feeds n) (Backed s) x Q

theorem reads_bind {x : Composing α} {f : α → Composing β} {Q : Except Failure α → Prop}
    (hx : Reads s n x Q) (hf : ∀ a, Q (.ok a) → Reads s n (f a) fun _ => True) :
    Reads s n (x >>= f) fun _ => True :=
  hx.bind (fun _ h => h.isRead) hf fun _ _ => trivial

theorem Backed.put {cache : Cache} (h : Backed s cache) {key : EntityRef} {slot : CacheSlot}
    (hslot : ∀ config, slot = .ready config → s.isEnabled key = true) :
    Backed s (cache.put key slot) := by
  intro k config hk
  by_cases hkey : k = key
  · subst hkey
    rw [Cache.put, OrdMap.find?_insert_self] at hk
    exact hslot config (Option.some.inj hk)
  · rw [Cache.put, OrdMap.find?_insert_of_ne _ _ hkey] at hk
    exact h k config hk

theorem Backed.abandon {cache : Cache} (h : Backed s cache) (key : EntityRef) :
    Backed s (cache.abandon key) := by
  intro k config hk
  rw [Cache.abandon, OrdMap.find?_erase] at hk
  split at hk
  · cases hk
  · exact h k config hk

theorem backed_empty : Backed s .empty := by
  intro _ _ h
  simp [Cache.empty, OrdMap.find?_empty] at h

/-- A present outcome speaks for an enabled entity. -/
def Present (s : Store) (key : EntityRef) (r : Except Failure (Option α)) : Prop :=
  ∀ a, r = .ok (some a) → s.isEnabled key = true

theorem present_none {key : EntityRef} : Present s key (.ok none : Except Failure (Option α)) :=
  fun _ h => nomatch h

theorem present_error {key : EntityRef} {e : Failure} :
    Present s key (.error e : Except Failure (Option α)) := fun _ h => nomatch h

theorem reads_cached {key : EntityRef} {wrap : α → Config} {unwrap : Config → Option α}
    {build : Composing (Option α)} (h : 0 < key.id → Reads s n build (Present s key)) :
    Reads s n (cached key wrap unwrap build) (Present s key) := by
  refine holds_cached (fun _ h => h.isRead) (fun _ => present_none) (fun cache hi => ?_) fun hpos =>
    holds_settled (fun c hc => hc.put fun _ h => nomatch h) (h hpos) (fun c a hc hq => ?_)
      fun c e hc _ => hc.abandon key
  · unfold Cache.lookup
    split
    · exact hi
    · exact ⟨hi, present_none⟩
    · exact ⟨hi, present_none⟩
    · rename_i config hf
      split
      · exact ⟨hi, fun _ _ _ _ => hi _ _ hf⟩
      · exact present_error
  · cases a with
    | none => exact hc.put fun _ h => nomatch h
    | some a => exact hc.put fun _ _ => hq a rfl

/-- A builder reads the record of its key, and goes on if there is one. -/
theorem reads_find {ρ : Type} {key : EntityRef} {find : Action (Option ρ)} (pick : Record → Option ρ)
    {f : Option ρ → Composing (Option α)} (huse : s.Uses n key)
    (hcalls : find.run.calls s = [.find key])
    (hfind : (Action.on find s).1 = .ok ((s.find? key).bind pick))
    (hnone : f none = pure none)
    (hsome : ∀ r a, s.find? key = some r → pick r = some a → Reads s n (f (some a)) (Present s key)) :
    Reads s n (ofAction find >>= f) (Present s key) := by
  refine holds_read (fun _ h => h.isRead) ?_ hfind ?_
  · rw [hcalls]
    simpa using Feeds.find huse
  · cases hv : (s.find? key).bind pick with
    | none =>
        rw [hnone]
        exact holds_pure present_none
    | some a =>
        obtain ⟨r, hr, ha⟩ := Option.bind_eq_some_iff.1 hv
        exact hsome r a hr ha

/-- What is filled in is enabled. -/
theorem reads_filled {key : EntityRef} {enabled : Bool} {fill : Composing α}
    (he : enabled = true → s.isEnabled key = true)
    (h : enabled = true → Reads s n fill fun _ => True) :
    Reads s n (if enabled = true then do return some (← fill) else return none) (Present s key) := by
  split
  · rename_i hon
    exact (h hon).bind (fun _ h => h.isRead) (fun _ _ => holds_pure fun _ _ => he hon)
      fun _ _ => present_error
  · exact holds_pure present_none

theorem reads_reference {owner : EntityRef} {field : String} {d : Json.Decoder α} {r : RefText} :
    Reads s n (reference owner field d r) fun a => ∀ v, a = .ok v → r.decoded? d = v := by
  refine holds_reference ?_
  unfold RefText.decoded?
  cases r.decode d with
  | ok v => exact fun _ h => Except.ok.inj h
  | error _ => exact fun _ h => nomatch h

theorem reads_present {f : β → Composing (Option α)} {l : List β}
    (h : ∀ b ∈ l, Reads s n (f b) fun _ => True) : Reads s n (present f l) fun _ => True :=
  holds_present (fun _ h => h.isRead) h

/-! ## Builders -/

theorem reads_origin {id : Int} (h : 0 < id → s.Uses n ⟨.origin, id⟩) :
    Reads s n (origin id) fun _ => True := by
  refine (reads_cached fun hpos => ?_).imp fun _ _ => trivial
  refine reads_find Record.origin? (h hpos) rfl rfl rfl fun r a hr ha => ?_
  obtain rfl : r = .origin a := by cases r <;> cases ha; rfl
  refine holds_pure fun _ hsome => isEnabled_iff.2 ⟨_, hr, ?_⟩
  by_contra hoff
  have hoff : ¬ a.state.isEnabled = true := hoff
  simp [hoff] at hsome

theorem reads_origins {refs : List OriginRef}
    (h : ∀ r ∈ refs, 0 < r.originId → s.Uses n ⟨.origin, r.originId⟩) :
    Reads s n (origins refs) fun _ => True :=
  reads_present fun r hr => reads_origin (h r (List.mem_of_mem_filter hr))

theorem reads_reverseProxy (hs : s.Sound) {id : Int} (h : 0 < id → s.Uses n ⟨.reverseProxy, id⟩) :
    Reads s n (reverseProxy id) fun _ => True := by
  refine (reads_cached fun hpos => ?_).imp fun _ _ => trivial
  refine reads_find Record.reverseProxy? (h hpos) rfl rfl rfl fun r a hr ha => ?_
  obtain rfl : r = .reverseProxy a := by cases r <;> cases ha; rfl
  obtain rfl : a.id = id := congrArg EntityRef.id (hs.own hr)
  refine reads_filled (fun he => isEnabled_iff.2 ⟨_, hr, he⟩) fun he => ?_
  have hedge {o : Int} (ho : o ∈ originIds a.primaryOrigins ++ originIds a.backupOrigins)
      (hposo : 0 < o) : s.Uses n ⟨.origin, o⟩ :=
    (h hpos).of_edge hr he (mem_edgesTo.2 ⟨rfl, rfl, hposo, ho⟩)
  unfold fillReverseProxy
  refine reads_bind reads_reference fun _ _ => ?_
  refine reads_bind reads_reference fun primary hp => ?_
  refine reads_bind reads_reference fun backup hb => ?_
  refine reads_bind (reads_origins fun o ho => hedge ?_) fun _ _ => ?_
  · rw [List.mem_append, originIds, hp _ rfl]
    exact .inl (List.mem_map_of_mem ho)
  refine reads_bind (reads_origins fun o ho => hedge ?_) fun _ _ => holds_pure trivial
  · rw [List.mem_append, originIds, originIds, hb _ rfl]
    exact .inr (List.mem_map_of_mem ho)

theorem reads_slot (hs : s.Sound) {owner : EntityRef} {p : Protocol} {r : RefText}
    (h : ∀ ref, r.decoded? ReverseProxyRef.decoder = some ref → 0 < ref.reverseProxyId →
      s.Uses n ⟨.reverseProxy, ref.reverseProxyId⟩) :
    Reads s n (slot owner p r) fun _ => True := by
  unfold slot
  refine reads_bind reads_reference fun ref href => ?_
  cases ref with
  | none => exact holds_pure trivial
  | some ref =>
      exact reads_bind (reads_reverseProxy hs (h ref (href _ rfl))) fun _ _ => holds_pure trivial

theorem reads_slots (hs : s.Sound) {owner : EntityRef} {r : Protocol → RefText}
    (h : ∀ id ∈ slotIds r, 0 < id → s.Uses n ⟨.reverseProxy, id⟩) :
    Reads s n (slots owner r) fun _ => True := by
  have hslot (p : Protocol) : Reads s n (slot owner p (r p)) fun _ => True := by
    refine reads_slot hs fun ref href => h _ (List.mem_filterMap.2 ⟨p, ?_, ?_⟩)
    · cases p <;> decide
    · rw [href, Option.map_some]
  unfold slots
  refine reads_bind (hslot .http) fun _ _ => ?_
  refine reads_bind (hslot .tcp) fun _ _ => ?_
  exact reads_bind (hslot .udp) fun _ _ => holds_pure trivial

theorem reads_serverGroup (hs : s.Sound) {id : Int} (h : 0 < id → s.Uses n ⟨.serverGroup, id⟩) :
    Reads s n (serverGroup id) fun _ => True := by
  refine (reads_cached fun hpos => ?_).imp fun _ _ => trivial
  refine reads_find Record.serverGroup? (h hpos) rfl rfl rfl fun r a hr ha => ?_
  obtain rfl : r = .serverGroup a := by cases r <;> cases ha; rfl
  obtain rfl : a.id = id := congrArg EntityRef.id (hs.own hr)
  refine reads_filled (fun he => isEnabled_iff.2 ⟨_, hr, he⟩) fun he => ?_
  unfold fillServerGroup
  refine reads_bind (reads_slots hs fun o ho hposo => ?_) fun _ _ => holds_pure trivial
  exact (h hpos).of_edge hr he (mem_edgesTo.2 ⟨rfl, rfl, hposo, ho⟩)

theorem reads_server (hs : s.Sound) {id : Int} (h : 0 < id → s.Uses n ⟨.server, id⟩) :
    Reads s n (server id) fun _ => True := by
  refine (reads_cached fun hpos => ?_).imp fun _ _ => trivial
  refine reads_find Record.server? (h hpos) rfl rfl rfl fun r a hr ha => ?_
  obtain rfl : r = .server a := by cases r <;> cases ha; rfl
  obtain rfl : a.id = id := congrArg EntityRef.id (hs.own hr)
  refine reads_filled (fun he => isEnabled_iff.2 ⟨_, hr, he⟩) fun he => ?_
  unfold fillServer
  refine reads_bind (reads_slots hs fun o ho hposo => ?_) fun _ _ => ?_
  · exact (h hpos).of_edge hr he
      (List.mem_append_right _ (mem_edgesTo.2 ⟨rfl, rfl, hposo, ho⟩))
  refine reads_bind reads_reference fun groupIds hg => ?_
  refine reads_bind (reads_present fun g hmem => reads_serverGroup hs fun hposg => ?_)
    fun _ _ => holds_pure trivial
  refine (h hpos).of_edge hr he (List.mem_append_left _ (List.mem_append_right _ ?_))
  exact mem_edgesTo.2 ⟨rfl, rfl, hposg, by rwa [hg _ rfl]⟩

theorem reads_cluster {id : Int} (h : 0 < id → s.Uses n ⟨.cluster, id⟩) :
    Reads s n (cluster id) (Present s ⟨.cluster, id⟩) := by
  refine reads_cached fun hpos => ?_
  refine reads_find Record.cluster? (h hpos) rfl rfl rfl fun r a hr ha => ?_
  obtain rfl : r = .cluster a := by cases r <;> cases ha; rfl
  refine reads_filled (fun he => isEnabled_iff.2 ⟨_, hr, he⟩) fun he => ?_
  unfold fillCluster
  refine reads_bind reads_reference fun _ _ => ?_
  exact reads_bind reads_reference fun _ _ => holds_pure trivial

theorem reads_clusterServers (hs : s.Sound) {cluster : Option ClusterConfig} {k : Int}
    (huse : 0 < k → s.Uses n ⟨.cluster, k⟩)
    (he : cluster.isSome = true → s.isEnabled ⟨.cluster, k⟩ = true) :
    Reads s n (clusterServers cluster k) fun _ => True := by
  unfold clusterServers
  split
  · rename_i hsome
    have hon := he hsome
    obtain ⟨_, hr, _⟩ := isEnabled_iff.1 hon
    have huse := huse (hs.positive hr)
    refine holds_read (fun _ h => h.isRead) ?_ rfl ?_
    · exact fun c hc => List.mem_singleton.1 hc ▸ Feeds.servers huse hon
    · exact reads_present fun id hid => reads_server hs fun _ => huse.server hs hon hid
  · exact holds_pure trivial

theorem reads_node (hs : s.Sound) : Reads s n (node n) fun _ => True := by
  refine (reads_cached fun _ => ?_).imp fun _ _ => trivial
  refine reads_find Record.node? .self rfl rfl rfl fun r a hr ha => ?_
  obtain rfl : r = .node a := by cases r <;> cases ha; rfl
  refine reads_filled (fun he => isEnabled_iff.2 ⟨_, hr, he⟩) fun he => ?_
  have huse (hpos : 0 < a.clusterId) : s.Uses n ⟨.cluster, a.clusterId⟩ := .cluster hr he hpos
  unfold fillNode
  refine reads_bind reads_reference fun _ _ => ?_
  refine reads_bind (reads_cluster huse) fun c hc => ?_
  refine reads_bind (reads_clusterServers hs huse fun hsome => ?_) fun _ _ => holds_pure trivial
  obtain ⟨c, rfl⟩ := Option.isSome_iff_exists.1 hsome
  exact hc c rfl

end Composing

/-! ## Fetches -/

theorem calls_composeFresh (target : EntityRef) (s : Store) :
    (composeFresh target).run.calls s = Composing.callsOn (Composing.entity target) .empty s := by
  refine (Program.calls_bind ((compose target).run.run .empty) _ s).trans ?_
  rw [Program.calls_pure, List.append_nil]
  refine (Program.calls_bind ((Composing.entity target).run.run .empty) _ s).trans ?_
  exact List.append_nil _

/-- The composition of a node only makes calls that feed the node. -/
theorem feeds_of_mem_composeFresh {s : Store} (hs : s.Sound) {n : Int} :
    ∀ c ∈ (composeFresh ⟨.node, n⟩).run.calls s, s.Feeds n c := by
  have hentity : Composing.Reads s n (Composing.entity ⟨.node, n⟩) fun _ => True :=
    (Composing.reads_node hs).map (fun _ h => h.isRead) fun _ _ => trivial
  rw [calls_composeFresh]
  exact (hentity .empty Composing.backed_empty).1

theorem feeds_of_mem_fetch {s : Store} (hs : s.Sound) {n : Int} :
    ∀ c ∈ (fetch ⟨.node, n⟩).run.calls s, s.Feeds n c := by
  intro c hc
  rw [fetch, Action.calls_bind, Action.on_check] at hc
  cases hid : requireId "id" n with
  | ok _ => exact feeds_of_mem_composeFresh hs c (by simpa [hid] using hc)
  | error _ => simp [hid] at hc

end Fleet
