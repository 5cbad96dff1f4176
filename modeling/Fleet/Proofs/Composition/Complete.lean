import Fleet.Proofs.Composition.Alike
import Fleet.Proofs.Mutation.Basic

/-!
# Complete configs

A config is complete if every level of it shows an enabled record of the store, with every enabled
entity that the record refers to and no other. What is composed is complete, however much of it came
from the cache.
-/

namespace Fleet

open Json Json.Decoder

/-- The record is stored and enabled. -/
def Store.Serves (s : Store) (r : Record) : Prop := s.find? r.ref = some r ∧ r.isEnabled = true

/-- Of the references that are on, the origins that are enabled, in order. -/
def Store.enabledOrigins (s : Store) (refs : List OriginRef) : List Int :=
  (refs.filter fun r => r.isOn && s.isEnabled ⟨.origin, r.originId⟩).map (·.originId)

/-- The group is enabled and of the given order. -/
def Store.hasGroup (s : Store) (order id : Int) : Bool :=
  (s.find? ⟨.serverGroup, id⟩).any fun r =>
    r.isEnabled && r.serverGroup?.any fun g => g.order = order

/-! ## What a config shows -/

def OriginConfig.Complete (s : Store) (c : OriginConfig) : Prop :=
  ∃ r : Origin, s.Serves (.origin r) ∧ c = r.config

/-- The numbers in scheduling options are as far those that are stored as the look tells. -/
structure ReverseProxyConfig.Shows (v : Number.View) (s : Store) (r : ReverseProxy)
    (c : ReverseProxyConfig) : Prop where
  id : c.id = r.id
  isOn : c.isOn = r.isOn
  requestHost : c.requestHost = r.requestHost
  stripPrefix : c.stripPrefix = r.stripPrefix
  scheduling : ∃ o, r.scheduling.decode Scheduling.decoder = .ok o ∧
    c.scheduling.map (·.renumber v.see) = o.map (·.renumber v.see)
  primaryRefs : ∃ o, r.primaryOrigins.decode (list OriginRef.decoder) = .ok o ∧
    c.primaryOriginRefs = o.getD []
  backupRefs : ∃ o, r.backupOrigins.decode (list OriginRef.decoder) = .ok o ∧
    c.backupOriginRefs = o.getD []
  primary : c.primaryOrigins.map (·.id) = s.enabledOrigins c.primaryOriginRefs
  backup : c.backupOrigins.map (·.id) = s.enabledOrigins c.backupOriginRefs
  primaryComplete : ∀ o ∈ c.primaryOrigins, o.Complete s
  backupComplete : ∀ o ∈ c.backupOrigins, o.Complete s

def ReverseProxyConfig.Complete (v : Number.View) (s : Store) (c : ReverseProxyConfig) : Prop :=
  ∃ r : ReverseProxy, s.Serves (.reverseProxy r) ∧ c.Shows v s r

/-- The slot has a config exactly if its reference names an enabled proxy. -/
structure ProxySlot.Complete (v : Number.View) (s : Store) (r : RefText) (c : ProxySlot) : Prop where
  reference : r.decode ReverseProxyRef.decoder = .ok c.reference
  config : c.config.map (·.id)
    = (c.reference.map (·.reverseProxyId)).filter fun id => s.isEnabled ⟨.reverseProxy, id⟩
  configComplete : ∀ p ∈ c.config, p.Complete v s

structure ServerGroupConfig.Shows (v : Number.View) (s : Store) (r : ServerGroup)
    (c : ServerGroupConfig) : Prop where
  id : c.id = r.id
  name : c.name = r.name
  isOn : c.isOn = r.isOn
  order : c.order = r.order
  proxies : ∀ p, (c.proxies.get p).Complete v s (r.slot p)

def ServerGroupConfig.Complete (v : Number.View) (s : Store) (c : ServerGroupConfig) : Prop :=
  ∃ r : ServerGroup, s.Serves (.serverGroup r) ∧ c.Shows v s r

/-- The groups are in decreasing order; groups of equal order stand as the record names them. -/
structure ServerConfig.Shows (v : Number.View) (s : Store) (r : Server) (c : ServerConfig) :
    Prop where
  id : c.id = r.id
  clusterId : c.clusterId = r.clusterId
  name : c.name = r.name
  isOn : c.isOn = r.isOn
  serverType : c.serverType = r.serverType
  proxies : ∀ p, (c.proxies.get p).Complete v s (r.slot p)
  groups : ∃ ids, r.groupIds.decode (list int64) = .ok ids ∧
    ∀ order, (c.groups.filter (·.order = order)).map (·.id)
      = (ids.getD []).filter (s.hasGroup order)
  decreasing : c.groups.Pairwise fun a b => b.order ≤ a.order
  groupsComplete : ∀ g ∈ c.groups, g.Complete v s

def ServerConfig.Complete (v : Number.View) (s : Store) (c : ServerConfig) : Prop :=
  ∃ r : Server, s.Serves (.server r) ∧ c.Shows v s r

structure ClusterConfig.Shows (r : Cluster) (c : ClusterConfig) : Prop where
  id : c.id = r.id
  name : c.name = r.name
  installDir : c.installDir = r.installDir
  useAllApiNodes : c.useAllApiNodes = r.useAllApiNodes
  apiNodes : ∃ o, r.apiNodes.decode (list int64) = .ok o ∧ c.apiNodeIds = o.getD []
  healthCheck : r.healthCheck.decode HealthPolicy.decoder = .ok c.healthCheck

def ClusterConfig.Complete (s : Store) (c : ClusterConfig) : Prop :=
  ∃ r : Cluster, s.Serves (.cluster r) ∧ c.Shows r

/-- The servers are those of the cluster, which must be enabled itself. -/
structure NodeConfig.Shows (v : Number.View) (s : Store) (r : Node) (c : NodeConfig) : Prop where
  id : c.id = r.id
  name : c.name = r.name
  isOn : c.isOn = r.isOn
  clusterId : c.clusterId = r.clusterId
  accessAddrs : ∃ o, r.accessAddrs.decode (list string) = .ok o ∧ c.accessAddrs = o.getD []
  cluster : c.cluster.map (·.id)
    = if s.isEnabled ⟨.cluster, r.clusterId⟩ = true then some r.clusterId else none
  clusterComplete : ∀ k ∈ c.cluster, k.Complete s
  servers : ∀ id, id ∈ c.servers.map (·.id) ↔ s.isEnabled ⟨.cluster, r.clusterId⟩ = true ∧
    ∃ a : Server, s.Serves (.server a) ∧ a.id = id ∧ a.clusterId = r.clusterId
  ascending : (c.servers.map (·.id)).Pairwise (· < ·)
  serversComplete : ∀ a ∈ c.servers, a.Complete v s

def NodeConfig.Complete (v : Number.View) (s : Store) (c : NodeConfig) : Prop :=
  ∃ r : Node, s.Serves (.node r) ∧ c.Shows v s r

/-- Every level of the config shows what is stored and enabled. -/
def Config.Complete (v : Number.View) (s : Store) : Config → Prop
  | .cluster c => c.Complete s
  | .node c => c.Complete v s
  | .server c => c.Complete v s
  | .serverGroup c => c.Complete v s
  | .reverseProxy c => c.Complete v s
  | .origin c => c.Complete s

/-! ## Configs that look the same -/

variable {α β γ ρ : Type} {v : Number.View} {s : Store}

theorem forall_of_map_eq {f : α → β} {P : α → Prop} (hP : ∀ a b, P b → f a = f b → P a)
    {l m : List α} (hmap : l.map f = m.map f) (h : ∀ b ∈ m, P b) : ∀ a ∈ l, P a := by
  intro a ha
  have hmem : f a ∈ m.map f := hmap ▸ List.mem_map_of_mem ha
  obtain ⟨b, hb, he⟩ := List.mem_map.1 hmem
  exact hP a b (h b hb) he.symm

namespace ReverseProxyConfig

theorem Complete.of_see {c d : ReverseProxyConfig} (h : d.Complete v s)
    (hsee : c.renumber v.see = d.renumber v.see) : c.Complete v s := by
  obtain ⟨r, hr, hd⟩ := h
  cases c
  cases d
  -- a look leaves all but the scheduling as it is
  obtain ⟨rfl, rfl, hscheduling, rfl, rfl, rfl, rfl, rfl, rfl⟩ := ReverseProxyConfig.mk.inj hsee
  obtain ⟨o, ho, hlook⟩ := hd.scheduling
  exact ⟨r, hr, { hd with scheduling := ⟨o, ho, hscheduling.trans hlook⟩ }⟩

end ReverseProxyConfig

theorem ProxySlot.Complete.of_see {r : RefText} {c d : ProxySlot} (h : d.Complete v s r)
    (hsee : c.renumber v.see = d.renumber v.see) : c.Complete v s r := by
  obtain ⟨reference, c⟩ := c
  obtain ⟨reference', d⟩ := d
  obtain ⟨rfl, hconfig⟩ := ProxySlot.mk.inj hsee
  cases c with
  | none =>
      cases d with
      | none => exact h
      | some d => cases hconfig
  | some c =>
      cases d with
      | none => cases hconfig
      | some d =>
          have hcd : c.renumber v.see = d.renumber v.see := Option.some.inj hconfig
          have hid : (c.renumber v.see).id = (d.renumber v.see).id := by rw [hcd]
          refine ⟨h.reference, ?_, ?_⟩
          · have hd := h.config
            simp only [Option.map_some] at hd ⊢
            exact (congrArg some hid).trans hd
          · rintro p ⟨⟩
            exact (h.configComplete d rfl).of_see hcd

theorem ProxySlots.complete_of_see {r : Protocol → RefText} {c d : ProxySlots}
    (h : ∀ p, (d.get p).Complete v s (r p)) (hsee : c.renumber v.see = d.renumber v.see)
    (p : Protocol) : (c.get p).Complete v s (r p) := by
  refine (h p).of_see ?_
  rw [← get_renumber, hsee, get_renumber]

theorem ServerGroupConfig.Complete.of_see {c d : ServerGroupConfig} (h : d.Complete v s)
    (hsee : c.renumber v.see = d.renumber v.see) : c.Complete v s := by
  obtain ⟨r, hr, hd⟩ := h
  cases c
  cases d
  obtain ⟨rfl, rfl, rfl, rfl, hproxies⟩ := ServerGroupConfig.mk.inj hsee
  exact ⟨r, hr, { hd with proxies := ProxySlots.complete_of_see hd.proxies hproxies }⟩

theorem ServerConfig.Complete.of_see {c d : ServerConfig} (h : d.Complete v s)
    (hsee : c.renumber v.see = d.renumber v.see) : c.Complete v s := by
  obtain ⟨r, hr, hd⟩ := h
  obtain ⟨ids, hids, horders⟩ := hd.groups
  have hdecreasing := hd.decreasing
  have hcomplete := hd.groupsComplete
  obtain ⟨_, _, _, _, _, _, groups⟩ := c
  obtain ⟨_, _, _, _, _, _, groups'⟩ := d
  obtain ⟨rfl, rfl, rfl, rfl, rfl, hproxies, hgroups⟩ := ServerConfig.mk.inj hsee
  have hsorted : (groups.map (ServerGroupConfig.renumber v.see)).Pairwise fun a b =>
      b.order ≤ a.order := hgroups ▸ List.pairwise_map.2 hdecreasing
  refine ⟨r, hr, { hd with proxies := ?_, groups := ?_, decreasing := ?_, groupsComplete := ?_ }⟩
  · exact ProxySlots.complete_of_see hd.proxies hproxies
  · refine ⟨ids, hids, fun order => ?_⟩
    rw [← horders order]
    have hfiltered := congrArg (fun l => (l.filter (·.order = order)).map (·.id)) hgroups
    simp only [List.filter_map, List.map_map] at hfiltered
    exact hfiltered
  · exact List.pairwise_map.1 hsorted
  · exact forall_of_map_eq (fun _ _ => ServerGroupConfig.Complete.of_see) hgroups hcomplete

theorem NodeConfig.Complete.of_see {c d : NodeConfig} (h : d.Complete v s)
    (hsee : c.renumber v.see = d.renumber v.see) : c.Complete v s := by
  obtain ⟨r, hr, hd⟩ := h
  have hservers := hd.servers
  have hascending := hd.ascending
  have hcomplete := hd.serversComplete
  obtain ⟨_, _, _, _, _, _, servers⟩ := c
  obtain ⟨_, _, _, _, _, _, servers'⟩ := d
  obtain ⟨rfl, rfl, rfl, rfl, rfl, rfl, hmap⟩ := NodeConfig.mk.inj hsee
  have hids : servers.map (·.id) = servers'.map (·.id) := by
    have hids := congrArg (List.map ServerConfig.id) hmap
    simp only [List.map_map] at hids
    exact hids
  refine ⟨r, hr, { hd with servers := ?_, ascending := ?_, serversComplete := ?_ }⟩
  · exact hids ▸ hservers
  · exact hids ▸ hascending
  · exact forall_of_map_eq (fun _ _ => ServerConfig.Complete.of_see) hmap hcomplete

/-- Of configs that look the same, each is complete if the other is. -/
theorem Config.Complete.of_see {c d : Config} (h : d.Complete v s)
    (hsee : c.renumber v.see = d.renumber v.see) : c.Complete v s := by
  cases d with
  | cluster d =>
      cases c with
      | cluster c => exact Config.cluster.inj hsee ▸ h
      | _ => cases hsee
  | node d =>
      cases c with
      | node c => exact NodeConfig.Complete.of_see h (Config.node.inj hsee)
      | _ => cases hsee
  | server d =>
      cases c with
      | server c => exact ServerConfig.Complete.of_see h (Config.server.inj hsee)
      | _ => cases hsee
  | serverGroup d =>
      cases c with
      | serverGroup c => exact ServerGroupConfig.Complete.of_see h (Config.serverGroup.inj hsee)
      | _ => cases hsee
  | reverseProxy d =>
      cases c with
      | reverseProxy c => exact ReverseProxyConfig.Complete.of_see h (Config.reverseProxy.inj hsee)
      | _ => cases hsee
  | origin d =>
      cases c with
      | origin c => exact Config.origin.inj hsee ▸ h
      | _ => cases hsee

/-! ## Composition without a cache -/

namespace Plain

/-! Ids of what is composed, which tell where an entity is absent. -/

/-- What becomes of a list, counted by one of its aspects. -/
theorem map_filter_present {f : β → Except Failure (Option α)} {p : α → Bool} {k : α → γ}
    {q : β → Bool} {g : β → γ}
    (h : ∀ b o, f b = .ok o → (o.filter p).map k = if q b = true then some (g b) else none)
    {l : List β} {as : List α} (has : present f l = .ok as) :
    (as.filter p).map k = (l.filter q).map g := by
  induction l generalizing as with
  | nil =>
      cases has
      rfl
  | cons b l ih =>
      obtain ⟨o, ho, has⟩ := of_bind_eq_ok has
      obtain ⟨rest, hrest, has⟩ := of_bind_eq_ok has
      cases has
      have hb := h b o ho
      rw [List.filter_append, List.map_append, ih hrest, List.filter_cons]
      cases o with
      | none =>
          cases hq : q b with
          | true => simp [hq] at hb
          | false => simp
      | some a =>
          cases hq : q b <;> cases hp : p a <;> simp_all [Option.filter]

theorem map_present {f : β → Except Failure (Option α)} {k : α → γ} {q : β → Bool} {g : β → γ}
    (h : ∀ b o, f b = .ok o → o.map k = if q b = true then some (g b) else none)
    {l : List β} {as : List α} (has : present f l = .ok as) : as.map k = (l.filter q).map g := by
  have hall : ∀ b o, f b = .ok o →
      (o.filter fun _ => true).map k = if q b = true then some (g b) else none := by
    intro b o ho
    rw [← h b o ho]
    cases o <;> rfl
  rw [← map_filter_present hall has, List.filter_true]

section

variable {key : EntityRef} {wrap : ρ → Record} {pick : Record → Option ρ} {state : ρ → EntityState}
  {fill : ρ → Except Failure α}

theorem serves_of_built (hs : s.Sound) (hp : Picks key.kind wrap pick state) {a : α}
    (h : built s key pick state fill = .ok (some a)) :
    ∃ r, s.Serves (wrap r) ∧ (wrap r).id = key.id ∧ fill r = .ok a := by
  rcases built_cases hs hp fill with ⟨-, hb⟩ | ⟨r, hr, he, hb⟩
  · rw [hb] at h
    cases h
  · rw [hb] at h
    obtain ⟨b, hb, hab⟩ := of_map_eq_ok h
    cases hab
    have hown := hs.own hr
    exact ⟨r, ⟨hown.symm ▸ hr, he⟩, congrArg EntityRef.id hown, hb⟩

theorem id_of_built (hs : s.Sound) (hp : Picks key.kind wrap pick state) {k : α → Int}
    (hid : ∀ a, built s key pick state fill = .ok (some a) → k a = key.id) {o : Option α}
    (h : built s key pick state fill = .ok o) :
    o.map k = if s.isEnabled key = true then some key.id else none := by
  rw [← isSome_of_built hs hp h]
  cases o with
  | none => rfl
  | some a => exact congrArg some (hid a h)

end

/-! Groups are ranked by a total preorder. -/

theorem rank_trans (a b c : ServerGroupConfig) (hab : decide (b.order ≤ a.order) = true)
    (hbc : decide (c.order ≤ b.order) = true) : decide (c.order ≤ a.order) = true := by
  simp only [decide_eq_true_eq] at hab hbc ⊢
  omega

theorem rank_total (a b : ServerGroupConfig) :
    (decide (b.order ≤ a.order) || decide (a.order ≤ b.order)) = true := by
  simp only [Bool.or_eq_true, decide_eq_true_eq]
  omega

theorem decreasing_ranked (groups : List ServerGroupConfig) :
    (Composing.ranked groups).Pairwise fun a b => b.order ≤ a.order :=
  (List.pairwise_mergeSort rank_trans rank_total groups).imp of_decide_eq_true

/-- Ranking keeps the groups of one order as they stand. -/
theorem filter_ranked (groups : List ServerGroupConfig) (order : Int) :
    (Composing.ranked groups).filter (·.order = order) = groups.filter (·.order = order) := by
  have hequal : (groups.filter (·.order = order)).Pairwise fun a b =>
      decide (b.order ≤ a.order) = true := by
    refine List.pairwise_of_forall_mem_list fun a ha b hb => ?_
    simp only [List.mem_filter, decide_eq_true_eq] at ha hb ⊢
    omega
  have hsub := (List.sublist_mergeSort rank_trans rank_total hequal List.filter_sublist).filter
    (·.order = order)
  have hperm := (List.mergeSort_perm groups fun a b => decide (b.order ≤ a.order)).filter
    (·.order = order)
  rw [List.filter_filter] at hsub
  simp only [Bool.and_self] at hsub
  exact (hsub.eq_of_length hperm.length_eq.symm).symm

theorem mem_enabledServers_iff_serves (hs : s.Sound) {k i : Int} :
    i ∈ s.enabledServers k ↔ ∃ a : Server, s.Serves (.server a) ∧ a.id = i ∧ a.clusterId = k := by
  rw [Store.mem_enabledServers hs]
  constructor
  · rintro ⟨a, ha, hk, hon⟩
    have hid : a.id = i := congrArg EntityRef.id (hs.own ha)
    exact ⟨a, ⟨by rw [hs.own ha]; exact ha, hon⟩, hid, hk⟩
  · rintro ⟨a, ⟨ha, hon⟩, rfl, hk⟩
    exact ⟨a, ha, hk, hon⟩

variable (hs : s.Sound)

include hs

theorem complete_origin {i : Int} {c : OriginConfig} (h : origin s i = .ok (some c)) :
    c.id = i ∧ c.Complete s := by
  obtain ⟨r, hr, hid, hc⟩ := serves_of_built hs picks_origin h
  cases hc
  exact ⟨hid, r, hr, rfl⟩

theorem id_origin {i : Int} {o : Option OriginConfig} (h : origin s i = .ok o) :
    o.map (·.id) = if s.isEnabled ⟨.origin, i⟩ = true then some i else none :=
  id_of_built hs picks_origin (fun _ hc => (complete_origin hs hc).1) h

theorem ids_origins {refs : List OriginRef} {l : List OriginConfig}
    (h : origins s refs = .ok l) : l.map (·.id) = s.enabledOrigins refs := by
  have hids := map_present (q := fun r : OriginRef => s.isEnabled ⟨.origin, r.originId⟩)
    (fun b o => id_origin hs (i := b.originId)) h
  rw [hids, List.filter_filter, Store.enabledOrigins]
  simp only [Bool.and_comm]

theorem complete_origins {refs : List OriginRef} {l : List OriginConfig}
    (h : origins s refs = .ok l) : ∀ c ∈ l, c.Complete s := by
  intro c hc
  obtain ⟨_, _, hb⟩ := mem_present h c hc
  exact (complete_origin hs hb).2

theorem shows_fillReverseProxy {r : ReverseProxy} {c : ReverseProxyConfig}
    (h : fillReverseProxy s r = .ok c) : c.Shows v s r := by
  obtain ⟨scheduling, hscheduling, h⟩ := of_bind_eq_ok h
  obtain ⟨primary, hprimary, h⟩ := of_bind_eq_ok h
  obtain ⟨backup, hbackup, h⟩ := of_bind_eq_ok h
  obtain ⟨primaryOrigins, hprimaryOrigins, h⟩ := of_bind_eq_ok h
  obtain ⟨backupOrigins, hbackupOrigins, h⟩ := of_bind_eq_ok h
  cases h
  exact {
    id := rfl
    isOn := rfl
    requestHost := rfl
    stripPrefix := rfl
    scheduling := ⟨scheduling, of_reference hscheduling, rfl⟩
    primaryRefs := ⟨primary, of_reference hprimary, rfl⟩
    backupRefs := ⟨backup, of_reference hbackup, rfl⟩
    primary := ids_origins hs hprimaryOrigins
    backup := ids_origins hs hbackupOrigins
    primaryComplete := complete_origins hs hprimaryOrigins
    backupComplete := complete_origins hs hbackupOrigins }

theorem complete_reverseProxy {i : Int} {c : ReverseProxyConfig}
    (h : reverseProxy s i = .ok (some c)) : c.id = i ∧ c.Complete v s := by
  obtain ⟨r, hr, hid, hc⟩ := serves_of_built hs picks_reverseProxy h
  have hshows := shows_fillReverseProxy (v := v) hs hc
  exact ⟨hshows.id.trans hid, r, hr, hshows⟩

theorem id_reverseProxy {i : Int} {o : Option ReverseProxyConfig} (h : reverseProxy s i = .ok o) :
    o.map (·.id) = if s.isEnabled ⟨.reverseProxy, i⟩ = true then some i else none :=
  id_of_built hs picks_reverseProxy
    (fun _ hc => (complete_reverseProxy (v := .exact) hs hc).1) h

theorem complete_slot {owner : EntityRef} {p : Protocol} {r : RefText} {c : ProxySlot}
    (h : slot s owner p r = .ok c) : c.Complete v s r := by
  obtain ⟨ref, href, h⟩ := of_bind_eq_ok h
  have href := of_reference href
  cases ref with
  | none =>
      cases h
      exact ⟨href, rfl, fun _ hp => nomatch hp⟩
  | some ref =>
      obtain ⟨config, hconfig, h⟩ := of_bind_eq_ok h
      cases h
      refine ⟨href, ?_, ?_⟩
      · rw [id_reverseProxy hs hconfig]
        simp [Option.filter]
      · rintro c ⟨⟩
        exact (complete_reverseProxy hs hconfig).2

theorem complete_slots {owner : EntityRef} {r : Protocol → RefText} {c : ProxySlots}
    (h : slots s owner r = .ok c) (p : Protocol) : (c.get p).Complete v s (r p) := by
  obtain ⟨http, hhttp, h⟩ := of_bind_eq_ok h
  obtain ⟨tcp, htcp, h⟩ := of_bind_eq_ok h
  obtain ⟨udp, hudp, h⟩ := of_bind_eq_ok h
  cases h
  cases p with
  | http => exact complete_slot hs hhttp
  | tcp => exact complete_slot hs htcp
  | udp => exact complete_slot hs hudp

theorem shows_fillServerGroup {g : ServerGroup} {c : ServerGroupConfig}
    (h : fillServerGroup s g = .ok c) : c.Shows v s g := by
  obtain ⟨proxies, hproxies, h⟩ := of_bind_eq_ok h
  cases h
  exact ⟨rfl, rfl, rfl, rfl, complete_slots hs hproxies⟩

theorem complete_serverGroup {i : Int} {c : ServerGroupConfig}
    (h : serverGroup s i = .ok (some c)) : c.id = i ∧ c.Complete v s := by
  obtain ⟨g, hg, hid, hc⟩ := serves_of_built hs picks_serverGroup h
  have hshows := shows_fillServerGroup (v := v) hs hc
  exact ⟨hshows.id.trans hid, g, hg, hshows⟩

/-- Whether a group is there, counted by its order. -/
theorem id_serverGroup {i : Int} {o : Option ServerGroupConfig} (h : serverGroup s i = .ok o)
    (order : Int) :
    (o.filter (·.order = order)).map (·.id)
      = if s.hasGroup order i = true then some i else none := by
  unfold Store.hasGroup
  have hpicks : Picks (EntityRef.mk .serverGroup i).kind .serverGroup Record.serverGroup?
      ServerGroup.state := picks_serverGroup
  rcases built_cases hs hpicks (fillServerGroup s) with ⟨hoff, hb⟩ | ⟨g, hg, he, hb⟩
  · obtain rfl : o = none := Except.ok.inj (h.symm.trans hb)
    cases hr : s.find? ⟨.serverGroup, i⟩ with
    | none => rfl
    | some r =>
        rw [Store.isEnabled, hr, Option.any_some] at hoff
        simp [hoff]
  · obtain ⟨c, hc, rfl⟩ := of_map_eq_ok (hb.symm.trans h)
    have hshows := shows_fillServerGroup (v := .exact) hs hc
    have hid : g.id = i := congrArg EntityRef.id (hs.own hg)
    simp [Option.filter, hg, he, Record.serverGroup?, hshows.order, hshows.id, hid]

theorem shows_fillServer {r : Server} {c : ServerConfig} (h : fillServer s r = .ok c) :
    c.Shows v s r := by
  obtain ⟨proxies, hproxies, h⟩ := of_bind_eq_ok h
  obtain ⟨ids, hids, h⟩ := of_bind_eq_ok h
  obtain ⟨groups, hgroups, h⟩ := of_bind_eq_ok h
  cases h
  refine ⟨rfl, rfl, rfl, rfl, rfl, complete_slots hs hproxies, ?_, decreasing_ranked groups, ?_⟩
  · refine ⟨ids, of_reference hids, fun order => ?_⟩
    have horder := map_filter_present (g := fun i => i) (fun i o ho => id_serverGroup hs ho order)
      hgroups
    rw [filter_ranked, horder, List.map_id']
  · intro g hg
    obtain ⟨_, _, hb⟩ := mem_present hgroups g (List.mem_mergeSort.1 hg)
    exact (complete_serverGroup hs hb).2

theorem complete_server {i : Int} {c : ServerConfig} (h : server s i = .ok (some c)) :
    c.id = i ∧ c.Complete v s := by
  obtain ⟨r, hr, hid, hc⟩ := serves_of_built hs picks_server h
  have hshows := shows_fillServer (v := v) hs hc
  exact ⟨hshows.id.trans hid, r, hr, hshows⟩

theorem id_server {i : Int} {o : Option ServerConfig} (h : server s i = .ok o) :
    o.map (·.id) = if s.isEnabled ⟨.server, i⟩ = true then some i else none :=
  id_of_built hs picks_server (fun _ hc => (complete_server (v := .exact) hs hc).1) h

omit hs in
theorem shows_fillCluster {r : Cluster} {c : ClusterConfig} (h : fillCluster r = .ok c) :
    c.Shows r := by
  obtain ⟨apiNodes, hapiNodes, h⟩ := of_bind_eq_ok h
  obtain ⟨health, hhealth, h⟩ := of_bind_eq_ok h
  cases h
  exact ⟨rfl, rfl, rfl, rfl, ⟨apiNodes, of_reference hapiNodes, rfl⟩, of_reference hhealth⟩

theorem complete_cluster {i : Int} {c : ClusterConfig} (h : cluster s i = .ok (some c)) :
    c.id = i ∧ c.Complete s := by
  obtain ⟨r, hr, hid, hc⟩ := serves_of_built hs picks_cluster h
  have hshows := shows_fillCluster hc
  exact ⟨hshows.id.trans hid, r, hr, hshows⟩

theorem id_cluster {i : Int} {o : Option ClusterConfig} (h : cluster s i = .ok o) :
    o.map (·.id) = if s.isEnabled ⟨.cluster, i⟩ = true then some i else none :=
  id_of_built hs picks_cluster (fun _ hc => (complete_cluster hs hc).1) h

/-- A cluster that is there has all its enabled servers. -/
theorem ids_clusterServers {i : Int} {k : Option ClusterConfig} {l : List ServerConfig}
    (hk : cluster s i = .ok k) (h : clusterServers s k i = .ok l) :
    l.map (·.id) = if s.isEnabled ⟨.cluster, i⟩ = true then s.enabledServers i else [] := by
  unfold clusterServers at h
  rw [isSome_of_built hs picks_cluster hk] at h
  split at h
  · rename_i he
    rw [if_pos he, map_present (g := fun i => i) (fun i o => id_server hs (i := i)) h, List.map_id',
      List.filter_eq_self]
    intro i hi
    obtain ⟨r, hr, -, hon⟩ := (Store.mem_enabledServers hs).1 hi
    exact Store.isEnabled_iff.2 ⟨_, hr, hon⟩
  · rename_i he
    rw [if_neg he]
    cases h
    rfl

theorem shows_fillNode {r : Node} {c : NodeConfig} (h : fillNode s r = .ok c) : c.Shows v s r := by
  obtain ⟨addrs, haddrs, h⟩ := of_bind_eq_ok h
  obtain ⟨cluster, hcluster, h⟩ := of_bind_eq_ok h
  obtain ⟨servers, hservers, h⟩ := of_bind_eq_ok h
  cases h
  have hids := ids_clusterServers hs hcluster hservers
  refine ⟨rfl, rfl, rfl, rfl, ⟨addrs, of_reference haddrs, rfl⟩, id_cluster hs hcluster,
    ?_, ?_, ?_, ?_⟩
  · rintro k ⟨⟩
    exact (complete_cluster hs hcluster).2
  · intro i
    dsimp only
    rw [hids, ← mem_enabledServers_iff_serves hs]
    split
    · rename_i he
      simp [he]
    · rename_i he
      simp [he]
  · dsimp only
    rw [hids]
    split
    · exact Store.enabledServers_ascending hs _
    · exact .nil
  · intro a ha
    unfold clusterServers at hservers
    split at hservers
    · obtain ⟨_, _, hb⟩ := mem_present hservers a ha
      exact (complete_server hs hb).2
    · cases hservers
      cases ha

theorem complete_node {i : Int} {c : NodeConfig} (h : node s i = .ok (some c)) :
    c.id = i ∧ c.Complete v s := by
  obtain ⟨r, hr, hid, hc⟩ := serves_of_built hs picks_node h
  have hshows := shows_fillNode (v := v) hs hc
  exact ⟨hshows.id.trans hid, r, hr, hshows⟩

/-- A composed config is complete. -/
theorem complete_entity {target : EntityRef} {c : Config} (h : entity s target = .ok (some c)) :
    c.kind = target.kind ∧ c.id = target.id ∧ c.Complete v s := by
  obtain ⟨kind, i⟩ := target
  cases kind
  all_goals
    obtain ⟨o, ho, he⟩ := of_map_eq_ok h
    obtain ⟨a, rfl, rfl⟩ := Option.map_eq_some_iff.1 he
  · exact ⟨rfl, complete_cluster hs ho⟩
  · exact ⟨rfl, complete_node hs ho⟩
  · exact ⟨rfl, complete_server hs ho⟩
  · exact ⟨rfl, complete_serverGroup hs ho⟩
  · exact ⟨rfl, complete_reverseProxy hs ho⟩
  · exact ⟨rfl, complete_origin hs ho⟩

/-- A config is composed exactly if the entity is enabled. -/
theorem isSome_entity {target : EntityRef} {o : Option Config} (h : entity s target = .ok o) :
    o.isSome = s.isEnabled target := by
  obtain ⟨kind, i⟩ := target
  cases kind
  all_goals
    obtain ⟨o, ho, rfl⟩ := of_map_eq_ok h
    rw [Option.isSome_map]
  · exact isSome_of_built hs picks_cluster ho
  · exact isSome_of_built hs picks_node ho
  · exact isSome_of_built hs picks_server ho
  · exact isSome_of_built hs picks_serverGroup ho
  · exact isSome_of_built hs picks_reverseProxy ho
  · exact isSome_of_built hs picks_origin ho

end Plain

/-! ## Composition with a cache -/

theorem Store.Sound.not_isEnabled_iff (hs : s.Sound) {x : EntityRef} :
    s.isEnabled x = false ↔
      x.id ≤ 0 ∨ s.find? x = none ∨ ∃ r, s.find? x = some r ∧ r.state = .disabled := by
  rw [Store.isEnabled]
  cases hx : s.find? x with
  | none => simp
  | some r =>
      have hpos := hs.positive hx
      have hstate : r.isEnabled = false ↔ r.state = .disabled := by
        rw [Record.isEnabled]
        cases r.state <;> simp [EntityState.isEnabled]
      simp [hstate, not_le.2 hpos]

/-- Also where parts of it came from the cache, a config is complete as far as the look tells. -/
theorem composeFresh_of_suits (hs : s.Sound) {n : Nat} (hsuits : s.Suits v n) {target : EntityRef}
    {o : Option Config} (ho : (Action.on (composeFresh target) s).1 = .ok o) :
    o.isSome = s.isEnabled target ∧
      ∀ c ∈ o, c.kind = target.kind ∧ c.id = target.id ∧ c.Complete v s := by
  have halike := composeFresh_alike hsuits (fun _ => trivial) target
  rw [ho] at halike
  obtain ⟨p, hp, hsee⟩ := Composing.alike_of_ok halike
  have hsome : o.isSome = p.isSome := by simpa using congrArg Option.isSome hsee
  refine ⟨hsome.trans (Plain.isSome_entity hs hp), ?_⟩
  rintro c ⟨⟩
  cases p with
  | none => cases hsome
  | some d =>
      have hcd : c.renumber v.see = d.renumber v.see := Option.some.inj hsee
      obtain ⟨hkind, hid, hcomplete⟩ := Plain.complete_entity (v := v) hs hp
      refine ⟨?_, ?_, hcomplete.of_see hcd⟩
      · rw [← hkind, ← Config.kind_renumber v.see c, hcd, Config.kind_renumber]
      · rw [← hid, ← Config.id_renumber v.see c, hcd, Config.id_renumber]

/-- Where records keep to the widths of their fields, a composition that ends is absent exactly if the
entity is missing or disabled, and otherwise complete. Numbers in floating point in scheduling options
may have changed on the way through the cache, unless they are read as they were written. -/
theorem composeFresh_complete (h : s.Reachable) (hwidths : s.InWidths) {target : EntityRef}
    {o : Option Config}
    (ho : (Action.on (composeFresh target) s).1 = .ok o) :
    (o = none ↔ target.id ≤ 0 ∨ s.find? target = none ∨
        ∃ r, s.find? target = some r ∧ r.state = .disabled) ∧
      ∀ c ∈ o, c.kind = target.kind ∧ c.id = target.id ∧ c.Complete .blurred s ∧
        (s.Fits → c.Complete .exact s) := by
  obtain ⟨n, hsuits⟩ := Store.exists_suits hwidths
  obtain ⟨hsome, hall⟩ := composeFresh_of_suits h.sound hsuits ho
  refine ⟨?_, fun c hc => ?_⟩
  · rw [← h.sound.not_isEnabled_iff, ← hsome]
    simp
  · obtain ⟨hkind, hid, hcomplete⟩ := hall c hc
    exact ⟨hkind, hid, hcomplete, fun hs =>
      ((composeFresh_of_suits h.sound hs.suits ho).2 c hc).2.2⟩

/-- A node with one of two servers disabled. The other one names two groups, which stand the other way
round in the end, and one that is missing; its proxy names an origin, the same one by a reference that
is off, and a disabled one. -/
def Seed.patchy : Seed where
  clusters := [{ id := 1 }]
  nodes := [{ id := 7, clusterId := 1 }]
  servers :=
    [{ id := 5, clusterId := 1, groupIds := ⟨"[3,4,9]"⟩,
       httpReverseProxy := ⟨"\x7b\"reverseProxyId\":2\x7d"⟩ },
     { id := 6, clusterId := 1, state := .disabled }]
  groups := [{ id := 3, order := -1 }, { id := 4, order := 2 }]
  reverseProxies :=
    [{ id := 2, primaryOrigins := .encode (.ofList OriginRef.toJson
         [⟨1, true⟩, ⟨1, false⟩, ⟨8, true⟩]) }]
  origins := [{ id := 1 }, { id := 8, state := .disabled }]

def Store.patchy : Store := (Store.empty.loadSeed .patchy).2

theorem composeFresh_complete_patchy :
    Store.patchy.Reachable ∧ Store.patchy.InWidths ∧
      ∃ c, (Action.on (composeFresh ⟨.node, 7⟩) Store.patchy).1 = .ok (some c) ∧
        c.Complete .blurred Store.patchy := by
  have hreach : Store.patchy.Reachable := .seed _ .empty
  have hwidths : Store.patchy.InWidths := by
    refine Store.inWidths_empty.loadSeed Store.sound_empty ?_
    simp [Seed.records, Seed.patchy, Record.Fits, Origin.Fits, Text.fitsInt64, Text.minInt64,
      Text.maxInt64]
  have hok : (Action.on (composeFresh ⟨.node, 7⟩) Store.patchy).1.isOk = true := by decide +kernel
  have hfind : Store.patchy.find? ⟨.node, 7⟩ = some (.node { id := 7, clusterId := 1 }) := by
    decide +kernel
  cases ho : (Action.on (composeFresh ⟨.node, 7⟩) Store.patchy).1 with
  | error e =>
      rw [ho] at hok
      cases hok
  | ok o =>
      obtain ⟨hnone, hall⟩ := composeFresh_complete hreach hwidths ho
      cases o with
      | none =>
          have hmissing := hnone.1 rfl
          rw [hfind] at hmissing
          simp [Record.state] at hmissing
      | some c => exact ⟨hreach, hwidths, c, rfl, (hall c rfl).2.2.1⟩

end Fleet
