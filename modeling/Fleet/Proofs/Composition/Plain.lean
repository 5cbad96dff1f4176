import Fleet.Config.Compose
import Fleet.Proofs.Config.Copies
import Fleet.Proofs.Store.Widths

/-!
# Composition without a cache

The config of an entity, every reference of it looked up in the store again. It fits the wire form if
the records do.
-/

namespace Fleet

namespace Plain

open Json.Decoder Text

variable {α β ρ : Type} (s : Store)

/-- An enabled record of a positive id, filled. -/
def built (key : EntityRef) (pick : Record → Option ρ) (state : ρ → EntityState)
    (fill : ρ → Except Failure α) : Except Failure (Option α) := do
  if key.id ≤ 0 then
    return none
  match (s.find? key).bind pick with
  | none => return none
  | some r => if (state r).isEnabled then return some (← fill r) else return none

def reference (owner : EntityRef) (field : String) (d : Json.Decoder α) (r : RefText) :
    Except Failure (Option α) :=
  (r.decode d).mapError fun _ => .undecodable owner field

def present (f : β → Except Failure (Option α)) : List β → Except Failure (List α)
  | [] => return []
  | b :: rest => do
    let a ← f b
    return a.toList ++ (← present f rest)

def origin (id : Int) : Except Failure (Option OriginConfig) :=
  built s ⟨.origin, id⟩ Record.origin? Origin.state fun r => .ok r.config

def origins (refs : List OriginRef) : Except Failure (List OriginConfig) :=
  present (fun r => origin s r.originId) (refs.filter (·.isOn))

def fillReverseProxy (r : ReverseProxy) : Except Failure ReverseProxyConfig := do
  let me : EntityRef := ⟨.reverseProxy, r.id⟩
  let scheduling ← reference me "scheduling" Scheduling.decoder r.scheduling
  let primary ← reference me "primary_origins" (list OriginRef.decoder) r.primaryOrigins
  let backup ← reference me "backup_origins" (list OriginRef.decoder) r.backupOrigins
  let primaryOrigins ← origins s (primary.getD [])
  let backupOrigins ← origins s (backup.getD [])
  return {
    id := r.id
    isOn := r.isOn
    scheduling
    primaryOriginRefs := primary.getD []
    backupOriginRefs := backup.getD []
    primaryOrigins
    backupOrigins
    requestHost := r.requestHost
    stripPrefix := r.stripPrefix }

def reverseProxy (id : Int) : Except Failure (Option ReverseProxyConfig) :=
  built s ⟨.reverseProxy, id⟩ Record.reverseProxy? ReverseProxy.state (fillReverseProxy s)

def slot (owner : EntityRef) (p : Protocol) (r : RefText) : Except Failure ProxySlot := do
  match ← reference owner p.field ReverseProxyRef.decoder r with
  | none => return {}
  | some ref => return ⟨some ref, ← reverseProxy s ref.reverseProxyId⟩

def slots (owner : EntityRef) (r : Protocol → RefText) : Except Failure ProxySlots := do
  let http ← slot s owner .http (r .http)
  let tcp ← slot s owner .tcp (r .tcp)
  let udp ← slot s owner .udp (r .udp)
  return { http, tcp, udp }

def fillServerGroup (g : ServerGroup) : Except Failure ServerGroupConfig := do
  let proxies ← slots s ⟨.serverGroup, g.id⟩ g.slot
  return { id := g.id, name := g.name, isOn := g.isOn, order := g.order, proxies }

def serverGroup (id : Int) : Except Failure (Option ServerGroupConfig) :=
  built s ⟨.serverGroup, id⟩ Record.serverGroup? ServerGroup.state (fillServerGroup s)

def fillServer (r : Server) : Except Failure ServerConfig := do
  let me : EntityRef := ⟨.server, r.id⟩
  let proxies ← slots s me r.slot
  let groupIds ← reference me "group_ids" (list int64) r.groupIds
  let groups ← present (serverGroup s) (groupIds.getD [])
  return {
    id := r.id
    clusterId := r.clusterId
    name := r.name
    isOn := r.isOn
    serverType := r.serverType
    proxies
    groups := Composing.ranked groups }

def server (id : Int) : Except Failure (Option ServerConfig) :=
  built s ⟨.server, id⟩ Record.server? Server.state (fillServer s)

def fillCluster (r : Cluster) : Except Failure ClusterConfig := do
  let me : EntityRef := ⟨.cluster, r.id⟩
  let apiNodes ← reference me "api_nodes" (list int64) r.apiNodes
  let healthCheck ← reference me "health_check" HealthPolicy.decoder r.healthCheck
  return {
    id := r.id
    name := r.name
    installDir := r.installDir
    useAllApiNodes := r.useAllApiNodes
    apiNodeIds := apiNodes.getD []
    healthCheck }

def cluster (id : Int) : Except Failure (Option ClusterConfig) :=
  built s ⟨.cluster, id⟩ Record.cluster? Cluster.state fillCluster

def clusterServers (cluster : Option ClusterConfig) (id : Int) :
    Except Failure (List ServerConfig) := do
  if cluster.isSome then present (server s) (s.enabledServers id) else return []

def fillNode (r : Node) : Except Failure NodeConfig := do
  let me : EntityRef := ⟨.node, r.id⟩
  let addrs ← reference me "access_addrs" (list string) r.accessAddrs
  let cluster ← cluster s r.clusterId
  let servers ← clusterServers s cluster r.clusterId
  return {
    id := r.id
    name := r.name
    isOn := r.isOn
    clusterId := r.clusterId
    accessAddrs := addrs.getD []
    cluster
    servers }

def node (id : Int) : Except Failure (Option NodeConfig) :=
  built s ⟨.node, id⟩ Record.node? Node.state (fillNode s)

/-- The config of an entity of any kind. -/
def entity (target : EntityRef) : Except Failure (Option Config) :=
  match target.kind with
  | .cluster => Option.map .cluster <$> cluster s target.id
  | .node => Option.map .node <$> node s target.id
  | .server => Option.map .server <$> server s target.id
  | .serverGroup => Option.map .serverGroup <$> serverGroup s target.id
  | .reverseProxy => Option.map .reverseProxy <$> reverseProxy s target.id
  | .origin => Option.map .origin <$> origin s target.id

end Plain

/-! ## What fits -/

/-- The scheduling options that the record keeps nest fewer than 100 levels, and their numbers are
read as they were written. -/
def Record.SchedulesPlainly : Record → Prop
  | .reverseProxy r => ∀ o, r.scheduling.decode Scheduling.decoder = .ok (some o) →
    Json.depthMembers o.options < 100 ∧ Json.MembersStable o.options
  | _ => True

structure Store.Fits (s : Store) : Prop extends s.InWidths where
  scheduling : ∀ x r, s.find? x = some r → r.SchedulesPlainly

theorem Store.fits_empty : Store.empty.Fits where
  toInWidths := inWidths_empty
  scheduling _ _ h := nomatch h

theorem Store.Fits.put {s : Store} (hs : s.Fits) {r : Record} (hr : r.Fits)
    (hscheduling : r.SchedulesPlainly) : (s.put r).Fits where
  toInWidths := hs.toInWidths.put hr
  scheduling x r' h := by
    rcases find?_put_cases h with ⟨-, rfl⟩ | h
    · exact hscheduling
    · exact hs.scheduling x r' h

/-- The scheduling options that the record keeps nest at most `n` levels and have fair numbers. -/
def Record.SchedulesWithin (v : Json.Number.View) (n : Nat) : Record → Prop
  | .reverseProxy r => ∀ o, r.scheduling.decode Scheduling.decoder = .ok (some o) →
    Json.depthMembers o.options ≤ n ∧ Json.MembersAll v.Fair o.options
  | _ => True

/-- What is composed from the store fits the wire form, as far as a look at numbers tells. -/
structure Store.Suits (v : Json.Number.View) (n : Nat) (s : Store) : Prop extends s.InWidths where
  scheduling : ∀ x r, s.find? x = some r → r.SchedulesWithin v n

theorem Store.Fits.suits {s : Store} (hs : s.Fits) : s.Suits .exact 99 where
  toInWidths := hs.toInWidths
  scheduling x r h := by
    have hplain := hs.scheduling x r h
    cases r with
    | reverseProxy r =>
        intro o ho
        obtain ⟨hshallow, hstable⟩ := hplain o ho
        exact ⟨Nat.le_of_lt_succ hshallow, (Json.membersStable_iff o.options).1 hstable⟩
    | _ => trivial

/-- The numbers in decoded options are fair if only their signs are told. -/
theorem ReverseProxy.schedulesWithin_blurred {r : ReverseProxy} {n : Nat}
    (h : ∀ o, r.scheduling.decode Scheduling.decoder = .ok (some o) →
      Json.depthMembers o.options ≤ n) :
    Record.SchedulesWithin .blurred n (.reverseProxy r) := fun o ho =>
  ⟨h o ho, (RefText.decode_gives Scheduling.gives ho).2⟩

theorem Store.suits_blurred {s : Store} {n : Nat} (hwidths : s.InWidths)
    (hdepth : ∀ x r o, s.find? x = some (.reverseProxy r) →
      r.scheduling.decode Scheduling.decoder = .ok (some o) → Json.depthMembers o.options ≤ n) :
    s.Suits .blurred n where
  toInWidths := hwidths
  scheduling x r hr := by
    cases r with
    | reverseProxy r => exact ReverseProxy.schedulesWithin_blurred fun o ho => hdepth x r o hr ho
    | _ => trivial

theorem Record.SchedulesWithin.mono {v : Json.Number.View} {m n : Nat} (hle : m ≤ n) {r : Record}
    (h : r.SchedulesWithin v m) : r.SchedulesWithin v n := by
  cases r with
  | reverseProxy r => exact fun o ho => ⟨Nat.le_trans (h o ho).1 hle, (h o ho).2⟩
  | _ => trivial

/-- The numbers in the scheduling options that the record keeps are fair. -/
def Record.SchedulesFairly (v : Json.Number.View) : Record → Prop
  | .reverseProxy r => ∀ o, r.scheduling.decode Scheduling.decoder = .ok (some o) →
    Json.MembersAll v.Fair o.options
  | _ => True

theorem Record.schedulesFairly_blurred (r : Record) : r.SchedulesFairly .blurred := by
  cases r with
  | reverseProxy r => exact fun o ho => (RefText.decode_gives Scheduling.gives ho).2
  | _ => trivial

theorem Record.exists_schedulesWithin {v : Json.Number.View} {r : Record}
    (h : r.SchedulesFairly v) : ∃ n, r.SchedulesWithin v n := by
  cases r with
  | reverseProxy r =>
      cases hd : r.scheduling.decode Scheduling.decoder with
      | error e =>
          refine ⟨0, fun o ho => ?_⟩
          rw [hd] at ho
          cases ho
      | ok o =>
          refine ⟨o.elim 0 fun o => Json.depthMembers o.options, fun o' ho => ⟨?_, h o' ho⟩⟩
          rw [hd] at ho
          cases ho
          exact le_rfl
  | _ => exact ⟨0, trivial⟩

theorem Record.exists_schedulesWithin_all {v : Json.Number.View} {l : List Record}
    (h : ∀ r ∈ l, r.SchedulesFairly v) : ∃ n, ∀ r ∈ l, r.SchedulesWithin v n := by
  induction l with
  | nil => exact ⟨0, fun _ hr => nomatch hr⟩
  | cons r l ih =>
      obtain ⟨m, hm⟩ := exists_schedulesWithin (h r List.mem_cons_self)
      obtain ⟨n, hn⟩ := ih fun r' hr => h r' (List.mem_cons_of_mem r hr)
      refine ⟨max m n, fun r' hr => ?_⟩
      rcases List.mem_cons.1 hr with rfl | hr
      · exact hm.mono (Nat.le_max_left m n)
      · exact (hn r' hr).mono (Nat.le_max_right m n)

theorem Store.forall_find?_iff {s : Store} {P : Record → Prop} :
    (∀ x r, s.find? x = some r → P r) ↔ ∀ r ∈ s.records.values, P r := by
  simp only [OrdMap.mem_values_iff]
  constructor
  · rintro h r ⟨x, hx⟩
    exact h x r hx
  · intro h x r hx
    exact h r ⟨x, hx⟩

/-- As there are finitely many records, one depth is enough for all. -/
theorem Store.exists_suits_of_fair {s : Store} {v : Json.Number.View} (hwidths : s.InWidths)
    (hfair : ∀ x r, s.find? x = some r → r.SchedulesFairly v) : ∃ n, s.Suits v n := by
  obtain ⟨n, hn⟩ := Record.exists_schedulesWithin_all (Store.forall_find?_iff.1 hfair)
  exact ⟨n, hwidths, Store.forall_find?_iff.2 hn⟩

theorem Store.exists_suits {s : Store} (hwidths : s.InWidths) : ∃ n, s.Suits .blurred n :=
  exists_suits_of_fair hwidths fun _ r _ => r.schedulesFairly_blurred

namespace Plain

open Json

variable {α β ρ : Type} {s : Store} {v : Number.View} {n : Nat}

theorem of_built {key : EntityRef} {pick : Record → Option ρ} {state : ρ → EntityState}
    {fill : ρ → Except Failure α} {a : α} (h : built s key pick state fill = .ok (some a)) :
    ∃ x r, s.find? key = some x ∧ pick x = some r ∧ fill r = .ok a := by
  unfold built at h
  split at h
  · cases h
  · split at h
    · cases h
    · rename_i r hr
      obtain ⟨x, hx, hpick⟩ := Option.bind_eq_some_iff.1 hr
      split at h
      · obtain ⟨b, hb, he⟩ := of_bind_eq_ok h
        cases he
        exact ⟨x, r, hx, hpick, hb⟩
      · cases h

theorem of_reference {owner : EntityRef} {field : String} {d : Json.Decoder α} {r : RefText}
    {o : Option α} (h : reference owner field d r = .ok o) : r.decode d = .ok o := by
  unfold reference at h
  cases hd : r.decode d with
  | error e =>
      rw [hd] at h
      cases h
  | ok a =>
      rw [hd] at h
      cases h
      rfl

/-- What a list of references is resolved to, each from a reference of the list. -/
theorem mem_present {f : β → Except Failure (Option α)} {l : List β} {as : List α}
    (h : present f l = .ok as) : ∀ a ∈ as, ∃ b ∈ l, f b = .ok (some a) := by
  induction l generalizing as with
  | nil =>
      cases h
      exact fun _ ha => nomatch ha
  | cons b l ih =>
      obtain ⟨o, ho, h⟩ := of_bind_eq_ok h
      obtain ⟨rest, hrest, h⟩ := of_bind_eq_ok h
      cases h
      intro a ha
      rcases List.mem_append.1 ha with ha | ha
      · rw [Option.mem_toList.1 ha] at ho
        exact ⟨b, List.mem_cons_self, ho⟩
      · obtain ⟨b', hb', hf⟩ := ih hrest a ha
        exact ⟨b', List.mem_cons_of_mem b hb', hf⟩

theorem forall_getD {P : α → Prop} {o : Option (List α)} (h : ∀ l ∈ o, ∀ a ∈ l, P a) :
    ∀ a ∈ o.getD [], P a := by
  cases o with
  | none => exact fun _ ha => nomatch ha
  | some l => exact h l rfl

theorem fits_origin (hs : s.Suits v n) {id : Int} {c : OriginConfig}
    (h : origin s id = .ok (some c)) : c.Fits := by
  obtain ⟨x, r, hx, hpick, hc⟩ := of_built h
  cases x <;> cases hpick
  cases hc
  obtain ⟨hid, hweight, hconn, hread, hidle, hmax, hmaxIdle⟩ := hs.record _ _ hx
  exact ⟨hid, hweight, hconn, hread, hidle, hmax, hmaxIdle⟩

theorem fits_origins (hs : s.Suits v n) {refs : List OriginRef} {l : List OriginConfig}
    (h : origins s refs = .ok l) : ∀ c ∈ l, c.Fits := by
  intro c hc
  obtain ⟨_, _, hb⟩ := mem_present h c hc
  exact fits_origin hs hb

theorem fits_reverseProxy (hs : s.Suits v n) {id : Int} {c : ReverseProxyConfig}
    (h : reverseProxy s id = .ok (some c)) : c.Fits v n := by
  obtain ⟨x, r, hx, hpick, hc⟩ := of_built h
  cases x <;> cases hpick
  obtain ⟨scheduling, hsched, hc⟩ := of_bind_eq_ok hc
  obtain ⟨primary, hprimary, hc⟩ := of_bind_eq_ok hc
  obtain ⟨backup, hbackup, hc⟩ := of_bind_eq_ok hc
  obtain ⟨primaryOrigins, hprimaryOrigins, hc⟩ := of_bind_eq_ok hc
  obtain ⟨backupOrigins, hbackupOrigins, hc⟩ := of_bind_eq_ok hc
  cases hc
  have hsched := of_reference hsched
  have hprimary := of_reference hprimary
  have hbackup := of_reference hbackup
  refine ⟨hs.record _ _ hx, ?_, ?_, ?_, fits_origins hs hprimaryOrigins,
    fits_origins hs hbackupOrigins⟩
  · rintro o ⟨⟩
    obtain ⟨hshallow, hfair⟩ := hs.scheduling _ _ hx _ hsched
    exact ⟨(RefText.decode_gives Scheduling.gives hsched).1, hshallow, hfair⟩
  · refine forall_getD ?_
    rintro l ⟨⟩
    exact RefText.decode_gives OriginRef.gives.list hprimary
  · refine forall_getD ?_
    rintro l ⟨⟩
    exact RefText.decode_gives OriginRef.gives.list hbackup

theorem fits_slot (hs : s.Suits v n) {owner : EntityRef} {p : Protocol} {r : RefText}
    {c : ProxySlot} (h : slot s owner p r = .ok c) : c.Fits v n := by
  obtain ⟨ref, href, hc⟩ := of_bind_eq_ok h
  have href := of_reference href
  cases ref with
  | none =>
      cases hc
      exact ⟨fun _ h => (Option.not_mem_none _ h).elim, fun _ h => (Option.not_mem_none _ h).elim⟩
  | some ref =>
      obtain ⟨config, hconfig, hc⟩ := of_bind_eq_ok hc
      cases hc
      refine ⟨?_, ?_⟩
      · rintro r ⟨⟩
        exact RefText.decode_gives ReverseProxyRef.gives href
      · rintro c ⟨⟩
        exact fits_reverseProxy hs hconfig

theorem fits_slots (hs : s.Suits v n) {owner : EntityRef} {r : Protocol → RefText} {c : ProxySlots}
    (h : slots s owner r = .ok c) : c.Fits v n := by
  obtain ⟨http, hhttp, h⟩ := of_bind_eq_ok h
  obtain ⟨tcp, htcp, h⟩ := of_bind_eq_ok h
  obtain ⟨udp, hudp, h⟩ := of_bind_eq_ok h
  cases h
  intro p
  cases p with
  | http => exact fits_slot hs hhttp
  | tcp => exact fits_slot hs htcp
  | udp => exact fits_slot hs hudp

theorem fits_serverGroup (hs : s.Suits v n) {id : Int} {c : ServerGroupConfig}
    (h : serverGroup s id = .ok (some c)) : c.Fits v n := by
  obtain ⟨x, g, hx, hpick, hc⟩ := of_built h
  cases x <;> cases hpick
  obtain ⟨proxies, hproxies, hc⟩ := of_bind_eq_ok hc
  cases hc
  obtain ⟨hid, horder⟩ := hs.record _ _ hx
  exact ⟨hid, horder, fits_slots hs hproxies⟩

theorem fits_server (hs : s.Suits v n) {id : Int} {c : ServerConfig}
    (h : server s id = .ok (some c)) : c.Fits v n := by
  obtain ⟨x, r, hx, hpick, hc⟩ := of_built h
  cases x <;> cases hpick
  obtain ⟨proxies, hproxies, hc⟩ := of_bind_eq_ok hc
  obtain ⟨groupIds, hgroupIds, hc⟩ := of_bind_eq_ok hc
  obtain ⟨groups, hgroups, hc⟩ := of_bind_eq_ok hc
  cases hc
  obtain ⟨hid, hcluster⟩ := hs.record _ _ hx
  refine ⟨hid, hcluster, fits_slots hs hproxies, fun g hg => ?_⟩
  obtain ⟨_, _, hb⟩ := mem_present hgroups g (List.mem_mergeSort.1 hg)
  exact fits_serverGroup hs hb

theorem fits_cluster (hs : s.Suits v n) {id : Int} {c : ClusterConfig}
    (h : cluster s id = .ok (some c)) : c.Fits := by
  obtain ⟨x, r, hx, hpick, hc⟩ := of_built h
  cases x <;> cases hpick
  obtain ⟨apiNodes, hapiNodes, hc⟩ := of_bind_eq_ok hc
  obtain ⟨health, hhealth, hc⟩ := of_bind_eq_ok hc
  cases hc
  refine ⟨hs.record _ _ hx, forall_getD ?_, ?_⟩
  · rintro l ⟨⟩
    exact RefText.decode_gives gives_int64.list (of_reference hapiNodes)
  · rintro p ⟨⟩
    exact RefText.decode_gives HealthPolicy.gives (of_reference hhealth)

theorem fits_node (hs : s.Suits v n) {id : Int} {c : NodeConfig} (h : node s id = .ok (some c)) :
    c.Fits v n := by
  obtain ⟨x, r, hx, hpick, hc⟩ := of_built h
  cases x <;> cases hpick
  obtain ⟨addrs, _, hc⟩ := of_bind_eq_ok hc
  obtain ⟨cluster, hcluster, hc⟩ := of_bind_eq_ok hc
  obtain ⟨servers, hservers, hc⟩ := of_bind_eq_ok hc
  cases hc
  obtain ⟨hid, hclusterId⟩ := hs.record _ _ hx
  refine ⟨hid, hclusterId, ?_, fun r hr => ?_⟩
  · rintro k ⟨⟩
    exact fits_cluster hs hcluster
  · unfold clusterServers at hservers
    split at hservers
    · obtain ⟨_, _, hb⟩ := mem_present hservers r hr
      exact fits_server hs hb
    · cases hservers
      cases hr

/-- What is composed fits the wire form. -/
theorem fits_entity (hs : s.Suits v n) {target : EntityRef} {c : Config}
    (h : entity s target = .ok (some c)) : c.Fits v n := by
  unfold entity at h
  split at h
  all_goals
    obtain ⟨o, ho, he⟩ := of_map_eq_ok h
    obtain ⟨a, ha, rfl⟩ := Option.map_eq_some_iff.1 he
    cases ha
  · exact fits_cluster hs ho
  · exact fits_node hs ho
  · exact fits_server hs ho
  · exact fits_serverGroup hs ho
  · exact fits_reverseProxy hs ho
  · exact fits_origin hs ho

/-! ## One kind of records -/

/-- How the records of one kind stand among all. -/
structure Picks (k : Kind) (wrap : ρ → Record) (pick : Record → Option ρ)
    (state : ρ → EntityState) : Prop where
  pick_wrap : ∀ r, pick (wrap r) = some r
  exists_wrap : ∀ x : Record, x.kind = k → ∃ r, x = wrap r
  isEnabled : ∀ r, (wrap r).isEnabled = (state r).isEnabled

theorem picks_origin : Picks .origin .origin Record.origin? Origin.state where
  pick_wrap _ := rfl
  exists_wrap x h := by cases x <;> cases h; exact ⟨_, rfl⟩
  isEnabled _ := rfl

theorem picks_reverseProxy :
    Picks .reverseProxy .reverseProxy Record.reverseProxy? ReverseProxy.state where
  pick_wrap _ := rfl
  exists_wrap x h := by cases x <;> cases h; exact ⟨_, rfl⟩
  isEnabled _ := rfl

theorem picks_serverGroup :
    Picks .serverGroup .serverGroup Record.serverGroup? ServerGroup.state where
  pick_wrap _ := rfl
  exists_wrap x h := by cases x <;> cases h; exact ⟨_, rfl⟩
  isEnabled _ := rfl

theorem picks_server : Picks .server .server Record.server? Server.state where
  pick_wrap _ := rfl
  exists_wrap x h := by cases x <;> cases h; exact ⟨_, rfl⟩
  isEnabled _ := rfl

theorem picks_cluster : Picks .cluster .cluster Record.cluster? Cluster.state where
  pick_wrap _ := rfl
  exists_wrap x h := by cases x <;> cases h; exact ⟨_, rfl⟩
  isEnabled _ := rfl

theorem picks_node : Picks .node .node Record.node? Node.state where
  pick_wrap _ := rfl
  exists_wrap x h := by cases x <;> cases h; exact ⟨_, rfl⟩
  isEnabled _ := rfl

section

variable {key : EntityRef} {wrap : ρ → Record} {pick : Record → Option ρ} {state : ρ → EntityState}
  {fill : ρ → Except Failure α}

/-- What is not enabled is absent, and an enabled record is filled. -/
theorem built_cases (hs : s.Sound) (hp : Picks key.kind wrap pick state)
    (fill : ρ → Except Failure α) :
    s.isEnabled key = false ∧ built s key pick state fill = .ok none ∨
      ∃ r, s.find? key = some (wrap r) ∧ (wrap r).isEnabled = true ∧
        built s key pick state fill = some <$> fill r := by
  unfold built
  rw [Store.isEnabled]
  cases hx : s.find? key with
  | none => exact .inl ⟨rfl, by split <;> rfl⟩
  | some x =>
      have hkind : x.kind = key.kind := congrArg EntityRef.kind (hs.own hx)
      obtain ⟨r, rfl⟩ := hp.exists_wrap x hkind
      have hpos := hs.positive hx
      rw [if_neg (by omega), Option.bind_some, hp.pick_wrap, Option.any_some, hp.isEnabled]
      dsimp only
      cases he : (state r).isEnabled with
      | false => exact .inl ⟨rfl, rfl⟩
      | true => exact .inr ⟨r, rfl, (hp.isEnabled r).trans he, (map_eq_pure_bind _ _).symm⟩

/-- A config is there exactly if the entity is enabled. -/
theorem isSome_of_built (hs : s.Sound) (hp : Picks key.kind wrap pick state) {o : Option α}
    (h : built s key pick state fill = .ok o) : o.isSome = s.isEnabled key := by
  rcases built_cases hs hp fill with ⟨hoff, hb⟩ | ⟨r, hr, he, hb⟩
  · rw [hb] at h
    cases h
    exact hoff.symm
  · rw [hb] at h
    obtain ⟨a, -, rfl⟩ := of_map_eq_ok h
    exact (Store.isEnabled_iff.2 ⟨_, hr, he⟩).symm

end

end Plain

end Fleet
