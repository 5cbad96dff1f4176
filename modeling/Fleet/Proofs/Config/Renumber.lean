import Fleet.Config.Codec
import Fleet.Proofs.Record.Widths

/-!
# Numbers in configs

The scheduling options are the only part of a config whose shape is free. A config is renumbered by a
change of the numbers in them; everything else of it stays. What fits the wire form is told from the
widths of the fields and from these options alone, whatever a look at numbers leaves of them.
-/

namespace Fleet

open Json Text

/-! ## Renumbering -/

def Scheduling.renumber (f : Number → Number) (s : Scheduling) : Scheduling :=
  { s with options := mapMembers f s.options }

def ReverseProxyConfig.renumber (f : Number → Number) (c : ReverseProxyConfig) : ReverseProxyConfig :=
  { c with scheduling := c.scheduling.map (·.renumber f) }

def ProxySlot.renumber (f : Number → Number) (s : ProxySlot) : ProxySlot :=
  { s with config := s.config.map (·.renumber f) }

def ProxySlots.renumber (f : Number → Number) (s : ProxySlots) : ProxySlots where
  http := s.http.renumber f
  tcp := s.tcp.renumber f
  udp := s.udp.renumber f

def ServerGroupConfig.renumber (f : Number → Number) (c : ServerGroupConfig) : ServerGroupConfig :=
  { c with proxies := c.proxies.renumber f }

def ServerConfig.renumber (f : Number → Number) (c : ServerConfig) : ServerConfig :=
  { c with proxies := c.proxies.renumber f, groups := c.groups.map (·.renumber f) }

def NodeConfig.renumber (f : Number → Number) (c : NodeConfig) : NodeConfig :=
  { c with servers := c.servers.map (·.renumber f) }

/-- The config with the numbers in its scheduling options changed. -/
def Config.renumber (f : Number → Number) : Config → Config
  | .cluster c => .cluster c
  | .node c => .node (c.renumber f)
  | .server c => .server (c.renumber f)
  | .serverGroup c => .serverGroup (c.renumber f)
  | .reverseProxy c => .reverseProxy (c.renumber f)
  | .origin c => .origin c

@[simp] theorem Config.kind_renumber (f : Number → Number) (c : Config) :
    (c.renumber f).kind = c.kind := by
  cases c <;> rfl

@[simp] theorem Config.id_renumber (f : Number → Number) (c : Config) : (c.renumber f).id = c.id := by
  cases c <;> rfl

theorem ProxySlots.get_renumber (f : Number → Number) (s : ProxySlots) (p : Protocol) :
    (s.renumber f).get p = (s.get p).renumber f := by
  cases p <;> rfl

/-! A change that changes no number: -/

@[simp] theorem Scheduling.renumber_self (s : Scheduling) : s.renumber (fun n => n) = s := by
  rw [renumber, mapMembers_self]

@[simp] theorem ReverseProxyConfig.renumber_self (c : ReverseProxyConfig) :
    c.renumber (fun n => n) = c := by
  simp [renumber]

@[simp] theorem ProxySlot.renumber_self (s : ProxySlot) : s.renumber (fun n => n) = s := by
  simp [renumber]

@[simp] theorem ProxySlots.renumber_self (s : ProxySlots) : s.renumber (fun n => n) = s := by
  simp [renumber]

@[simp] theorem ServerGroupConfig.renumber_self (c : ServerGroupConfig) :
    c.renumber (fun n => n) = c := by
  simp [renumber]

@[simp] theorem ServerConfig.renumber_self (c : ServerConfig) : c.renumber (fun n => n) = c := by
  simp [renumber]

@[simp] theorem NodeConfig.renumber_self (c : NodeConfig) : c.renumber (fun n => n) = c := by
  simp [renumber]

@[simp] theorem Config.renumber_self (c : Config) : c.renumber (fun n => n) = c := by
  cases c <;> simp [renumber]

/-! ## What fits -/

/-- The options are as they come from a stored reference, nest at most `n` levels and have fair
numbers. -/
structure Scheduling.Fits (v : Number.View) (n : Nat) (s : Scheduling) : Prop where
  sorted : s.IsSorted
  shallow : depthMembers s.options ≤ n
  fair : MembersAll v.Fair s.options

structure OriginConfig.Fits (c : OriginConfig) : Prop where
  id : fitsInt64 c.id = true
  weight : c.weight ≤ 4294967295
  connTimeout : ∀ d ∈ c.connTimeout, d.Fits
  readTimeout : ∀ d ∈ c.readTimeout, d.Fits
  idleTimeout : ∀ d ∈ c.idleTimeout, d.Fits
  maxConns : c.maxConns ≤ 4294967295
  maxIdleConns : c.maxIdleConns ≤ 4294967295

structure ReverseProxyConfig.Fits (v : Number.View) (n : Nat) (c : ReverseProxyConfig) : Prop where
  id : fitsInt64 c.id = true
  scheduling : ∀ s ∈ c.scheduling, s.Fits v n
  primaryOriginRefs : ∀ r ∈ c.primaryOriginRefs, r.Fits
  backupOriginRefs : ∀ r ∈ c.backupOriginRefs, r.Fits
  primaryOrigins : ∀ o ∈ c.primaryOrigins, o.Fits
  backupOrigins : ∀ o ∈ c.backupOrigins, o.Fits

structure ProxySlot.Fits (v : Number.View) (n : Nat) (s : ProxySlot) : Prop where
  reference : ∀ r ∈ s.reference, r.Fits
  config : ∀ c ∈ s.config, c.Fits v n

def ProxySlots.Fits (v : Number.View) (n : Nat) (s : ProxySlots) : Prop := ∀ p, (s.get p).Fits v n

structure ServerGroupConfig.Fits (v : Number.View) (n : Nat) (c : ServerGroupConfig) : Prop where
  id : fitsInt64 c.id = true
  order : -2147483648 ≤ c.order ∧ c.order ≤ 2147483647
  proxies : c.proxies.Fits v n

structure ServerConfig.Fits (v : Number.View) (n : Nat) (c : ServerConfig) : Prop where
  id : fitsInt64 c.id = true
  clusterId : fitsInt64 c.clusterId = true
  proxies : c.proxies.Fits v n
  groups : ∀ g ∈ c.groups, g.Fits v n

structure ClusterConfig.Fits (c : ClusterConfig) : Prop where
  id : fitsInt64 c.id = true
  apiNodeIds : ∀ i ∈ c.apiNodeIds, fitsInt64 i = true
  healthCheck : ∀ p ∈ c.healthCheck, p.Fits

structure NodeConfig.Fits (v : Number.View) (n : Nat) (c : NodeConfig) : Prop where
  id : fitsInt64 c.id = true
  clusterId : fitsInt64 c.clusterId = true
  cluster : ∀ k ∈ c.cluster, k.Fits
  servers : ∀ s ∈ c.servers, s.Fits v n

def Config.Fits (v : Number.View) (n : Nat) : Config → Prop
  | .cluster c => c.Fits
  | .node c => c.Fits v n
  | .server c => c.Fits v n
  | .serverGroup c => c.Fits v n
  | .reverseProxy c => c.Fits v n
  | .origin c => c.Fits

/-! ## What a look at numbers leaves -/

variable {v : Number.View} {n : Nat}

theorem Scheduling.fits_renumber {s : Scheduling} : (s.renumber v.see).Fits v n ↔ s.Fits v n := by
  have hsorted : (s.renumber v.see).IsSorted ↔ s.IsSorted :=
    and_congr ascending_mapMembers (membersSorted_mapMembers s.options)
  have hdepth := depthMembers_mapMembers v.see s.options
  have hfair : MembersAll v.Fair (mapMembers v.see s.options) ↔ MembersAll v.Fair s.options := by
    simp only [membersAll_mapMembers, v.fair_see]
  constructor
  · intro h
    exact ⟨hsorted.1 h.sorted, hdepth ▸ h.shallow, hfair.1 h.fair⟩
  · intro h
    exact ⟨hsorted.2 h.sorted, hdepth.symm ▸ h.shallow, hfair.2 h.fair⟩

theorem ReverseProxyConfig.fits_renumber {c : ReverseProxyConfig} :
    (c.renumber v.see).Fits v n ↔ c.Fits v n := by
  have hscheduling : (∀ s ∈ (c.renumber v.see).scheduling, s.Fits v n) ↔
      ∀ s ∈ c.scheduling, s.Fits v n := by
    simp [renumber, Scheduling.fits_renumber]
  constructor
  · intro h
    exact ⟨h.id, hscheduling.1 h.scheduling, h.primaryOriginRefs, h.backupOriginRefs,
      h.primaryOrigins, h.backupOrigins⟩
  · intro h
    exact ⟨h.id, hscheduling.2 h.scheduling, h.primaryOriginRefs, h.backupOriginRefs,
      h.primaryOrigins, h.backupOrigins⟩

theorem ProxySlot.fits_renumber {s : ProxySlot} : (s.renumber v.see).Fits v n ↔ s.Fits v n := by
  have hconfig : (∀ c ∈ (s.renumber v.see).config, c.Fits v n) ↔ ∀ c ∈ s.config, c.Fits v n := by
    simp [renumber, ReverseProxyConfig.fits_renumber]
  constructor
  · intro h
    exact ⟨h.reference, hconfig.1 h.config⟩
  · intro h
    exact ⟨h.reference, hconfig.2 h.config⟩

theorem ProxySlots.fits_renumber {s : ProxySlots} : (s.renumber v.see).Fits v n ↔ s.Fits v n := by
  simp only [ProxySlots.Fits, get_renumber, ProxySlot.fits_renumber]

theorem ServerGroupConfig.fits_renumber {c : ServerGroupConfig} :
    (c.renumber v.see).Fits v n ↔ c.Fits v n := by
  constructor
  · intro h
    exact ⟨h.id, h.order, ProxySlots.fits_renumber.1 h.proxies⟩
  · intro h
    exact ⟨h.id, h.order, ProxySlots.fits_renumber.2 h.proxies⟩

theorem ServerConfig.fits_renumber {c : ServerConfig} :
    (c.renumber v.see).Fits v n ↔ c.Fits v n := by
  have hgroups : (∀ g ∈ (c.renumber v.see).groups, g.Fits v n) ↔ ∀ g ∈ c.groups, g.Fits v n := by
    simp [renumber, ServerGroupConfig.fits_renumber]
  constructor
  · intro h
    exact ⟨h.id, h.clusterId, ProxySlots.fits_renumber.1 h.proxies, hgroups.1 h.groups⟩
  · intro h
    exact ⟨h.id, h.clusterId, ProxySlots.fits_renumber.2 h.proxies, hgroups.2 h.groups⟩

theorem NodeConfig.fits_renumber {c : NodeConfig} : (c.renumber v.see).Fits v n ↔ c.Fits v n := by
  have hservers : (∀ s ∈ (c.renumber v.see).servers, s.Fits v n) ↔ ∀ s ∈ c.servers, s.Fits v n := by
    simp [renumber, ServerConfig.fits_renumber]
  constructor
  · intro h
    exact ⟨h.id, h.clusterId, h.cluster, hservers.1 h.servers⟩
  · intro h
    exact ⟨h.id, h.clusterId, h.cluster, hservers.2 h.servers⟩

theorem Config.fits_renumber {c : Config} : (c.renumber v.see).Fits v n ↔ c.Fits v n := by
  cases c with
  | cluster c => exact Iff.rfl
  | node c => exact NodeConfig.fits_renumber
  | server c => exact ServerConfig.fits_renumber
  | serverGroup c => exact ServerGroupConfig.fits_renumber
  | reverseProxy c => exact ReverseProxyConfig.fits_renumber
  | origin c => exact Iff.rfl

/-- Of configs that look the same, each fits if the other does. -/
theorem Config.Fits.of_see {c d : Config} (h : c.Fits v n)
    (hsee : d.renumber v.see = c.renumber v.see) : d.Fits v n := by
  rw [← fits_renumber, hsee]
  exact fits_renumber.2 h

/-! ## What reading again leaves -/

theorem Scheduling.see_reread {s : Scheduling} (h : s.Fits v n) :
    (s.renumber Number.reread).renumber v.see = s.renumber v.see :=
  congrArg (Scheduling.mk s.code) (mapMembers_mapMembers v.see_reread s.options h.fair)

theorem ReverseProxyConfig.see_reread {c : ReverseProxyConfig} (h : c.Fits v n) :
    (c.renumber Number.reread).renumber v.see = c.renumber v.see := by
  have hscheduling : (c.renumber Number.reread).scheduling.map (·.renumber v.see)
      = c.scheduling.map (·.renumber v.see) := by
    rw [renumber, Option.map_map]
    exact Option.map_congr fun s hs => Scheduling.see_reread (h.scheduling s hs)
  unfold renumber at hscheduling ⊢
  simp only [hscheduling]

theorem ProxySlot.see_reread {s : ProxySlot} (h : s.Fits v n) :
    (s.renumber Number.reread).renumber v.see = s.renumber v.see := by
  have hconfig : (s.renumber Number.reread).config.map (·.renumber v.see)
      = s.config.map (·.renumber v.see) := by
    rw [renumber, Option.map_map]
    exact Option.map_congr fun c hc => ReverseProxyConfig.see_reread (h.config c hc)
  unfold renumber at hconfig ⊢
  simp only [hconfig]

theorem ProxySlots.see_reread {s : ProxySlots} (h : s.Fits v n) :
    (s.renumber Number.reread).renumber v.see = s.renumber v.see := by
  have hhttp := ProxySlot.see_reread (h .http)
  have htcp := ProxySlot.see_reread (h .tcp)
  have hudp := ProxySlot.see_reread (h .udp)
  simp only [get] at hhttp htcp hudp
  simp only [renumber, hhttp, htcp, hudp]

theorem ServerGroupConfig.see_reread {c : ServerGroupConfig} (h : c.Fits v n) :
    (c.renumber Number.reread).renumber v.see = c.renumber v.see := by
  simp only [renumber, ProxySlots.see_reread h.proxies]

theorem ServerConfig.see_reread {c : ServerConfig} (h : c.Fits v n) :
    (c.renumber Number.reread).renumber v.see = c.renumber v.see := by
  have hgroups : (c.renumber Number.reread).groups.map (·.renumber v.see)
      = c.groups.map (·.renumber v.see) := by
    rw [renumber, List.map_map]
    exact List.map_congr_left fun g hg => ServerGroupConfig.see_reread (h.groups g hg)
  unfold renumber at hgroups ⊢
  simp only [hgroups, ProxySlots.see_reread h.proxies]

theorem NodeConfig.see_reread {c : NodeConfig} (h : c.Fits v n) :
    (c.renumber Number.reread).renumber v.see = c.renumber v.see := by
  have hservers : (c.renumber Number.reread).servers.map (·.renumber v.see)
      = c.servers.map (·.renumber v.see) := by
    rw [renumber, List.map_map]
    exact List.map_congr_left fun s hs => ServerConfig.see_reread (h.servers s hs)
  unfold renumber at hservers ⊢
  simp only [hservers]

/-- A config looks as it does when its numbers are read again. -/
theorem Config.see_reread {c : Config} (h : c.Fits v n) :
    (c.renumber Number.reread).renumber v.see = c.renumber v.see := by
  cases c with
  | cluster c => rfl
  | node c => exact congrArg Config.node (NodeConfig.see_reread h)
  | server c => exact congrArg Config.server (ServerConfig.see_reread h)
  | serverGroup c => exact congrArg Config.serverGroup (ServerGroupConfig.see_reread h)
  | reverseProxy c => exact congrArg Config.reverseProxy (ReverseProxyConfig.see_reread h)
  | origin c => rfl

end Fleet
