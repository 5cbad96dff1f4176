import Fleet.Proofs.Config.Copies

/-!
# Configs without some of their references

A reference stays in its slot when its proxy is missing, so a config tells more than what is run. Here
some of these references are left out, wherever in a config their owner stands. As a reference is not
deep, a config has a copy with it if it has one without it, and the copies differ as the configs do.
-/

namespace Fleet

open Json

variable {v : Number.View} {n k : Nat}

def ProxySlot.forget (gone : Bool) (c : ProxySlot) : ProxySlot :=
  if gone then { c with reference := none } else c

/-- The slots, some of them without their references. -/
def ProxySlots.forget (gone : Protocol → Bool) (c : ProxySlots) : ProxySlots where
  http := c.http.forget (gone .http)
  tcp := c.tcp.forget (gone .tcp)
  udp := c.udp.forget (gone .udp)

variable {gone : EntityRef → Protocol → Bool}

def ServerGroupConfig.forget (gone : EntityRef → Protocol → Bool) (c : ServerGroupConfig) :
    ServerGroupConfig :=
  { c with proxies := c.proxies.forget (gone ⟨.serverGroup, c.id⟩) }

def ServerConfig.forget (gone : EntityRef → Protocol → Bool) (c : ServerConfig) : ServerConfig :=
  { c with
    proxies := c.proxies.forget (gone ⟨.server, c.id⟩)
    groups := c.groups.map (·.forget gone) }

def NodeConfig.forget (gone : EntityRef → Protocol → Bool) (c : NodeConfig) : NodeConfig :=
  { c with servers := c.servers.map (·.forget gone) }

/-- The config without the references that the entities in it have in the slots that are `gone`. -/
def Config.forget (gone : EntityRef → Protocol → Bool) : Config → Config
  | .node c => .node (c.forget gone)
  | .server c => .server (c.forget gone)
  | .serverGroup c => .serverGroup (c.forget gone)
  | c => c

theorem ProxySlots.get_forget (gone : Protocol → Bool) (c : ProxySlots) (p : Protocol) :
    (c.forget gone).get p = (c.get p).forget (gone p) := by
  cases p <;> rfl

/-! ## Numbers -/

theorem ProxySlot.forget_renumber (f : Number → Number) (gone : Bool) (c : ProxySlot) :
    (c.renumber f).forget gone = (c.forget gone).renumber f := by
  cases gone <;> rfl

theorem ProxySlots.forget_renumber (f : Number → Number) (gone : Protocol → Bool) (c : ProxySlots) :
    (c.renumber f).forget gone = (c.forget gone).renumber f := by
  simp only [forget, renumber, ProxySlot.forget_renumber]

theorem ServerGroupConfig.forget_renumber (f : Number → Number) (c : ServerGroupConfig) :
    (c.renumber f).forget gone = (c.forget gone).renumber f := by
  simp [forget, renumber, ProxySlots.forget_renumber]

theorem ServerConfig.forget_renumber (f : Number → Number) (c : ServerConfig) :
    (c.renumber f).forget gone = (c.forget gone).renumber f := by
  simp [forget, renumber, ProxySlots.forget_renumber, ServerGroupConfig.forget_renumber]

theorem NodeConfig.forget_renumber (f : Number → Number) (c : NodeConfig) :
    (c.renumber f).forget gone = (c.forget gone).renumber f := by
  simp [forget, renumber, ServerConfig.forget_renumber]

theorem Config.forget_renumber (f : Number → Number) (c : Config) :
    (c.renumber f).forget gone = (c.forget gone).renumber f := by
  cases c with
  | node c => exact congrArg Config.node (c.forget_renumber f)
  | server c => exact congrArg Config.server (c.forget_renumber f)
  | serverGroup c => exact congrArg Config.serverGroup (c.forget_renumber f)
  | cluster _ | reverseProxy _ | origin _ => rfl

/-! ## What fits -/

theorem ProxySlot.Fits.forget {c : ProxySlot} (h : c.Fits v n) (gone : Bool) :
    (c.forget gone).Fits v n := by
  cases gone with
  | false => exact h
  | true => exact ⟨fun _ hr => absurd hr (Option.not_mem_none _), h.config⟩

theorem ProxySlots.Fits.forget {c : ProxySlots} (h : c.Fits v n) (gone : Protocol → Bool) :
    (c.forget gone).Fits v n := by
  intro p
  rw [get_forget]
  exact (h p).forget (gone p)

variable (gone : EntityRef → Protocol → Bool)

theorem ServerGroupConfig.Fits.forget {c : ServerGroupConfig} (h : c.Fits v n) :
    (c.forget gone).Fits v n :=
  ⟨h.id, h.order, h.proxies.forget _⟩

theorem ServerConfig.Fits.forget {c : ServerConfig} (h : c.Fits v n) : (c.forget gone).Fits v n :=
  ⟨h.id, h.clusterId, h.proxies.forget _,
    List.forall_mem_map.2 fun g hg => (h.groups g hg).forget gone⟩

theorem NodeConfig.Fits.forget {c : NodeConfig} (h : c.Fits v n) : (c.forget gone).Fits v n :=
  ⟨h.id, h.clusterId, h.cluster, List.forall_mem_map.2 fun s hs => (h.servers s hs).forget gone⟩

theorem Config.Fits.forget {c : Config} (h : c.Fits v n) : (c.forget gone).Fits v n := by
  cases c with
  | node c => exact NodeConfig.Fits.forget gone h
  | server c => exact ServerConfig.Fits.forget gone h
  | serverGroup c => exact ServerGroupConfig.Fits.forget gone h
  | cluster _ | reverseProxy _ | origin _ => exact h

/-! ## Depth -/

theorem Json.depth_ofList_map_le_iff {α : Type} {f : α → Json} {g : α → α}
    (h : ∀ a, (f (g a)).depth ≤ k ↔ (f a).depth ≤ k) (l : List α) :
    (Json.ofList f (l.map g)).depth ≤ k + 1 ↔ (Json.ofList f l).depth ≤ k + 1 := by
  simp only [Json.ofList, depth, Nat.add_le_add_iff_right]
  induction l with
  | nil => rfl
  | cons a l ih => simp only [List.map_cons, depthItems, max_le_iff, h, ih]

/-- A reference is an object without objects in it. -/
theorem depth_reference_le (hk : 1 ≤ k) (o : Option ReverseProxyRef) :
    (Json.ofOption ReverseProxyRef.toJson o).depth ≤ k := by
  cases o with
  | none => exact Nat.zero_le k
  | some r => exact hk

theorem ProxySlot.depth_forget_le_iff (hk : 1 ≤ k) (reference config : String) (gone : Bool)
    (c : ProxySlot) :
    depthMembers (ProxySlots.slotMembers reference config (c.forget gone)) ≤ k ↔
      depthMembers (ProxySlots.slotMembers reference config c) ≤ k := by
  cases gone with
  | false => rfl
  | true => simp [ProxySlots.slotMembers, depthMembers, depth_reference_le hk, forget]

theorem ProxySlots.depth_forget_le_iff (hk : 1 ≤ k) (gone : Protocol → Bool) (c : ProxySlots) :
    depthMembers (c.forget gone).members ≤ k ↔ depthMembers c.members ≤ k := by
  simp only [members, depthMembers_append, max_le_iff, forget, ProxySlot.depth_forget_le_iff hk]

theorem ServerGroupConfig.depth_forget_le_iff (hk : 1 ≤ k) (c : ServerGroupConfig) :
    (c.forget gone).toJson.depth ≤ k + 1 ↔ c.toJson.depth ≤ k + 1 := by
  simp only [toJson, forget, depth, depthMembers_append, Nat.add_le_add_iff_right, max_le_iff,
    ProxySlots.depth_forget_le_iff hk]

theorem ServerConfig.depth_forget_le_iff (hk : 1 ≤ k) (c : ServerConfig) :
    (c.forget gone).toJson.depth ≤ k + 3 ↔ c.toJson.depth ≤ k + 3 := by
  have hproxies := ProxySlots.depth_forget_le_iff (k := k + 2) (by omega)
    (gone ⟨.server, c.id⟩) c.proxies
  have hgroups := Json.depth_ofList_map_le_iff
    (ServerGroupConfig.depth_forget_le_iff gone hk) c.groups
  simp only [toJson, forget, depth, depthMembers_append, depthMembers, Nat.add_le_add_iff_right,
    max_le_iff, hproxies, hgroups]

theorem NodeConfig.depth_forget_le_iff (hk : 1 ≤ k) (c : NodeConfig) :
    (c.forget gone).toJson.depth ≤ k + 5 ↔ c.toJson.depth ≤ k + 5 := by
  have hservers := Json.depth_ofList_map_le_iff
    (ServerConfig.depth_forget_le_iff gone hk) c.servers
  simp only [toJson, forget, depth, depthMembers, Nat.add_le_add_iff_right, max_le_iff, hservers]

theorem Config.depth_forget_le_iff (hk : 1 ≤ k) (c : Config) :
    (c.forget gone).toJson.depth ≤ k + 6 ↔ c.toJson.depth ≤ k + 6 := by
  have hbody : (c.forget gone).bodyJson.depth ≤ k + 5 ↔ c.bodyJson.depth ≤ k + 5 := by
    cases c with
    | node c => exact c.depth_forget_le_iff gone hk
    | server c => exact c.depth_forget_le_iff gone (by omega)
    | serverGroup c => exact c.depth_forget_le_iff gone (by omega)
    | cluster _ | reverseProxy _ | origin _ => rfl
  have hkind : (c.forget gone).kind = c.kind := by cases c <;> rfl
  simp only [toJson, depth, depthMembers, Nat.add_le_add_iff_right, max_le_iff, hbody, hkind]

/-! ## Copies -/

/-- A config without some of its references has a copy if it has one with them, and that is its copy
without these references. -/
theorem Config.copy_forget {c : Config} (h : c.Fits v n) :
    (∃ d, c.copy = .ok d ∧ (c.forget gone).copy = .ok (d.forget gone)) ∨
      ∃ e e', c.copy = .error e ∧ (c.forget gone).copy = .error e' := by
  have hdepth : (c.forget gone).toJson.depth ≤ 127 ↔ c.toJson.depth ≤ 127 :=
    c.depth_forget_le_iff gone (k := 121) (by decide)
  have hforget := (copy_yields (Fits.forget gone h)).congr hdepth.symm
  rw [← forget_renumber] at hforget
  rcases (copy_yields h).cases_eq with ⟨hshallow, hcopy⟩ | ⟨hdeep, e, hcopy⟩
  · rcases hforget.cases_eq with ⟨-, hcopy'⟩ | ⟨hdeep, -⟩
    · exact .inl ⟨_, hcopy, hcopy'⟩
    · exact absurd hshallow hdeep
  · rcases hforget.cases_eq with ⟨hshallow, -⟩ | ⟨-, e', hcopy'⟩
    · exact absurd hshallow hdeep
    · exact .inr ⟨e, e', hcopy, hcopy'⟩

end Fleet
