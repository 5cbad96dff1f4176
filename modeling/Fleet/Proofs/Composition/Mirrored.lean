import Fleet.Proofs.Composition.Again
import Fleet.Proofs.Config.Forgotten
import Fleet.Proofs.Store.Cleared

/-!
# Composition where slots that name no proxy are emptied

Two stores, of which the second has slots empty that name no proxy in the first. An entity is composed
alike on both, but for the references of these slots: they stand in the configs of the first store and
not in those of the second. The two compositions run side by side, each with its cache, and at any time
the caches keep the same, but for these references.
-/

namespace Fleet

open Json

variable {gone : EntityRef → Protocol → Bool}

/-! ## Caches -/

def CacheSlot.forget (gone : EntityRef → Protocol → Bool) : CacheSlot → CacheSlot
  | .ready c => .ready (c.forget gone)
  | slot => slot

def Lookup.forget (gone : EntityRef → Protocol → Bool) : Lookup → Lookup
  | .hit c => .hit (c.forget gone)
  | l => l

namespace Cache

/-- The second cache keeps what the first one keeps, but for what is gone. -/
def Mirrors (gone : EntityRef → Protocol → Bool) (c d : Cache) : Prop :=
  ∀ key, d.slots.find? key = (c.slots.find? key).map (CacheSlot.forget gone)

variable {c d : Cache} {s : Store} {v : Number.View} {held : EntityRef → Prop} {n : Nat}

theorem mirrors_empty : Mirrors gone empty empty := fun _ => rfl

theorem Mirrors.put (h : c.Mirrors gone d) (key : EntityRef) (slot : CacheSlot) :
    (c.put key slot).Mirrors gone (d.put key (slot.forget gone)) := by
  intro x
  rw [find?_put, find?_put, h]
  split <;> rfl

theorem Mirrors.begin (h : c.Mirrors gone d) (key : EntityRef) :
    (c.begin key).Mirrors gone (d.begin key) := h.put key .resolving

theorem Mirrors.settle (h : c.Mirrors gone d) (key : EntityRef) (o : Option Config) :
    (c.settle key o).Mirrors gone (d.settle key (o.map (·.forget gone))) := by
  cases o <;> exact h.put key _

theorem Mirrors.abandon (h : c.Mirrors gone d) (key : EntityRef) :
    (c.abandon key).Mirrors gone (d.abandon key) := by
  intro x
  rw [find?_abandon, find?_abandon, h]
  split <;> rfl

/-- What is kept fits, so the caches hand out copies alike. -/
theorem Mirrors.lookup (h : c.Mirrors gone d) (hs : s.Suits v n) (hc : c.Faithful s v held)
    {key : EntityRef} (hheld : ¬held key) :
    (∃ e, c.lookup key = .error e ∧ d.lookup key = .error e) ∨
      ∃ l c' d', c.lookup key = .ok (l, c') ∧ d.lookup key = .ok (l.forget gone, d') ∧
        c'.Faithful s v held ∧ c'.Mirrors gone d' := by
  have hfind := h key
  cases hslot : c.slots.find? key with
  | none =>
      rw [hslot] at hfind
      exact .inr ⟨_, _, _, lookup_of_none hslot, lookup_of_none hfind, hc, h⟩
  | some slot =>
      rw [hslot] at hfind
      cases slot with
      | resolving => exact absurd (hc.resolving key hslot) hheld
      | absent => exact .inr ⟨_, _, _, lookup_of_absent hslot, lookup_of_absent hfind, hc, h⟩
      | ready config =>
          obtain ⟨plain, hplain, hsee⟩ := hc.ready key config hslot
          have hfits : config.Fits v n := (Plain.fits_entity hs hplain).of_see hsee
          rcases Config.copy_forget gone hfits with ⟨copied, hcopy, hcopy'⟩ | ⟨e, e', hcopy, hcopy'⟩
          · exact .inr ⟨_, _, _, lookup_of_ready hslot hcopy, lookup_of_ready hfind hcopy', hc.hit, h⟩
          · exact .inl ⟨_, lookup_of_uncopied hslot hcopy, lookup_of_uncopied hfind hcopy'⟩

end Cache

namespace Composing

open Cache

variable {α β : Type} {s t : Store} {held : EntityRef → Prop}

/-! ## Side by side -/

/-- How two compositions end that run side by side. -/
structure EndsAlike (gone : EntityRef → Protocol → Bool) (s t : Store) (look : α → α)
    (o o' : (Except Failure α × Cache) × Store) : Prop where
  outcome : o'.1.1 = o.1.1.map look
  cache : o.1.2.Mirrors gone o'.1.2
  left : o.2 = s
  right : o'.2 = t

/-- From caches that mirror each other the second composition ends as the first one, of whose outcome
`look` tells what is not gone. -/
def Mirrored (gone : EntityRef → Protocol → Bool) (s t : Store) (held : EntityRef → Prop)
    (look : α → α) (x y : Composing α) : Prop :=
  ∀ c d, c.Faithful s .blurred held → c.Mirrors gone d →
    (on x c s).1.2.Faithful s .blurred held ∧ EndsAlike gone s t look (on x c s) (on y d t)

variable {look : α → α} {look' : β → β} {x y : Composing α}

theorem mirrored_outcome (r : Except Failure α) :
    Mirrored gone s t held look (ExceptT.mk (pure r)) (ExceptT.mk (pure (r.map look))) :=
  fun _ _ hc h => ⟨hc, rfl, h, rfl, rfl⟩

theorem mirrored_pure {a b : α} (h : b = look a) :
    Mirrored gone s t held look (pure a) (pure b) := by
  subst h
  exact mirrored_outcome (.ok a)

theorem Mirrored.bind {f g : α → Composing β} (hx : Mirrored gone s t held look x y)
    (hf : ∀ a, Mirrored gone s t held look' (f a) (g (look a))) :
    Mirrored gone s t held look' (x >>= f) (y >>= g) := by
  intro c d hc h
  obtain ⟨hc', hend⟩ := hx c d hc h
  rw [on_bind, on_bind]
  generalize on x c s = o at hc' hend ⊢
  generalize on y d t = o' at hend ⊢
  obtain ⟨⟨r, c'⟩, s'⟩ := o
  obtain ⟨⟨r', d'⟩, t'⟩ := o'
  obtain ⟨rfl, hmirrors, rfl, rfl⟩ := hend
  cases r with
  | ok a => exact hf a c' d' hc' hmirrors
  | error e => exact ⟨hc', rfl, hmirrors, rfl, rfl⟩

/-- A part that both stores tell in full. -/
theorem Mirrored.bind_same {f g : α → Composing β} (hx : Mirrored gone s t held id x y)
    (hf : ∀ a, Mirrored gone s t held look' (f a) (g a)) :
    Mirrored gone s t held look' (x >>= f) (y >>= g) := hx.bind hf

theorem mirrored_reference (owner : EntityRef) (field : String) (d : Json.Decoder α) (r : RefText) :
    Mirrored gone s t held id (reference owner field d r) (reference owner field d r) := by
  unfold reference
  cases r.decode d <;> exact mirrored_outcome _

theorem mirrored_present {f g : β → Composing (Option α)}
    (h : ∀ b, Mirrored gone s t held (Option.map look) (f b) (g b)) (l : List β) :
    Mirrored gone s t held (List.map look) (present f l) (present g l) := by
  induction l with
  | nil => exact mirrored_pure rfl
  | cons b l ih =>
      refine (h b).bind fun a => ih.bind fun as => mirrored_pure ?_
      cases a <;> simp

/-- A read, and what follows on what each store answers. -/
theorem mirrored_read {a : Action α} {v w : α} {f g : α → Composing β}
    (hmakes : a.run.Makes Call.Composes) (hv : (Action.on a s).1 = .ok v)
    (hw : (Action.on a t).1 = .ok w) (h : Mirrored gone s t held look' (f v) (g w)) :
    Mirrored gone s t held look' (ofAction a >>= f) (ofAction a >>= g) := by
  have hread {u : Store} {b : α} (hb : (Action.on a u).1 = .ok b) (c : Cache) :
      on (ofAction a) c u = ((.ok b, c), u) := by
    have hstore : (Action.on a u).2 = u :=
      Program.run_of_isRead fun c hc => (hmakes.mem_calls c hc).isRead
    refine (Program.run_bind Store.host a.run _ u).trans ?_
    change (((Action.on a u).1, c), (Action.on a u).2) = _
    rw [hb, hstore]
  intro c d hc hm
  rw [on_bind, on_bind, hread hv, hread hw]
  exact h c d hc hm

/-! ## Entities -/

/-- What is forgotten of the configs of one kind. -/
structure Carries (gone : EntityRef → Protocol → Bool) (wrap : α → Config)
    (unwrap : Config → Option α) (look : α → α) : Prop where
  forget_wrap : ∀ a, (wrap a).forget gone = wrap (look a)
  unwrap_forget : ∀ c, unwrap (c.forget gone) = (unwrap c).map look

section

variable {key : EntityRef} {wrap : α → Config} {unwrap : Config → Option α}
  {build build' : Composing (Option α)}

theorem Carries.map_map (h : Carries gone wrap unwrap look) (o : Option α) :
    (o.map wrap).map (·.forget gone) = (o.map look).map wrap := by
  cases o with
  | none => rfl
  | some a => exact congrArg some (h.forget_wrap a)

theorem endsAlike_settled (hw : Carries gone wrap unwrap look) {c d : Cache}
    (hc : c.Faithful s .blurred held) (h : c.Mirrors gone d)
    (hbuild : Mirrored gone s t (Holding held key) (Option.map look) build build') :
    EndsAlike gone s t (Option.map look) (on (settled key wrap build) c s)
      (on (settled key wrap build') d t) := by
  obtain ⟨-, hend⟩ := hbuild _ _ (faithful_begin hc) (h.begin key)
  rw [on_settled, on_settled]
  generalize on build (c.begin key) s = o at hend ⊢
  generalize on build' (d.begin key) t = o' at hend ⊢
  obtain ⟨⟨r, c'⟩, s'⟩ := o
  obtain ⟨⟨r', d'⟩, t'⟩ := o'
  obtain ⟨rfl, hmirrors, rfl, rfl⟩ := hend
  cases r with
  | ok o =>
      refine ⟨rfl, ?_, rfl, rfl⟩
      have hsettled := hmirrors.settle key (o.map wrap)
      rw [hw.map_map] at hsettled
      exact hsettled
  | error e => exact ⟨rfl, hmirrors.abandon key, rfl, rfl⟩

/-- That the first cache stays faithful is known from elsewhere. -/
theorem mirrored_cached {n : Nat} {lax : Prop} {γ : Type} {look' : Option α → γ}
    {p : Except Failure (Option α)} (hs : s.Suits .blurred n) (hw : Carries gone wrap unwrap look)
    (hagrees : Agrees s .blurred lax held look' (cached key wrap unwrap build) p)
    (hheld : ¬held key)
    (hbuild : Mirrored gone s t (Holding held key) (Option.map look) build build') :
    Mirrored gone s t held (Option.map look) (cached key wrap unwrap build)
      (cached key wrap unwrap build') := by
  intro c d hc h
  refine ⟨(hagrees c hc).2.1, ?_⟩
  by_cases hpos : 0 < key.id
  · rw [on_cached hpos, on_cached hpos]
    rcases h.lookup hs hc hheld with ⟨e, he, he'⟩ | ⟨l, c', d', hl, hl', hc', hm⟩
    · rw [he, he']
      exact ⟨rfl, h, rfl, rfl⟩
    · rw [hl, hl']
      cases l with
      | miss => exact endsAlike_settled hw hc' hm hbuild
      | absent => exact ⟨rfl, hm, rfl, rfl⟩
      | hit config =>
          dsimp only [Lookup.forget]
          rw [hw.unwrap_forget]
          cases unwrap config with
          | none => exact endsAlike_settled hw hc' hm hbuild
          | some a => exact ⟨rfl, hm, rfl, rfl⟩
  · rw [on_cached_of_not_pos hpos, on_cached_of_not_pos hpos]
    exact ⟨rfl, h, rfl, rfl⟩

end

theorem mirrored_filled {enabled : Bool} (h : Mirrored gone s t held look x y) :
    Mirrored gone s t held (Option.map look)
      (if enabled = true then do return some (← x) else return none)
      (if enabled = true then do return some (← y) else return none) := by
  cases enabled with
  | false => exact mirrored_pure rfl
  | true => exact h.bind fun _ => mirrored_pure rfl

theorem Mirrored.map {f : α → β} (h : Mirrored gone s t held look x y)
    (hf : ∀ a, f (look a) = look' (f a)) : Mirrored gone s t held look' (f <$> x) (f <$> y) := by
  rw [← bind_pure_comp, ← bind_pure_comp]
  exact h.bind fun a => mirrored_pure (hf a)

/-- The record of an entity, and the build that fills it. -/
theorem mirrored_built {ρ : Type} {key : EntityRef} {pick : Record → Option ρ} (clear : ρ → ρ)
    {f g : Option ρ → Composing (Option α)} (h : s.Clears gone t)
    (hpick : ∀ r : Record, pick (r.clear gone) = (pick r).map clear)
    (hnone : Mirrored gone s t held (Option.map look) (f none) (g none))
    (hsome : ∀ r, (s.find? key).bind pick = some r →
      Mirrored gone s t held (Option.map look) (f (some r)) (g (some (clear r)))) :
    Mirrored gone s t held (Option.map look)
      (ofAction (do return (← Action.ask (.find key)).bind pick) >>= f)
      (ofAction (do return (← Action.ask (.find key)).bind pick) >>= g) := by
  have hfind : (t.find? key).bind pick = ((s.find? key).bind pick).map clear := by
    rw [h.find?_eq]
    cases s.find? key with
    | none => rfl
    | some r => exact hpick r
  refine mirrored_read (v := (s.find? key).bind pick) (w := (t.find? key).bind pick) makes_find
    rfl rfl ?_
  rw [hfind]
  cases hr : (s.find? key).bind pick with
  | none => exact hnone
  | some r => exact hsome r hr

/-! ## Kinds -/

theorem carries_cluster : Carries gone .cluster Config.cluster? id where
  forget_wrap _ := rfl
  unwrap_forget c := by cases c <;> rfl

theorem carries_node : Carries gone .node Config.node? (NodeConfig.forget gone) where
  forget_wrap _ := rfl
  unwrap_forget c := by cases c <;> rfl

theorem carries_server : Carries gone .server Config.server? (ServerConfig.forget gone) where
  forget_wrap _ := rfl
  unwrap_forget c := by cases c <;> rfl

theorem carries_serverGroup :
    Carries gone .serverGroup Config.serverGroup? (ServerGroupConfig.forget gone) where
  forget_wrap _ := rfl
  unwrap_forget c := by cases c <;> rfl

theorem carries_reverseProxy : Carries gone .reverseProxy Config.reverseProxy? id where
  forget_wrap _ := rfl
  unwrap_forget c := by cases c <;> rfl

theorem carries_origin : Carries gone .origin Config.origin? id where
  forget_wrap _ := rfl
  unwrap_forget c := by cases c <;> rfl

/-- Groups are ranked by their orders alone. -/
theorem forget_ranked (groups : List ServerGroupConfig) :
    (ranked groups).map (·.forget gone) = ranked (groups.map (·.forget gone)) :=
  List.map_mergeSort fun _ _ _ _ => rfl

/-! ## Builders -/

/-- The slot of an idle reference keeps the reference alone. -/
theorem on_slot_of_namesNoProxy (owner : EntityRef) (p : Protocol) {text : RefText}
    (h : text.NamesNoProxy) (cache : Cache) (s : Store) :
    ∃ ref, on (slot owner p text) cache s = ((.ok ⟨some ref, none⟩, cache), s) := by
  obtain ⟨ref, href, hid⟩ := h
  have hreference : on (reference owner p.field ReverseProxyRef.decoder text) cache s
      = ((.ok (some ref), cache), s) := by
    unfold reference
    rw [href]
    rfl
  have hproxy : on (reverseProxy ref.reverseProxyId) cache s = ((.ok none, cache), s) :=
    on_cached_of_not_pos (not_lt.2 hid)
  refine ⟨ref, ?_⟩
  unfold slot
  rw [on_bind, hreference]
  dsimp only
  rw [on_bind, hproxy]
  rfl

variable {n : Nat} (hs : s.Suits .blurred n) (hclears : s.Clears gone t)

include hs hclears

theorem mirrored_origin (h : Over .origin held) (i : Int) :
    Mirrored gone s t held (Option.map id) (origin i) (origin i) := by
  refine mirrored_cached hs carries_origin (agrees_origin hs (fun _ => trivial) h i) h.not_held ?_
  refine mirrored_built id hclears (fun r => by cases r <;> rfl) (mirrored_pure rfl)
    fun r _ => mirrored_pure ?_
  exact (congrFun Option.map_id _).symm

theorem mirrored_origins (h : Over .origin held) (refs : List OriginRef) :
    Mirrored gone s t held id (origins refs) (origins refs) := by
  have horigins := mirrored_present
    (fun r : OriginRef => mirrored_origin hs hclears h r.originId) (refs.filter (·.isOn))
  rw [List.map_id_fun] at horigins
  exact horigins

theorem mirrored_reverseProxy (h : Over .reverseProxy held) (i : Int) :
    Mirrored gone s t held (Option.map id) (reverseProxy i) (reverseProxy i) := by
  have horigin : Over .origin (Holding held ⟨.reverseProxy, i⟩) := h.holding (by simp [Kind.tier])
  refine mirrored_cached hs carries_reverseProxy (agrees_reverseProxy hs (fun _ => trivial) h i)
    h.not_held ?_
  refine mirrored_built id hclears (fun r => by cases r <;> rfl) (mirrored_pure rfl)
    fun r _ => mirrored_filled ?_
  refine (mirrored_reference _ _ _ _).bind_same fun scheduling => ?_
  refine (mirrored_reference _ _ _ _).bind_same fun primary => ?_
  refine (mirrored_reference _ _ _ _).bind_same fun backup => ?_
  refine (mirrored_origins hs hclears horigin _).bind_same fun primaryOrigins => ?_
  refine (mirrored_origins hs hclears horigin _).bind_same fun backupOrigins => ?_
  exact mirrored_pure rfl

theorem mirrored_slot (h : Over .reverseProxy held) {owner : EntityRef} {p : Protocol}
    {text : RefText} {b : Bool} (hidle : b = true → text.NamesNoProxy) :
    Mirrored gone s t held (ProxySlot.forget b) (slot owner p text)
      (slot owner p (if b then .empty else text)) := by
  cases b with
  | true =>
      -- The reference has no positive id, so the first composition does not look into its cache either.
      intro c d hc hm
      obtain ⟨ref, hon⟩ := on_slot_of_namesNoProxy owner p (hidle rfl) c s
      rw [hon]
      exact ⟨hc, rfl, hm, rfl, rfl⟩
  | false =>
      refine (mirrored_reference _ _ _ _).bind_same fun ref => ?_
      cases ref with
      | none => exact mirrored_pure rfl
      | some ref =>
          refine (mirrored_reverseProxy hs hclears h _).bind fun c => mirrored_pure ?_
          rw [Option.map_id]
          rfl

theorem mirrored_slots (h : Over .reverseProxy held) {owner : EntityRef}
    {gone' : Protocol → Bool} {texts texts' : Protocol → RefText}
    (htexts : ∀ p, texts' p = if gone' p then .empty else texts p)
    (hidle : ∀ p, gone' p = true → (texts p).NamesNoProxy) :
    Mirrored gone s t held (ProxySlots.forget gone') (slots owner texts) (slots owner texts') := by
  have hslot (p : Protocol) : Mirrored gone s t held (ProxySlot.forget (gone' p))
      (slot owner p (texts p)) (slot owner p (texts' p)) := by
    rw [htexts]
    exact mirrored_slot hs hclears h (hidle p)
  refine (hslot .http).bind fun http => ?_
  refine (hslot .tcp).bind fun tcp => ?_
  exact (hslot .udp).bind fun udp => mirrored_pure rfl

theorem mirrored_serverGroup (h : Over .serverGroup held) (i : Int) :
    Mirrored gone s t held (Option.map (ServerGroupConfig.forget gone)) (serverGroup i)
      (serverGroup i) := by
  have hproxy : Over .reverseProxy (Holding held ⟨.serverGroup, i⟩) :=
    h.holding (by simp [Kind.tier])
  refine mirrored_cached hs carries_serverGroup (agrees_serverGroup hs (fun _ => trivial) h i)
    h.not_held ?_
  refine mirrored_built (fun g => g.clear (gone ⟨.serverGroup, g.id⟩)) hclears
    (fun r => by cases r <;> rfl) (mirrored_pure rfl) fun g hg => mirrored_filled ?_
  have hidle : ∀ p, gone ⟨.serverGroup, g.id⟩ p = true → (g.slot p).NamesNoProxy := by
    obtain ⟨stored, hstored, hpick⟩ := Option.bind_eq_some_iff.1 hg
    cases stored <;> cases hpick
    exact fun p hp => hclears.idle _ _ hstored p _ hp rfl
  exact (mirrored_slots hs hclears hproxy (g.slot_clear _) hidle).bind fun _ => mirrored_pure rfl

theorem mirrored_server (h : Over .server held) (i : Int) :
    Mirrored gone s t held (Option.map (ServerConfig.forget gone)) (server i) (server i) := by
  have hproxy : Over .reverseProxy (Holding held ⟨.server, i⟩) := h.holding (by simp [Kind.tier])
  have hgroup : Over .serverGroup (Holding held ⟨.server, i⟩) := h.holding (by simp [Kind.tier])
  refine mirrored_cached hs carries_server (agrees_server hs (fun _ => trivial) h i) h.not_held ?_
  refine mirrored_built (fun a => a.clear (gone ⟨.server, a.id⟩)) hclears
    (fun r => by cases r <;> rfl) (mirrored_pure rfl) fun a ha => mirrored_filled ?_
  have hidle : ∀ p, gone ⟨.server, a.id⟩ p = true → (a.slot p).NamesNoProxy := by
    obtain ⟨stored, hstored, hpick⟩ := Option.bind_eq_some_iff.1 ha
    cases stored <;> cases hpick
    exact fun p hp => hclears.idle _ _ hstored p _ hp rfl
  refine (mirrored_slots hs hclears hproxy (a.slot_clear _) hidle).bind fun proxies => ?_
  refine (mirrored_reference _ _ _ _).bind_same fun groupIds => ?_
  refine (mirrored_present (mirrored_serverGroup hs hclears hgroup) _).bind fun groups => ?_
  refine mirrored_pure ?_
  rw [ServerConfig.forget, forget_ranked]
  rfl

theorem mirrored_cluster (h : Over .cluster held) (i : Int) :
    Mirrored gone s t held (Option.map id) (cluster i) (cluster i) := by
  refine mirrored_cached hs carries_cluster (agrees_cluster hs (fun _ => trivial) h i) h.not_held ?_
  refine mirrored_built id hclears (fun r => by cases r <;> rfl) (mirrored_pure rfl)
    fun r _ => mirrored_filled ?_
  refine (mirrored_reference _ _ _ _).bind_same fun apiNodes => ?_
  exact (mirrored_reference _ _ _ _).bind_same fun _ => mirrored_pure rfl

variable (hservers : ∀ k, t.enabledServers k = s.enabledServers k)

include hservers

theorem mirrored_clusterServers (h : Over .server held) (cluster : Option ClusterConfig) (i : Int) :
    Mirrored gone s t held (List.map (ServerConfig.forget gone)) (clusterServers cluster i)
      (clusterServers cluster i) := by
  unfold clusterServers
  split
  · refine mirrored_read (Action.makes_ask trivial) (v := s.enabledServers i)
      (w := t.enabledServers i) rfl rfl ?_
    rw [hservers]
    exact mirrored_present (mirrored_server hs hclears h) _
  · exact mirrored_pure rfl

theorem mirrored_node (h : Over .node held) (i : Int) :
    Mirrored gone s t held (Option.map (NodeConfig.forget gone)) (node i) (node i) := by
  have hcluster : Over .cluster (Holding held ⟨.node, i⟩) := h.holding (by simp [Kind.tier])
  have hserver : Over .server (Holding held ⟨.node, i⟩) := h.holding (by simp [Kind.tier])
  refine mirrored_cached hs carries_node (agrees_node hs (fun _ => trivial) h i) h.not_held ?_
  refine mirrored_built id hclears (fun r => by cases r <;> rfl) (mirrored_pure rfl)
    fun r _ => mirrored_filled ?_
  have hsame := mirrored_cluster hs hclears hcluster r.clusterId
  rw [Option.map_id] at hsame
  refine (mirrored_reference _ _ _ _).bind_same fun addrs => ?_
  refine hsame.bind_same fun cluster => ?_
  exact (mirrored_clusterServers hs hclears hservers hserver _ _).bind fun _ => mirrored_pure rfl

theorem mirrored_entity (target : EntityRef) (h : Over target.kind held) :
    Mirrored gone s t held (Option.map (Config.forget gone)) (entity target) (entity target) := by
  obtain ⟨kind, i⟩ := target
  cases kind with
  | cluster => exact (mirrored_cluster hs hclears h i).map fun o => (carries_cluster.map_map o).symm
  | node => exact (mirrored_node hs hclears hservers h i).map fun o => (carries_node.map_map o).symm
  | server => exact (mirrored_server hs hclears h i).map fun o => (carries_server.map_map o).symm
  | serverGroup =>
      exact (mirrored_serverGroup hs hclears h i).map fun o => (carries_serverGroup.map_map o).symm
  | reverseProxy =>
      exact (mirrored_reverseProxy hs hclears h i).map fun o =>
        (carries_reverseProxy.map_map o).symm
  | origin => exact (mirrored_origin hs hclears h i).map fun o => (carries_origin.map_map o).symm

end Composing

/-! ## One slot -/

/-- Where slots that name no proxy are emptied, a composition with a fresh cache ends as before but for
their references. -/
theorem composeFresh_of_clears {s t : Store} (hs : s.Sound) (ht : t.Sound)
    (hwidths : s.InWidths) (h : s.Clears gone t) (target : EntityRef) :
    (Action.on (composeFresh target) t).1
      = (Action.on (composeFresh target) s).1.map (Option.map (Config.forget gone)) := by
  obtain ⟨n, hsuits⟩ := Store.exists_suits hwidths
  have hnone : ∀ k, Cache.Over k fun _ => False := fun _ _ hx => False.elim hx
  have hmirrored := Composing.mirrored_entity hsuits h (h.enabledServers_eq hs ht) target (hnone _)
  rw [on_composeFresh, on_composeFresh]
  exact (hmirrored .empty .empty (faithful_empty s) Cache.mirrors_empty).2.outcome

/-- A reference that names no proxy is kept in the composed configs. When its text is replaced by the
empty one, every entity, of whatever kind, is composed to what it was composed to before, but for this
reference wherever its owner stands in the config, and no edge changes. -/
theorem composeFresh_of_emptied_slot {s : Store} (h : s.Reachable) (hwidths : s.InWidths)
    {r : Record} {p : Protocol} {text : RefText} (hr : s.find? r.ref = some r)
    (hslot : r.slot? p = some text) (hnone : text.NamesNoProxy) :
    ∃ t, s.answer (.save (r.withSlot p .empty)) = (.ok r.id, t) ∧ t.index = s.index ∧
      ∀ target, (Action.on (composeFresh target) t).1
        = (Action.on (composeFresh target) s).1.map
            (Option.map (Config.forget fun x q => x = r.ref && q = p)) := by
  have href : (r.withSlot p .empty).ref = r.ref := r.ref_withSlot p .empty
  have hid : (r.withSlot p .empty).id = r.id := congrArg EntityRef.id href
  have hclears := Store.clears_put h.sound hr hslot hnone
  have hsave := h.sound.save_stored (href ▸ hr)
  have hanswer : s.answer (.save (r.withSlot p .empty))
      = (.ok r.id, s.put (r.withSlot p .empty)) := by
    rw [Store.answer, hsave, hid]
  have hafter : (s.put (r.withSlot p .empty)).Reachable := by
    have hcall := h.call (.save (r.withSlot p .empty))
    rw [hanswer] at hcall
    exact hcall
  exact ⟨_, hanswer, hclears.index_eq h.sound hafter.sound h.tidy hafter.tidy,
    composeFresh_of_clears h.sound hafter.sound hwidths hclears⟩

/-- A group whose only reference has the id 0. -/
def ServerGroup.zeroed : ServerGroup where
  id := 3
  httpReverseProxy := ⟨"\x7b\"reverseProxyId\":0\x7d"⟩

def ServerGroupConfig.zeroed (reference : Option ReverseProxyRef) : ServerGroupConfig where
  id := 3
  name := ""
  isOn := true
  order := 0
  proxies := { http := { reference } }

def Store.zeroed : Store := (Store.empty.answer (.save (.serverGroup .zeroed))).2

theorem ServerGroup.decode_zeroed :
    ServerGroup.zeroed.httpReverseProxy.decode ReverseProxyRef.decoder
      = .ok (some ⟨0, true, false⟩) := by decide +kernel

theorem ServerGroup.fits_zeroed : (Record.serverGroup .zeroed).Fits := ⟨rfl, by decide, by decide⟩

theorem Store.inWidths_zeroed : Store.zeroed.InWidths :=
  inWidths_empty.answer sound_empty ServerGroup.fits_zeroed

theorem composeFresh_of_emptied_slot_zeroed :
    Store.zeroed.Reachable ∧ Store.zeroed.InWidths ∧
      Store.zeroed.find? ⟨.serverGroup, 3⟩ = some (.serverGroup .zeroed) ∧
      ServerGroup.zeroed.httpReverseProxy.NamesNoProxy ∧
      ∃ t, Store.zeroed.answer (.save ((Record.serverGroup .zeroed).withSlot .http .empty))
          = (.ok 3, t) ∧ t.index = Store.zeroed.index ∧
        ∀ target, (Action.on (composeFresh target) t).1
          = (Action.on (composeFresh target) Store.zeroed).1.map
              (Option.map (Config.forget fun x q => x = ⟨.serverGroup, 3⟩ && q = .http)) := by
  have hreachable : Store.zeroed.Reachable := .call _ .empty
  have hnone : ServerGroup.zeroed.httpReverseProxy.NamesNoProxy :=
    ⟨_, ServerGroup.decode_zeroed, le_rfl⟩
  exact ⟨hreachable, Store.inWidths_zeroed, rfl, hnone,
    composeFresh_of_emptied_slot hreachable Store.inWidths_zeroed
      (r := .serverGroup .zeroed) (p := .http) rfl rfl hnone⟩

/-- The config of the group shows the reference that names no proxy. -/
theorem zero_reference_shown :
    Store.zeroed.Reachable ∧
      ServerGroup.zeroed.httpReverseProxy.decode ReverseProxyRef.decoder
        = .ok (some ⟨0, true, false⟩) ∧
      (Action.on (composeFresh ⟨.serverGroup, 3⟩) Store.zeroed).1
        = .ok (some (.serverGroup (.zeroed (some ⟨0, true, false⟩)))) ∧
      (Action.on (composeFresh ⟨.serverGroup, 3⟩)
          (Store.zeroed.answer (.save ((Record.serverGroup .zeroed).withSlot .http .empty))).2).1
        = .ok (some (.serverGroup (.zeroed none))) :=
  ⟨.call _ .empty, ServerGroup.decode_zeroed, by decide +kernel, by decide +kernel⟩

end Fleet
