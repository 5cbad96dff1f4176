import Fleet.Proofs.Composition.Calls
import Fleet.Proofs.Composition.Logic
import Fleet.Proofs.Composition.Plain

/-!
# Composition with a cache and without

Composition with a cache ends as composition without one does, as far as a look at the numbers in
scheduling options tells: what the cache hands out went through the wire form. The cache is faithful at
any time: what it keeps looks as the store says, and the places that it holds are those of the entities
on the way down. As kinds refer downwards only, no lookup comes to one of these. Where options may nest
too deep for the wire form, a composition may also fail for want of a copy.
-/

namespace Fleet

open Json

/-- How far a kind stands above the origins in the order in which kinds are composed. -/
def Kind.tier : Kind → Nat
  | .origin | .cluster => 0
  | .reverseProxy => 1
  | .serverGroup => 2
  | .server => 3
  | .node => 4

/-- The cache keeps what looks as the store says, and holds places only for the given entities. -/
structure Cache.Faithful (s : Store) (v : Number.View) (held : EntityRef → Prop) (cache : Cache) :
    Prop where
  absent : ∀ key, cache.slots.find? key = some .absent → Plain.entity s key = .ok none
  ready : ∀ key config, cache.slots.find? key = some (.ready config) →
    ∃ plain, Plain.entity s key = .ok (some plain) ∧ config.renumber v.see = plain.renumber v.see
  resolving : ∀ key, cache.slots.find? key = some .resolving → held key
  cycles : cache.cycles = 0

namespace Cache

variable {α : Type} {s : Store} {v : Number.View} {held : EntityRef → Prop}

/-- Another place is held while the entity is composed. -/
def Holding (held : EntityRef → Prop) (key x : EntityRef) : Prop := held x ∨ x = key

/-- The places held are all of kinds that are composed later. -/
def Over (k : Kind) (held : EntityRef → Prop) : Prop := ∀ x, held x → k.tier < x.kind.tier

theorem Over.not_held {key : EntityRef} (h : Over key.kind held) : ¬held key := fun hk =>
  Nat.lt_irrefl _ (h key hk)

theorem Over.holding {key : EntityRef} {k : Kind} (h : Over key.kind held)
    (hk : k.tier < key.kind.tier) : Over k (Holding held key) := by
  rintro x (hx | rfl)
  · exact Nat.lt_trans hk (h x hx)
  · exact hk

theorem find?_put (cache : Cache) (key x : EntityRef) (slot : CacheSlot) :
    (cache.put key slot).slots.find? x = if x = key then some slot else cache.slots.find? x := by
  split
  · rename_i h
    subst h
    exact OrdMap.find?_insert_self _ _ _
  · rename_i h
    exact OrdMap.find?_insert_of_ne _ _ h

theorem find?_abandon (cache : Cache) (key x : EntityRef) :
    (cache.abandon key).slots.find? x = if x = key then none else cache.slots.find? x := by
  split
  · rename_i h
    subst h
    exact OrdMap.find?_erase_self _ _
  · rename_i h
    exact OrdMap.find?_erase_of_ne _ h

/-- A change of one place keeps the cache faithful if what it puts there is. -/
theorem Faithful.change {held' : EntityRef → Prop} {key : EntityRef} {cache cache' : Cache}
    {slot : Option CacheSlot} (h : cache.Faithful s v held')
    (hfind : ∀ x, cache'.slots.find? x = if x = key then slot else cache.slots.find? x)
    (hcycles : cache'.cycles = cache.cycles)
    (habsent : slot = some .absent → Plain.entity s key = .ok none)
    (hready : ∀ config, slot = some (.ready config) →
      ∃ plain, Plain.entity s key = .ok (some plain) ∧ config.renumber v.see = plain.renumber v.see)
    (hresolving : slot = some .resolving → held key) (hheld : ∀ x, x ≠ key → held' x → held x) :
    cache'.Faithful s v held := by
  refine ⟨fun x hx => ?_, fun x config hx => ?_, fun x hx => ?_, hcycles.trans h.cycles⟩
  all_goals
    rw [hfind] at hx
    split at hx
  · rename_i heq
    rw [heq]
    exact habsent hx
  · exact h.absent x hx
  · rename_i heq
    rw [heq]
    exact hready config hx
  · exact h.ready x config hx
  · rename_i heq
    rw [heq]
    exact hresolving hx
  · rename_i hne
    exact hheld x hne (h.resolving x hx)

theorem lookup_of_none {key : EntityRef} {cache : Cache} (h : cache.slots.find? key = none) :
    cache.lookup key = .ok (.miss, cache) := by
  rw [Cache.lookup, h]

theorem lookup_of_absent {key : EntityRef} {cache : Cache}
    (h : cache.slots.find? key = some .absent) : cache.lookup key = .ok (.absent, cache) := by
  rw [Cache.lookup, h]

theorem lookup_of_ready {key : EntityRef} {cache : Cache} {config copy : Config}
    (h : cache.slots.find? key = some (.ready config)) (hcopy : config.copy = .ok copy) :
    cache.lookup key = .ok (.hit copy, { cache with hits := cache.hits + 1 }) := by
  rw [Cache.lookup, h]
  simp only [hcopy]

theorem lookup_of_uncopied {key : EntityRef} {cache : Cache} {config : Config} {e : Json.Refusal}
    (h : cache.slots.find? key = some (.ready config)) (hcopy : config.copy = .error e) :
    cache.lookup key = .error (.undecodable key "cached config") := by
  rw [Cache.lookup, h]
  simp only [hcopy]

/-- What the cache keeps of an entity that is composed to a config of one kind. -/
theorem Faithful.ready_of {key : EntityRef} {cache : Cache} {config : Config} {wrap : α → Config}
    {p : Except Failure (Option α)} (h : cache.Faithful s v held)
    (hp : Plain.entity s key = Option.map wrap <$> p)
    (hfind : cache.slots.find? key = some (.ready config)) :
    ∃ a, p = .ok (some a) ∧ config.renumber v.see = (wrap a).renumber v.see := by
  have hready := h.ready key config hfind
  rw [hp] at hready
  obtain ⟨plain, hplain, hsee⟩ := hready
  obtain ⟨o, ho, he⟩ := Json.of_map_eq_ok hplain
  obtain ⟨a, rfl, rfl⟩ := Option.map_eq_some_iff.1 he
  exact ⟨a, ho, hsee⟩

/-- An answer from the cache is counted, and changes no place. -/
theorem Faithful.hit {cache : Cache} (h : cache.Faithful s v held) :
    { cache with hits := cache.hits + 1 }.Faithful s v held :=
  ⟨h.absent, h.ready, h.resolving, h.cycles⟩

theorem faithful_begin {key : EntityRef} {cache : Cache} (h : cache.Faithful s v held) :
    (cache.begin key).Faithful s v (Holding held key) :=
  h.change (find?_put cache key · .resolving) rfl (fun he => nomatch he) (fun _ he => nomatch he)
    (fun _ => .inr rfl) fun _ _ hx => .inl hx

theorem faithful_settle_absent {key : EntityRef} {cache : Cache}
    (h : cache.Faithful s v (Holding held key)) (hplain : Plain.entity s key = .ok none) :
    (cache.settle key none).Faithful s v held :=
  h.change (find?_put cache key · .absent) rfl (fun _ => hplain) (fun _ he => nomatch he)
    (fun he => nomatch he) fun _ hne hx => hx.resolve_right hne

theorem faithful_settle {key : EntityRef} {cache : Cache} {config plain : Config}
    (h : cache.Faithful s v (Holding held key)) (hplain : Plain.entity s key = .ok (some plain))
    (hsee : config.renumber v.see = plain.renumber v.see) :
    (cache.settle key (some config)).Faithful s v held := by
  refine h.change (find?_put cache key · (.ready config)) rfl (fun he => nomatch he) ?_
    (fun he => nomatch he) fun _ hne hx => hx.resolve_right hne
  rintro config' ⟨⟩
  exact ⟨plain, hplain, hsee⟩

theorem faithful_abandon {key : EntityRef} {cache : Cache}
    (h : cache.Faithful s v (Holding held key)) : (cache.abandon key).Faithful s v held :=
  h.change (find?_abandon cache key) rfl (fun he => nomatch he) (fun _ he => nomatch he)
    (fun he => nomatch he) fun _ hne hx => hx.resolve_right hne

end Cache

namespace Composing

open Cache

variable {α β ρ : Type} {s : Store} {v : Number.View} {lax : Prop} {held : EntityRef → Prop}

/-- The outcomes are the same but for what `look` does not tell; if `lax`, a failure is like every
outcome. -/
def Alike (lax : Prop) (look : α → β) (r p : Except Failure α) : Prop :=
  r.map look = p.map look ∨ lax ∧ ∃ e, r = .error e

/-- From a faithful cache, the composition ends like the given outcome and leaves the cache
faithful. -/
abbrev Agrees (s : Store) (v : Number.View) (lax : Prop) (held : EntityRef → Prop) (look : α → β)
    (x : Composing α) (p : Except Failure α) : Prop :=
  Holds s Call.Composes (Cache.Faithful s v held) x fun r => Alike lax look r p

/-! ## Outcomes -/

variable {γ δ : Type} {look : α → γ} {look' : β → δ}

theorem alike_ok {a b : α} (h : look a = look b) : Alike lax look (.ok a) (.ok b) :=
  .inl (congrArg Except.ok h)

theorem alike_of_ok {a : α} {p : Except Failure α} (h : Alike lax look (.ok a) p) :
    ∃ b, p = .ok b ∧ look a = look b := by
  rcases h with h | ⟨-, e, he⟩
  · cases p with
    | error e => cases h
    | ok b => exact ⟨b, rfl, Except.ok.inj h⟩
  · cases he

theorem alike_of_error {e : Failure} {p : Except Failure α} (h : Alike lax look (.error e) p) :
    p = .error e ∨ lax := by
  rcases h with h | ⟨hlax, -⟩
  · cases p with
    | error e' =>
        cases h
        exact .inl rfl
    | ok b => cases h
  · exact .inr hlax

theorem Alike.eq {r p : Except Failure (Option Config)}
    (h : Alike False (Option.map (Config.renumber Json.Number.View.exact.see)) r p) : r = p := by
  have hsame : Option.map (Config.renumber Json.Number.View.exact.see) = id :=
    funext fun o => by cases o <;> simp [Json.Number.View.exact]
  rcases h with h | ⟨hlax, -⟩
  · rw [hsame] at h
    cases r <;> cases p <;> cases h <;> rfl
  · exact hlax.elim

/-- Where nothing else may fail, the same failures come about. -/
theorem Alike.error_iff {r p : Except Failure α} (h : Alike False look r p) (e : Failure) :
    r = .error e ↔ p = .error e := by
  cases r with
  | error e' =>
      obtain rfl : p = .error e' := (alike_of_error h).resolve_right id
      rfl
  | ok a =>
      obtain ⟨b, rfl, -⟩ := alike_of_ok h
      simp

/-! ## Rules -/

theorem agrees_pure {a b : α} (h : look a = look b) :
    Agrees s v lax held look (pure a) (.ok b) := holds_pure (alike_ok h)

theorem Agrees.bind {x : Composing α} {f : α → Composing β} {p : Except Failure α}
    {q : α → Except Failure β} (hx : Agrees s v lax held look x p)
    (hf : ∀ a b, p = .ok b → look a = look b → Agrees s v lax held look' (f a) (q b)) :
    Agrees s v lax held look' (x >>= f) (p >>= q) := by
  refine Holds.bind (fun _ h => h.isRead) hx (fun a ha => ?_) fun e he => ?_
  · obtain ⟨b, rfl, hlook⟩ := alike_of_ok ha
    exact hf a b rfl hlook
  · rcases alike_of_error he with rfl | hlax
    · exact .inl rfl
    · exact .inr ⟨hlax, e, rfl⟩

/-- A part that is told in full. -/
theorem Agrees.bind_same {x : Composing α} {f : α → Composing β} {p : Except Failure α}
    {q : α → Except Failure β} (hx : Agrees s v lax held id x p)
    (hf : ∀ a, Agrees s v lax held look' (f a) (q a)) :
    Agrees s v lax held look' (x >>= f) (p >>= q) := by
  refine hx.bind fun a b _ hab => ?_
  cases hab
  exact hf a

theorem Agrees.map {x : Composing α} {p : Except Failure α} {f : α → β}
    (hx : Agrees s v lax held look x p) (hf : ∀ a b, look a = look b → look' (f a) = look' (f b)) :
    Agrees s v lax held look' (f <$> x) (f <$> p) := by
  have h := hx.bind (q := fun a => .ok (f a)) fun a b _ hab => agrees_pure (hf a b hab)
  rw [← bind_pure_comp]
  exact h

theorem agrees_reference (owner : EntityRef) (field : String) (d : Json.Decoder α) (r : RefText) :
    Agrees s v lax held id (reference owner field d r) (Plain.reference owner field d r) :=
  holds_reference (.inl rfl)

theorem agrees_present {f : β → Composing (Option α)} {g : β → Except Failure (Option α)}
    (h : ∀ b, Agrees s v lax held (Option.map look) (f b) (g b)) (l : List β) :
    Agrees s v lax held (List.map look) (present f l) (Plain.present g l) := by
  induction l with
  | nil => exact agrees_pure rfl
  | cons b l ih =>
      refine (h b).bind fun a a' _ ha => ih.bind fun as as' _ has => agrees_pure ?_
      rw [List.map_append, List.map_append, has]
      congr 1
      cases a <;> cases a' <;> simp_all

/-- The common shape of the builders. -/
theorem agrees_built {key : EntityRef} {pick : Record → Option ρ} {state : ρ → EntityState}
    {fill : ρ → Except Failure α} {find : Action (Option ρ)} {f : Option ρ → Composing (Option α)}
    (hpos : 0 < key.id) (hmakes : find.run.Makes Call.Composes)
    (hfind : (Action.on find s).1 = .ok ((s.find? key).bind pick)) (hnone : f none = pure none)
    (hsome : ∀ r, Agrees s v lax held (Option.map look) (f (some r))
      (if (state r).isEnabled then some <$> fill r else .ok none)) :
    Agrees s v lax held (Option.map look) (ofAction find >>= f)
      (Plain.built s key pick state fill) := by
  refine holds_read (fun _ h => h.isRead) (fun c hc => hmakes.mem_calls c hc) hfind ?_
  unfold Plain.built
  rw [if_neg (by omega)]
  cases (s.find? key).bind pick with
  | none =>
      rw [hnone]
      exact agrees_pure rfl
  | some r =>
      have h := hsome r
      dsimp only
      split at h
      · rename_i he
        rw [if_pos he, ← map_eq_pure_bind]
        exact h
      · rename_i he
        rw [if_neg he]
        exact h

/-- How the configs of one kind stand among all, and what a look leaves of them. -/
structure Wraps (v : Number.View) (wrap : α → Config) (unwrap : Config → Option α) (look : α → α) :
    Prop where
  unwrap_wrap : ∀ a, unwrap (wrap a) = some a
  eq_wrap : ∀ c a, unwrap c = some a → c = wrap a
  renumber : ∀ a, (wrap a).renumber v.see = wrap (look a)

theorem Wraps.look_eq {wrap : α → Config} {unwrap : Config → Option α} {look : α → α}
    (h : Wraps v wrap unwrap look) {a b : α}
    (hsee : (wrap a).renumber v.see = (wrap b).renumber v.see) : look a = look b := by
  rw [h.renumber, h.renumber] at hsee
  have hunwrap := congrArg unwrap hsee
  rw [h.unwrap_wrap, h.unwrap_wrap] at hunwrap
  exact Option.some.inj hunwrap

theorem Wraps.map_map {wrap : α → Config} {unwrap : Config → Option α} {look : α → α}
    (h : Wraps v wrap unwrap look) {a b : Option α} (hlook : a.map look = b.map look) :
    (a.map wrap).map (Config.renumber v.see) = (b.map wrap).map (Config.renumber v.see) := by
  have hwrap : Config.renumber v.see ∘ wrap = wrap ∘ look := funext h.renumber
  rw [Option.map_map, Option.map_map, hwrap, ← Option.map_map, ← Option.map_map, hlook]

section

variable {n : Nat} {wrap : α → Config} {unwrap : Config → Option α} {look : α → α}

/-- A faithful cache answers what looks as the entity is composed to, if it answers. -/
theorem answers_lookup {key : EntityRef} {p : Except Failure (Option α)} {cache : Cache}
    (hs : s.Suits v n) (hlax : 117 < n → lax) (hw : Wraps v wrap unwrap look)
    (hp : Plain.entity s key = Option.map wrap <$> p) (hheld : ¬held key)
    (h : cache.Faithful s v held) :
    Answers (Cache.Faithful s v held) unwrap (Alike lax (Option.map look) · p)
      (cache.lookup key) := by
  cases hfind : cache.slots.find? key with
  | none =>
      rw [lookup_of_none hfind]
      exact h
  | some slot =>
      cases slot with
      | resolving => exact (hheld (h.resolving key hfind)).elim
      | absent =>
          have hnone : Option.map wrap <$> p = .ok none := hp.symm.trans (h.absent key hfind)
          obtain ⟨o, rfl, he⟩ := Json.of_map_eq_ok hnone
          rw [Option.map_eq_none_iff] at he
          subst he
          rw [lookup_of_absent hfind]
          exact ⟨h, alike_ok rfl⟩
      | ready config =>
          obtain ⟨a, ha, hsee⟩ := h.ready_of hp hfind
          have hfits := (Plain.fits_entity hs (hp.trans (by rw [ha]; rfl))).of_see hsee
          rcases Config.copy_cases hfits with ⟨d, hcopy, hd⟩ | ⟨hdeep, e, hcopy⟩
          · rw [lookup_of_ready hfind hcopy, ha]
            refine ⟨h.hit, fun b hb => alike_ok ?_⟩
            rw [hw.eq_wrap d b hb] at hd
            exact congrArg some (hw.look_eq (hd.trans hsee))
          · rw [lookup_of_uncopied hfind hcopy]
            exact .inr ⟨hlax hdeep, _, rfl⟩

theorem agrees_cached {key : EntityRef} {build : Composing (Option α)}
    {p : Except Failure (Option α)} (hs : s.Suits v n) (hlax : 117 < n → lax)
    (hw : Wraps v wrap unwrap look) (hp : Plain.entity s key = Option.map wrap <$> p)
    (hnone : key.id ≤ 0 → p = .ok none) (hheld : ¬held key)
    (hbuild : 0 < key.id → Agrees s v lax (Holding held key) (Option.map look) build p) :
    Agrees s v lax held (Option.map look) (cached key wrap unwrap build) p := by
  refine holds_cached (fun _ h => h.isRead) (fun hid => ?_) (fun cache hf => ?_) fun hpos => ?_
  · rw [hnone hid]
    exact .inl rfl
  · exact answers_lookup hs hlax hw hp hheld hf
  · refine holds_settled (fun c hc => faithful_begin hc) (hbuild hpos) (fun c o hc ho => ?_)
      fun c e hc _ => faithful_abandon hc
    obtain ⟨o', rfl, hlook⟩ := alike_of_ok ho
    cases o with
    | none =>
        cases o' with
        | none => exact faithful_settle_absent hc hp
        | some b => cases hlook
    | some a =>
        cases o' with
        | none => cases hlook
        | some b =>
            refine faithful_settle hc hp ?_
            rw [hw.renumber, hw.renumber]
            exact congrArg wrap (Option.some.inj hlook)

/-- An entity whose builder looks its record up and fills it from kinds that are composed before. -/
theorem agrees_entity {key : EntityRef} {pick : Record → Option ρ} {state : ρ → EntityState}
    {fill : ρ → Except Failure α} {find : Action (Option ρ)} {f : Option ρ → Composing (Option α)}
    (hs : s.Suits v n) (hlax : 117 < n → lax) (hw : Wraps v wrap unwrap look)
    (hp : Plain.entity s key = Option.map wrap <$> Plain.built s key pick state fill)
    (hover : Over key.kind held) (hmakes : find.run.Makes Call.Composes)
    (hfind : (Action.on find s).1 = .ok ((s.find? key).bind pick)) (hnone : f none = pure none)
    (hsome : ∀ held', (∀ k : Kind, k.tier < key.kind.tier → Over k held') → ∀ r,
      Agrees s v lax held' (Option.map look) (f (some r))
        (if (state r).isEnabled then some <$> fill r else .ok none)) :
    Agrees s v lax held (Option.map look) (cached key wrap unwrap (ofAction find >>= f))
      (Plain.built s key pick state fill) := by
  refine agrees_cached hs hlax hw hp (fun hid => ?_) hover.not_held fun hpos => ?_
  · unfold Plain.built
    rw [if_pos hid]
    rfl
  · exact agrees_built hpos hmakes hfind hnone (hsome _ fun _ hk => hover.holding hk)

end

theorem agrees_filled {enabled : Bool} {x : Composing α} {p : Except Failure α}
    (h : Agrees s v lax held look x p) :
    Agrees s v lax held (Option.map look)
      (if enabled = true then do return some (← x) else return none)
      (if enabled = true then some <$> p else .ok none) := by
  split
  · rw [← map_eq_pure_bind]
    exact h.map fun _ _ hab => congrArg some hab
  · exact agrees_pure rfl

/-! ## Kinds -/

theorem wraps_origin : Wraps v .origin Config.origin? id where
  unwrap_wrap _ := rfl
  eq_wrap c a h := by cases c <;> cases h; rfl
  renumber _ := rfl

theorem wraps_cluster : Wraps v .cluster Config.cluster? id where
  unwrap_wrap _ := rfl
  eq_wrap c a h := by cases c <;> cases h; rfl
  renumber _ := rfl

theorem wraps_reverseProxy :
    Wraps v .reverseProxy Config.reverseProxy? (ReverseProxyConfig.renumber v.see) where
  unwrap_wrap _ := rfl
  eq_wrap c a h := by cases c <;> cases h; rfl
  renumber _ := rfl

theorem wraps_serverGroup :
    Wraps v .serverGroup Config.serverGroup? (ServerGroupConfig.renumber v.see) where
  unwrap_wrap _ := rfl
  eq_wrap c a h := by cases c <;> cases h; rfl
  renumber _ := rfl

theorem wraps_server : Wraps v .server Config.server? (ServerConfig.renumber v.see) where
  unwrap_wrap _ := rfl
  eq_wrap c a h := by cases c <;> cases h; rfl
  renumber _ := rfl

theorem wraps_node : Wraps v .node Config.node? (NodeConfig.renumber v.see) where
  unwrap_wrap _ := rfl
  eq_wrap c a h := by cases c <;> cases h; rfl
  renumber _ := rfl

/-- Groups are ranked by their orders alone. -/
theorem map_ranked (f : Json.Number → Json.Number) (groups : List ServerGroupConfig) :
    (ranked groups).map (·.renumber f) = ranked (groups.map (·.renumber f)) :=
  List.map_mergeSort fun _ _ _ _ => rfl

/-! ## Builders -/

variable {n : Nat} (hs : s.Suits v n) (hlax : 117 < n → lax)

include hs hlax

theorem agrees_origin (h : Over .origin held) (i : Int) :
    Agrees s v lax held (Option.map id) (origin i) (Plain.origin s i) := by
  refine agrees_entity hs hlax wraps_origin rfl h makes_find rfl rfl fun held' _ r => ?_
  dsimp only
  split
  · exact agrees_pure rfl
  · exact agrees_pure rfl

theorem agrees_origins (h : Over .origin held) (refs : List OriginRef) :
    Agrees s v lax held id (origins refs) (Plain.origins s refs) := by
  have horigins := agrees_present (fun r : OriginRef => agrees_origin hs hlax h r.originId)
    (refs.filter (·.isOn))
  rw [List.map_id_fun] at horigins
  exact horigins

theorem agrees_reverseProxy (h : Over .reverseProxy held) (i : Int) :
    Agrees s v lax held (Option.map (ReverseProxyConfig.renumber v.see)) (reverseProxy i)
      (Plain.reverseProxy s i) := by
  refine agrees_entity hs hlax wraps_reverseProxy rfl h makes_find rfl rfl fun held' hbelow r => ?_
  have horigin : Over .origin held' := hbelow .origin (by simp [Kind.tier])
  refine agrees_filled ?_
  refine (agrees_reference _ _ _ _).bind_same fun scheduling => ?_
  refine (agrees_reference _ _ _ _).bind_same fun primary => ?_
  refine (agrees_reference _ _ _ _).bind_same fun backup => ?_
  refine (agrees_origins hs hlax horigin _).bind_same fun primaryOrigins => ?_
  refine (agrees_origins hs hlax horigin _).bind_same fun backupOrigins => ?_
  exact agrees_pure rfl

theorem agrees_slot (h : Over .reverseProxy held) (owner : EntityRef) (p : Protocol) (r : RefText) :
    Agrees s v lax held (ProxySlot.renumber v.see) (slot owner p r) (Plain.slot s owner p r) := by
  refine (agrees_reference _ _ _ _).bind_same fun ref => ?_
  cases ref with
  | none => exact agrees_pure rfl
  | some ref =>
      refine (agrees_reverseProxy hs hlax h _).bind fun c d _ hcd => agrees_pure ?_
      exact congrArg (ProxySlot.mk (some ref)) hcd

theorem agrees_slots (h : Over .reverseProxy held) (owner : EntityRef) (r : Protocol → RefText) :
    Agrees s v lax held (ProxySlots.renumber v.see) (slots owner r) (Plain.slots s owner r) := by
  refine (agrees_slot hs hlax h _ _ _).bind fun http http' _ hhttp => ?_
  refine (agrees_slot hs hlax h _ _ _).bind fun tcp tcp' _ htcp => ?_
  refine (agrees_slot hs hlax h _ _ _).bind fun udp udp' _ hudp => agrees_pure ?_
  simp only [ProxySlots.renumber, hhttp, htcp, hudp]

theorem agrees_serverGroup (h : Over .serverGroup held) (i : Int) :
    Agrees s v lax held (Option.map (ServerGroupConfig.renumber v.see)) (serverGroup i)
      (Plain.serverGroup s i) := by
  refine agrees_entity hs hlax wraps_serverGroup rfl h makes_find rfl rfl fun held' hbelow g => ?_
  have hproxy : Over .reverseProxy held' := hbelow .reverseProxy (by simp [Kind.tier])
  refine agrees_filled ?_
  refine (agrees_slots hs hlax hproxy _ _).bind fun a b _ hab => agrees_pure ?_
  simp only [ServerGroupConfig.renumber, hab]

theorem agrees_server (h : Over .server held) (i : Int) :
    Agrees s v lax held (Option.map (ServerConfig.renumber v.see)) (server i)
      (Plain.server s i) := by
  refine agrees_entity hs hlax wraps_server rfl h makes_find rfl rfl fun held' hbelow r => ?_
  have hproxy : Over .reverseProxy held' := hbelow .reverseProxy (by simp [Kind.tier])
  have hgroup : Over .serverGroup held' := hbelow .serverGroup (by simp [Kind.tier])
  refine agrees_filled ?_
  refine (agrees_slots hs hlax hproxy _ _).bind fun proxies proxies' _ hproxies => ?_
  refine (agrees_reference _ _ _ _).bind_same fun groupIds => ?_
  refine (agrees_present (agrees_serverGroup hs hlax hgroup) _).bind fun a b _ hab => agrees_pure ?_
  simp only [ServerConfig.renumber, hproxies, map_ranked, hab]

theorem agrees_cluster (h : Over .cluster held) (i : Int) :
    Agrees s v lax held (Option.map id) (cluster i) (Plain.cluster s i) := by
  refine agrees_entity hs hlax wraps_cluster rfl h makes_find rfl rfl fun held' _ r => ?_
  refine agrees_filled ?_
  refine (agrees_reference _ _ _ _).bind_same fun apiNodes => ?_
  exact (agrees_reference _ _ _ _).bind_same fun _ => agrees_pure rfl

theorem agrees_clusterServers (h : Over .server held) (cluster : Option ClusterConfig) (i : Int) :
    Agrees s v lax held (List.map (ServerConfig.renumber v.see)) (clusterServers cluster i)
      (Plain.clusterServers s cluster i) := by
  unfold clusterServers Plain.clusterServers
  split
  · exact holds_read (fun _ h => h.isRead) (fun c hc => (Action.makes_ask trivial).mem_calls c hc)
      rfl (agrees_present (agrees_server hs hlax h) _)
  · exact agrees_pure rfl

theorem agrees_node (h : Over .node held) (i : Int) :
    Agrees s v lax held (Option.map (NodeConfig.renumber v.see)) (node i) (Plain.node s i) := by
  refine agrees_entity hs hlax wraps_node rfl h makes_find rfl rfl fun held' hbelow r => ?_
  have hcluster : Over .cluster held' := hbelow .cluster (by simp [Kind.tier])
  have hserver : Over .server held' := hbelow .server (by simp [Kind.tier])
  have hsame := agrees_cluster hs hlax hcluster r.clusterId
  rw [Option.map_id] at hsame
  refine agrees_filled ?_
  refine (agrees_reference _ _ _ _).bind_same fun addrs => ?_
  refine hsame.bind_same fun cluster => ?_
  refine (agrees_clusterServers hs hlax hserver _ _).bind fun a b _ hab => agrees_pure ?_
  simp only [NodeConfig.renumber, hab]

/-- Composition with a faithful cache that holds only places of later kinds looks like composition
without one. -/
theorem agrees_over (target : EntityRef) (h : Over target.kind held) :
    Agrees s v lax held (Option.map (Config.renumber v.see)) (entity target)
      (Plain.entity s target) := by
  obtain ⟨kind, i⟩ := target
  cases kind with
  | cluster => exact (agrees_cluster hs hlax h i).map fun _ _ => wraps_cluster.map_map
  | node => exact (agrees_node hs hlax h i).map fun _ _ => wraps_node.map_map
  | server => exact (agrees_server hs hlax h i).map fun _ _ => wraps_server.map_map
  | serverGroup =>
      exact (agrees_serverGroup hs hlax h i).map fun _ _ => wraps_serverGroup.map_map
  | reverseProxy =>
      exact (agrees_reverseProxy hs hlax h i).map fun _ _ => wraps_reverseProxy.map_map
  | origin => exact (agrees_origin hs hlax h i).map fun _ _ => wraps_origin.map_map

/-- Composition with a faithful cache looks like composition without one. -/
theorem agrees_any (h : ∀ k, Over k held) (target : EntityRef) :
    Agrees s v lax held (Option.map (Config.renumber v.see)) (entity target)
      (Plain.entity s target) := agrees_over hs hlax target (h _)

end Composing

/-! ## A cache of its own -/

theorem faithful_empty {v : Json.Number.View} (s : Store) :
    Cache.empty.Faithful s v fun _ => False where
  absent _ h := nomatch h
  ready _ _ h := nomatch h
  resolving _ h := nomatch h
  cycles := rfl

theorem on_compose (target : EntityRef) (cache : Cache) (s : Store) :
    Composing.on (compose target) cache s = Composing.on (Composing.entity target) cache s :=
  (Program.run_bind Store.host ((Composing.entity target).run.run cache) _ s).trans rfl

theorem on_composeFresh (target : EntityRef) (s : Store) :
    (Action.on (composeFresh target) s).1
      = (Composing.on (Composing.entity target) .empty s).1.1 := by
  rw [← on_compose]
  unfold composeFresh Action.on
  exact congrArg Prod.fst (Program.run_bind Store.host ((compose target).run.run .empty) _ s)

theorem composeFresh_alike {s : Store} {v : Json.Number.View} {n : Nat} {lax : Prop}
    (hs : s.Suits v n) (hlax : 117 < n → lax) (target : EntityRef) :
    Composing.Alike lax (Option.map (Config.renumber v.see))
      (Action.on (composeFresh target) s).1 (Plain.entity s target) := by
  have hnone : ∀ k, Cache.Over k fun _ => False := fun _ _ hx => False.elim hx
  rw [on_composeFresh]
  exact (Composing.agrees_any hs hlax hnone target .empty (faithful_empty s)).2.2

end Fleet
