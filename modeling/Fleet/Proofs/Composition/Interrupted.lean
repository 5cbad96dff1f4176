import Fleet.Proofs.Composition.Again
import Fleet.Proofs.Composition.Once
import Fleet.Proofs.Mutation.Rejected

/-!
# Compositions that fail

Any read of a composition may fail, and then the composition fails. Every entity that was being composed
at that moment gives up its place in the cache, and nothing else in the cache changes: what was composed
before is still what the store says. So the cache can be composed with again.
-/

namespace Fleet

theorem Plain.kind_of_entity {s : Store} {target : EntityRef} {c : Config}
    (h : Plain.entity s target = .ok (some c)) : c.kind = target.kind := by
  unfold Plain.entity at h
  split at h
  all_goals
    rename_i hkind
    obtain ⟨o, -, he⟩ := Json.of_map_eq_ok h
    obtain ⟨a, -, rfl⟩ := Option.map_eq_some_iff.1 he
    exact hkind.symm

/-- Every place of the cache is one of the other. -/
def Cache.Within (cache cache' : Cache) : Prop :=
  ∀ x slot, cache.slots.find? x = some slot → cache'.slots.find? x = some slot

theorem Cache.Within.refl (cache : Cache) : cache.Within cache := fun _ _ h => h

theorem Cache.Within.trans {cache mid cache' : Cache} (h : cache.Within mid) (h' : mid.Within cache') :
    cache.Within cache' := fun x slot hx => h' x slot (h x slot hx)

/-- A place that was free before it was held may be filled or given up again. -/
theorem Cache.Within.of_begin {key : EntityRef} {cache mid cache' : Cache}
    (h : (cache.begin key).Within mid) (hmiss : cache.slots.find? key = none)
    (hsame : ∀ x, x ≠ key → cache'.slots.find? x = mid.slots.find? x) : cache.Within cache' := by
  intro x slot hx
  have hne : x ≠ key := by
    rintro rfl
    rw [hmiss] at hx
    cases hx
  rw [hsame x hne]
  apply h
  rw [Cache.begin, find?_put, if_neg hne, hx]

namespace Composing

open Cache

variable {α β ρ : Type} {s : Store}

/-- The composition ends in the failure while it builds the entities of the list, each of them on behalf
of the one before it. -/
inductive Aborts (s : Store) :
    {α : Type} → Composing α → Cache → List EntityRef → Failure → Cache → Prop where
  /-- A reference does not decode. -/
  | outcome {α : Type} {cache : Cache} {e : Failure} :
      Aborts s (ExceptT.mk (pure (.error e)) : Composing α) cache [] e cache
  /-- A read fails. -/
  | read {α : Type} {a : Action α} {cache : Cache} {e : Failure}
      (h : a.run.Hampered s (.error e) s) : Aborts s (ofAction a) cache [] e cache
  | first {α β : Type} {x : Composing α} {f : α → Composing β} {cache cache' : Cache}
      {building : List EntityRef} {e : Failure} (h : Aborts s x cache building e cache') :
      Aborts s (x >>= f) cache building e cache'
  | later {α β : Type} {x : Composing α} {f : α → Composing β} {cache mid cache' : Cache}
      {building : List EntityRef} {e : Failure} {a : α} (hx : on x cache s = ((.ok a, mid), s))
      (h : Aborts s (f a) mid building e cache') : Aborts s (x >>= f) cache building e cache'
  | entity {α : Type} {key : EntityRef} {wrap : α → Config} {unwrap : Config → Option α}
      {build : Composing (Option α)} {cache cache' : Cache} {building : List EntityRef} {e : Failure}
      (hpos : 0 < key.id) (hmiss : cache.slots.find? key = none)
      (h : Aborts s build (cache.begin key) building e cache') :
      Aborts s (cached key wrap unwrap build) cache (key :: building) e (cache'.abandon key)

/-- What was being built has no place any more. -/
theorem Aborts.find?_eq_none {x : Composing α} {cache cache' : Cache} {building : List EntityRef}
    {e : Failure} (h : Aborts s x cache building e cache') :
    ∀ y ∈ building, cache'.slots.find? y = none := by
  induction h with
  | outcome | read _ => exact fun _ hy => (List.not_mem_nil hy).elim
  | first _ ih | later _ _ ih => exact ih
  | entity _ _ _ ih =>
      intro y hy
      rw [find?_abandon]
      split
      · rfl
      · rename_i hne
        exact ih y ((List.mem_cons.mp hy).resolve_left hne)

/-- How a composition came to its end, in a run in which calls may fail; a failure comes about while the
entities of `own` are built. -/
def Came (s : Store) (own : List EntityRef) (x : Composing α) (cache : Cache) :
    Except Failure α → Cache → Prop
  | .ok a, cache' => on x cache s = ((.ok a, cache'), s)
  | .error e, cache' => ∃ building, Aborts s x cache (own ++ building) e cache'

/-- What a run in which calls may fail leaves behind. -/
structure Leaves (s : Store) (v : Json.Number.View) (held : EntityRef → Prop) (own : List EntityRef)
    (x : Composing α) (cache : Cache) (r : Except Failure α) (cache' : Cache) (t : Store) : Prop where
  store : t = s
  faithful : cache'.Faithful s v held
  within : cache.Within cache'
  came : Came s own x cache r cache'

/-- Wherever calls fail, a run from a faithful cache leaves such a cache behind. -/
def Withstands (s : Store) (v : Json.Number.View) (held : EntityRef → Prop) (own : List EntityRef)
    (x : Composing α) : Prop :=
  ∀ cache : Cache, cache.Faithful s v held → ∀ r cache' t,
    (x.run.run cache).Hampered s (r, cache') t → Leaves s v held own x cache r cache' t

variable {v : Json.Number.View} {held : EntityRef → Prop} {own : List EntityRef}

theorem Withstands.of_own {x : Composing α} (h : Withstands s v held own x) :
    Withstands s v held [] x := by
  intro cache hfaithful r cache' t hrun
  obtain ⟨hstore, hfaithful', hwithin, hcame⟩ := h cache hfaithful r cache' t hrun
  refine ⟨hstore, hfaithful', hwithin, ?_⟩
  cases r with
  | ok a => exact hcame
  | error e =>
      obtain ⟨building, haborts⟩ := hcame
      exact ⟨own ++ building, haborts⟩

theorem withstands_outcome (r : Except Failure α) : Withstands s v held [] (ExceptT.mk (pure r)) := by
  intro cache hfaithful r' cache' t h
  cases h with
  | done =>
      refine ⟨rfl, hfaithful, .refl _, ?_⟩
      cases r with
      | ok a => rfl
      | error e => exact ⟨[], .outcome⟩

theorem withstands_pure (a : α) : Withstands s v held own (pure a) := by
  intro cache hfaithful r cache' t h
  cases h with
  | done => exact ⟨rfl, hfaithful, .refl _, rfl⟩

/-- A read that the store answers, if it does not fail; a part of the answer is taken. -/
theorem withstands_ask {c : Call} {x : c.Answer} (hc : s.answer c = (.ok x, s)) (g : c.Answer → α) :
    Withstands s v held [] (ofAction (g <$> Action.ask c)) := by
  intro cache hfaithful r cache' t h
  have hon : on (ofAction (g <$> Action.ask c)) cache s = ((.ok (g x), cache), s) := by
    change ((ofAction (g <$> Action.ask c)).run.run cache).run Store.host s = _
    rw [run_ofAction_map_ask]
    simp only [Program.run, Store.host, hc]
  rw [run_ofAction_map_ask] at h
  cases h with
  | answered h =>
      rw [hc] at h
      cases h with
      | done => exact ⟨rfl, hfaithful, .refl _, hon⟩
  | failed h =>
      cases h with
      | done => exact ⟨rfl, hfaithful, .refl _, [], .read (.failed .done)⟩

theorem withstands_servers (cluster : Int) :
    Withstands s v held [] (ofAction (Action.ask (.enabledServers cluster))) := by
  have hanswer : s.answer (.enabledServers cluster) = (.ok (s.enabledServers cluster), s) := rfl
  rw [← id_map (Action.ask (.enabledServers cluster))]
  exact withstands_ask hanswer id

theorem withstands_found (key : EntityRef) (pick : Record → Option ρ) :
    Withstands s v held [] (ofAction (found key pick)) := by
  have hfound : found key pick = (Option.bind · pick) <$> Action.ask (.find key) :=
    (map_eq_pure_bind _ _).symm
  have hanswer : s.answer (.find key) = (.ok (s.find? key), s) := rfl
  rw [hfound]
  exact withstands_ask hanswer _

theorem Withstands.bind {x : Composing α} {f : α → Composing β} (hx : Withstands s v held own x)
    (hf : ∀ a, Withstands s v held own (f a)) : Withstands s v held own (x >>= f) := by
  intro cache hfaithful r cache' t h
  rw [ExceptT.run_bind, StateT.run_bind] at h
  obtain ⟨⟨r₁, mid⟩, u, hfirst, hrest⟩ := h.of_bind
  obtain ⟨rfl, hmid, hwithin, hcame⟩ := hx cache hfaithful r₁ mid u hfirst
  cases r₁ with
  | ok a =>
      obtain ⟨rfl, hfaithful', hwithin', hcame'⟩ := hf a mid hmid r cache' t hrest
      refine ⟨rfl, hfaithful', hwithin.trans hwithin', ?_⟩
      cases r with
      | ok b =>
          change on (x >>= f) cache _ = _
          rw [on_bind, hcame]
          exact hcame'
      | error e =>
          obtain ⟨building, haborts⟩ := hcame'
          exact ⟨building, .later hcame haborts⟩
  | error e =>
      cases hrest with
      | done =>
          obtain ⟨building, haborts⟩ := hcame
          exact ⟨rfl, hmid, hwithin, building, .first haborts⟩

theorem Withstands.map {x : Composing α} {f : α → β} (hx : Withstands s v held own x) :
    Withstands s v held own (f <$> x) := by
  rw [← bind_pure_comp]
  exact hx.bind fun a => withstands_pure (f a)

theorem Alike.map_eq {look : α → β} {r p : Except Failure α} (h : Alike False look r p) :
    r.map look = p.map look := h.resolve_right fun h => h.1

section

variable {n : Nat} {key : EntityRef} {wrap : α → Config} {unwrap : Config → Option α}

/-- After the composition of an entity the cache is faithful, if no call fails. -/
theorem faithful_of_on_cached {build : Composing (Option α)} (hs : s.Suits v n) (hn : ¬117 < n)
    (entry : Entry key wrap unwrap build) (hover : Over key.kind held) {cache cache' : Cache}
    {r : Except Failure (Option α)} {t : Store} (hfaithful : cache.Faithful s v held)
    (hon : on (cached key wrap unwrap build) cache s = ((r, cache'), t)) :
    cache'.Faithful s v held := by
  have hlax : 117 < n → False := hn
  have hagrees := (agrees_over hs hlax key hover cache hfaithful).2.1
  rw [entry.entity_eq, on_map, hon] at hagrees
  exact hagrees

/-- A config that the cache keeps is handed out, as one of the kind of its entity. -/
theorem exists_lookup_of_ready {build : Composing (Option α)} (hs : s.Suits v n) (hn : ¬117 < n)
    (entry : Entry key wrap unwrap build) {cache : Cache} {config : Config}
    (hfaithful : cache.Faithful s v held) (hfind : cache.slots.find? key = some (.ready config)) :
    ∃ copy a, cache.lookup key = .ok (.hit copy, { cache with hits := cache.hits + 1 }) ∧
      unwrap copy = some a := by
  obtain ⟨plain, hplain, hsee⟩ := hfaithful.ready key config hfind
  have hkind : config.kind = key.kind := by
    rw [← Config.kind_renumber v.see, hsee, Config.kind_renumber, Plain.kind_of_entity hplain]
  have hfits := (Plain.fits_entity hs hplain).of_see hsee
  rcases Config.copy_cases hfits with ⟨copy, hcopy, -⟩ | ⟨hdeep, -⟩
  · obtain ⟨a, ha⟩ := entry.exists_unwrap copy ((Config.kind_of_copy hcopy).trans hkind)
    exact ⟨copy, a, lookup_of_ready hfind hcopy, ha⟩
  · exact absurd hdeep hn

/-- An entity that is not in the cache is built, and gives up its place if it fails. -/
theorem leaves_settled {build : Composing (Option α)} (hs : s.Suits v n) (hn : ¬117 < n)
    (entry : Entry key wrap unwrap build) (hover : Over key.kind held) (hpos : 0 < key.id)
    (hbuild : Withstands s v (Holding held key) [] build) {cache : Cache}
    (hfaithful : cache.Faithful s v held) (hmiss : cache.slots.find? key = none)
    {r : Except Failure (Option α)} {cache' : Cache} {t : Store}
    (h : ((settled key wrap build).run.run cache).Hampered s (r, cache') t) :
    Leaves s v held [key] (cached key wrap unwrap build) cache r cache' t := by
  obtain ⟨⟨r₁, mid⟩, u, hbuilt, hrest⟩ := Program.Hampered.of_bind h
  obtain ⟨rfl, hmid, hwithin, hcame⟩ := hbuild _ (faithful_begin hfaithful) r₁ mid u hbuilt
  cases r₁ with
  | ok a =>
      cases hrest with
      | done =>
          have hon : on (cached key wrap unwrap build) cache t
              = ((.ok a, mid.settle key (a.map wrap)), t) := by
            have hlook : cache.lookup key = .ok (.miss, cache) := by rw [Cache.lookup, hmiss]
            rw [on_cached hpos, hlook]
            dsimp only
            rw [on_settled, hcame]
          have hfaithful' := faithful_of_on_cached hs hn entry hover hfaithful hon
          refine ⟨rfl, hfaithful', hwithin.of_begin hmiss fun y hne => ?_, hon⟩
          cases a <;> rw [Option.map, Cache.settle, find?_put, if_neg hne]
  | error e =>
      cases hrest with
      | done =>
          obtain ⟨building, haborts⟩ := hcame
          refine ⟨rfl, faithful_abandon hmid, hwithin.of_begin hmiss fun y hne => ?_, building,
            .entity hpos hmiss haborts⟩
          rw [find?_abandon, if_neg hne]

theorem withstands_entity {build : Composing (Option α)} (hs : s.Suits v n) (hn : ¬117 < n)
    (entry : Entry key wrap unwrap build) (hover : Over key.kind held)
    (hbuild : Withstands s v (Holding held key) [] build) :
    Withstands s v held [key] (cached key wrap unwrap build) := by
  intro cache hfaithful r cache' t h
  by_cases hpos : 0 < key.id
  · rw [run_cached hpos] at h
    cases hfind : cache.slots.find? key with
    | none =>
        rw [lookup_of_none hfind] at h
        exact leaves_settled hs hn entry hover hpos hbuild hfaithful hfind h
    | some slot =>
        cases slot with
        | resolving => exact absurd (hfaithful.resolving key hfind) hover.not_held
        | absent =>
            have hlook := lookup_of_absent hfind
            rw [hlook] at h
            cases h with
            | done =>
                refine ⟨rfl, hfaithful, .refl _, ?_⟩
                change on (cached key wrap unwrap build) cache _ = _
                rw [on_cached hpos, hlook]
        | ready config =>
            obtain ⟨copy, a, hlook, ha⟩ := exists_lookup_of_ready hs hn entry hfaithful hfind
            rw [hlook] at h
            simp only [ha] at h
            cases h with
            | note h =>
                cases h with
                | done =>
                    refine ⟨rfl, hfaithful.hit, .refl _, ?_⟩
                    change on (cached key wrap unwrap build) cache _ = _
                    rw [on_cached hpos, hlook]
                    simp only [ha]
  · rw [run_cached_of_not_pos hpos] at h
    cases h with
    | done => exact ⟨rfl, hfaithful, .refl _, on_cached_of_not_pos hpos⟩

end

/-- The places that are held during a part of a composition are those of entities of its tier or
above. -/
theorem Below.withstands {n t : Nat} {x : Composing α} (h : Below t x) (hs : s.Suits v n)
    (hn : ¬117 < n) (hheld : ∀ y, held y → t ≤ y.kind.tier) : Withstands s v held [] x := by
  induction h generalizing held with
  | outcome r => exact withstands_outcome r
  | servers cluster => exact withstands_servers cluster
  | bind _ _ hx hf => exact (hx hheld).bind fun a => hf a hheld
  | @entity t _ _ key _ _ pick _ entry ht _ hf =>
      have hover : Over key.kind held := fun y hy => Nat.lt_of_lt_of_le ht (hheld y hy)
      have hbelow : ∀ y, Holding held key y → key.kind.tier ≤ y.kind.tier := by
        rintro y (hy | rfl)
        · exact Nat.le_of_lt (hover y hy)
        · exact Nat.le_refl _
      have hbuild := (withstands_found key pick).bind fun r => hf r hbelow
      exact (withstands_entity hs hn entry hover hbuild).of_own

/-- An entity that is composed on nobody's behalf. -/
theorem withstands_any {n : Nat} (hs : s.Suits v n) (hn : ¬117 < n) (target : EntityRef) :
    Withstands s v (fun _ => False) [target] (entity target) := by
  obtain ⟨_, _, _, _, hrooted⟩ := exists_rooted target
  rw [hrooted.entry.entity_eq]
  obtain ⟨entry, _, pick, f, rfl, hf⟩ := hrooted
  have hheld : ∀ y, Holding (fun _ => False) target y → target.kind.tier ≤ y.kind.tier := by
    rintro y (hy | rfl)
    · exact hy.elim
    · exact Nat.le_refl _
  have hbuild := (withstands_found target pick).bind fun r => (hf r).withstands hs hn hheld
  exact (withstands_entity hs hn entry (fun _ hy => hy.elim) hbuild).map

end Composing

/-! ## Caches that calls have used -/

/-- The caches that compositions leave behind, wherever their calls fail. -/
inductive Cache.Grown (s : Store) : Cache → Prop where
  | empty : Grown s .empty
  | compose {cache cache' : Cache} {target : EntityRef} {r : Except Failure (Option Config)} {t : Store}
      (h : Grown s cache) (hrun : ((compose target).run.run cache).Hampered s (r, cache') t) :
      Grown s cache'

theorem hampered_entity {s t : Store} {target : EntityRef} {cache cache' : Cache}
    {r : Except Failure (Option Config)}
    (h : ((compose target).run.run cache).Hampered s (r, cache') t) :
    ((Composing.entity target).run.run cache).Hampered s (r, cache') t := by
  obtain ⟨⟨r', mid⟩, u, hentity, hrest⟩ := Program.Hampered.of_bind h
  cases hrest with
  | note hrest =>
      cases hrest with
      | note hrest =>
          cases hrest with
          | done => exact hentity

/-- What a call leaves behind in a cache that calls have used, where no options nest too deep. -/
theorem leaves_compose {s : Store} {v : Json.Number.View} {n : Nat} (hs : s.Suits v n) (hn : ¬117 < n)
    {cache cache' : Cache} (hfaithful : cache.Faithful s v fun _ => False) {target : EntityRef}
    {r : Except Failure (Option Config)} {t : Store}
    (h : ((compose target).run.run cache).Hampered s (r, cache') t) :
    Composing.Leaves s v (fun _ => False) [target] (Composing.entity target) cache r cache' t :=
  Composing.withstands_any hs hn target cache hfaithful r cache' t (hampered_entity h)

theorem Cache.Grown.faithful {s : Store} {v : Json.Number.View} {n : Nat} (hs : s.Suits v n)
    (hn : ¬117 < n) {cache : Cache} (h : cache.Grown s) : cache.Faithful s v fun _ => False := by
  induction h with
  | empty => exact faithful_empty s
  | compose _ hrun ih => exact (leaves_compose hs hn ih hrun).faithful

/-- The place says what a composition with a cache of its own comes to, as far as a look at numbers
tells; a place that is held says nothing. -/
def CacheSlot.Tells (v : Json.Number.View) (fresh : Except Failure (Option Config)) : CacheSlot → Prop
  | .resolving => False
  | .absent => fresh = .ok none
  | .ready c => ∃ d, fresh = .ok (some d) ∧ c.renumber v.see = d.renumber v.see

section

variable {s : Store} {v : Json.Number.View} {n : Nat} {cache : Cache}

theorem composeFresh_map_eq (hs : s.Suits v n) (hn : ¬117 < n) (x : EntityRef) :
    (Action.on (composeFresh x) s).1.map (Option.map (Config.renumber v.see))
      = (Plain.entity s x).map (Option.map (Config.renumber v.see)) :=
  (composeFresh_alike hs hn x).map_eq

theorem Cache.Faithful.tells (hs : s.Suits v n) (hn : ¬117 < n)
    (h : cache.Faithful s v fun _ => False) {x : EntityRef} {slot : CacheSlot}
    (hfind : cache.slots.find? x = some slot) : slot.Tells v (Action.on (composeFresh x) s).1 := by
  have hfresh := composeFresh_map_eq hs hn x
  cases slot with
  | resolving => exact h.resolving x hfind
  | absent =>
      rw [h.absent x hfind] at hfresh
      obtain ⟨o, ho, hnone⟩ := Json.of_map_eq_ok hfresh
      rwa [Option.map_eq_none_iff.1 hnone] at ho
  | ready c =>
      obtain ⟨plain, hplain, hsee⟩ := h.ready x c hfind
      rw [hplain] at hfresh
      obtain ⟨o, ho, hsome⟩ := Json.of_map_eq_ok hfresh
      obtain ⟨d, rfl, hd⟩ := Option.map_eq_some_iff.1 hsome
      exact ⟨d, ho, hsee.trans hd.symm⟩

/-- With a cache that is faithful, entities are composed as with a cache of their own. -/
theorem Cache.Faithful.compose (hs : s.Suits v n) (hn : ¬117 < n)
    (h : cache.Faithful s v fun _ => False) (x : EntityRef) :
    (Composing.on (compose x) cache s).1.1.map (Option.map (Config.renumber v.see))
      = (Action.on (composeFresh x) s).1.map (Option.map (Config.renumber v.see)) := by
  have hagrees := (Composing.agrees_over hs hn x (fun _ hy => hy.elim) cache h).2.2
  rw [composeFresh_map_eq hs hn, on_compose]
  exact hagrees.map_eq

end

/-- Whatever reads fail, and whichever calls used the cache before: a call that fails leaves no place
held, takes away those of the entities that it was building, and leaves every other entry as it was or as
a composition with a cache of its own would give it, so that every entity is composed with the cache as
it is with a fresh one. All this as far as a look at the numbers in scheduling options tells, to which
they are fair. -/
theorem cache_usable_of_failed {s : Store} {v : Json.Number.View} (hwidths : s.InWidths)
    (hdepth : ∀ x r o, s.find? x = some (.reverseProxy r) →
      r.scheduling.decode Scheduling.decoder = .ok (some o) → Json.depthMembers o.options < 100)
    (hfair : ∀ x r, s.find? x = some r → r.SchedulesFairly v) {cache cache' : Cache}
    (hgrown : cache.Grown s) {target : EntityRef} {e : Failure} {t : Store}
    (hfailed : ((compose target).run.run cache).Hampered s (.error e, cache') t) :
    (∃ building,
      Composing.Aborts s (Composing.entity target) cache (target :: building) e cache') ∧
    (∀ building e', Composing.Aborts s (Composing.entity target) cache building e' cache' →
      ∀ x ∈ building, cache'.slots.find? x = none) ∧
    cache.Within cache' ∧
    (∀ x slot, cache'.slots.find? x = some slot → slot.Tells v (Action.on (composeFresh x) s).1) ∧
    ∀ x, (Composing.on (compose x) cache' s).1.1.map (Option.map (Config.renumber v.see))
      = (Action.on (composeFresh x) s).1.map (Option.map (Config.renumber v.see)) := by
  have hs : s.Suits v 99 := by
    refine ⟨hwidths, fun x r hr => ?_⟩
    have hrecord := hfair x r hr
    cases r with
    | reverseProxy r => exact fun o ho => ⟨Nat.le_of_lt_succ (hdepth x r o hr ho), hrecord o ho⟩
    | _ => trivial
  have hn : ¬117 < 99 := by decide
  obtain ⟨-, hfaithful, hwithin, hcame⟩ := leaves_compose hs hn (hgrown.faithful hs hn) hfailed
  exact ⟨hcame, fun _ _ haborts => haborts.find?_eq_none, hwithin,
    fun _ _ hfind => hfaithful.tells hs hn hfind, hfaithful.compose hs hn⟩

/-! ## A server with a group that cannot be read -/

def Store.withProxy (scheduling : RefText) : Store :=
  (Store.empty.answer (.save (.reverseProxy { id := 2, scheduling }))).2

/-- A server with a proxy and a group, of which there is no record. -/
def Store.serving (scheduling : RefText) : Store :=
  ((Store.withProxy scheduling).answer (.save (.server
    { id := 5, httpReverseProxy := ⟨"\x7b\"reverseProxyId\":2\x7d"⟩, groupIds := ⟨"[7]"⟩ }))).2

/-- The first composition of the server, while no group can be read. -/
def Store.groupless (s : Store) : Except Failure (Option Config) × Cache :=
  (((compose ⟨.server, 5⟩).run.run .empty).run FaultyStore.host
    { store := s, faults := { methods := [(.find .serverGroup, .unavailable "down")] } }).1

theorem Store.reachable_serving (scheduling : RefText) : (Store.serving scheduling).Reachable :=
  .call _ (.call _ .empty)

theorem Store.values_serving (scheduling : RefText) :
    (Store.serving scheduling).records.values
      = [.server { id := 5, httpReverseProxy := ⟨"\x7b\"reverseProxyId\":2\x7d"⟩, groupIds := ⟨"[7]"⟩ },
        .reverseProxy { id := 2, scheduling }] := rfl

theorem Store.inWidths_serving (scheduling : RefText) : (Store.serving scheduling).InWidths := by
  constructor
  rw [forall_find?_iff, values_serving]
  simp [Record.Fits, Text.fitsInt64, Text.minInt64, Text.maxInt64]

theorem Store.scheduling_of_serving {scheduling : RefText} {x : EntityRef} {r : ReverseProxy}
    (h : (Store.serving scheduling).find? x = some (.reverseProxy r)) : r.scheduling = scheduling := by
  have hall : ∀ x record, (Store.serving scheduling).find? x = some record →
      ∀ r, record = .reverseProxy r → r.scheduling = scheduling := by
    rw [forall_find?_iff, values_serving]
    simp
  exact hall x _ h r rfl

theorem Store.hampered_groupless {s : Store} {e : Failure} (h : s.groupless.1 = .error e) :
    ∃ t, ((compose ⟨.server, 5⟩).run.run .empty).Hampered s (.error e, s.groupless.2) t := by
  have hrun : s.groupless = (.error e, s.groupless.2) := Prod.ext h rfl
  have hhampered := Program.hampered_of_faulty ((compose ⟨.server, 5⟩).run.run .empty)
    { store := s, faults := { methods := [(.find .serverGroup, .unavailable "down")] } }
  change Program.Hampered _ s s.groupless _ at hhampered
  rw [hrun] at hhampered
  exact ⟨_, hhampered⟩

def RefText.weighted : RefText := ⟨"\x7b\"code\":\"hash\",\"options\":\x7b\"weights\":[0.5,1]\x7d\x7d"⟩

theorem RefText.decode_weighted :
    RefText.weighted.decode Scheduling.decoder = .ok (some .weighted) := by decide +kernel

/-- The proxy stays in the cache; with groups that can be read, the server is composed with it. -/
theorem cache_usable_of_groupless :
    (Store.serving .weighted).InWidths ∧
      (∀ x r o, (Store.serving .weighted).find? x = some (.reverseProxy r) →
        r.scheduling.decode Scheduling.decoder = .ok (some o) → Json.depthMembers o.options < 100) ∧
      (∀ x r, (Store.serving .weighted).find? x = some r → r.SchedulesFairly .exact) ∧
      Cache.Grown (.serving .weighted) .empty ∧
      (∃ t, ((compose ⟨.server, 5⟩).run.run .empty).Hampered (.serving .weighted)
        (.error (.store (.unavailable "down")), (Store.serving .weighted).groupless.2) t) ∧
      (Store.serving .weighted).groupless.2.slots.find? ⟨.server, 5⟩ = none ∧
      ∀ x, (Composing.on (compose x) (Store.serving .weighted).groupless.2 (.serving .weighted)).1.1
        = (Action.on (composeFresh x) (.serving .weighted)).1 := by
  have hwidths := Store.inWidths_serving .weighted
  have hdepth : ∀ x r o, (Store.serving .weighted).find? x = some (.reverseProxy r) →
      r.scheduling.decode Scheduling.decoder = .ok (some o) → Json.depthMembers o.options < 100 := by
    intro x r o hr ho
    rw [Store.scheduling_of_serving hr, RefText.decode_weighted] at ho
    cases ho
    decide
  have hfair : ∀ x r, (Store.serving .weighted).find? x = some r → r.SchedulesFairly .exact := by
    intro x r hr
    cases r with
    | reverseProxy r =>
        intro o ho
        rw [Store.scheduling_of_serving hr, RefText.decode_weighted] at ho
        cases ho
        exact Scheduling.fits_weighted.fair
    | _ => trivial
  have hfailed := Store.hampered_groupless (s := .serving .weighted)
    (e := .store (.unavailable "down")) (by decide +kernel)
  obtain ⟨t, hrun⟩ := hfailed
  obtain ⟨⟨building, haborts⟩, hnone, -, -, hcompose⟩ :=
    cache_usable_of_failed hwidths hdepth hfair .empty hrun
  refine ⟨hwidths, hdepth, hfair, .empty, ⟨t, hrun⟩, ?_, fun x => ?_⟩
  · exact hnone _ _ haborts _ List.mem_cons_self
  · exact Composing.Alike.eq (.inl (hcompose x))

/-- Floating point that is read as one number, written, and read as another one. -/
def RefText.drifting : RefText := ⟨"\x7b\"code\":\"\",\"options\":\x7b\"a\":5e32\x7d\x7d"⟩

theorem RefText.decode_drifting : RefText.drifting.decode Scheduling.decoder
    = .ok (some ⟨"", [("a", .number (.float ⟨false, ⟨6938893903907229, 56⟩⟩))]⟩) := by decide +kernel

/-- The number in the options of the proxy that stayed in the cache is not the one that is composed with
a fresh cache. -/
theorem composed_after_failure_drifting :
    (Store.serving .drifting).Reachable ∧
      (Store.serving .drifting).InWidths ∧
      (∀ x r o, (Store.serving .drifting).find? x = some (.reverseProxy r) →
        r.scheduling.decode Scheduling.decoder = .ok (some o) → Json.depthMembers o.options < 100) ∧
      (∃ t, ((compose ⟨.server, 5⟩).run.run .empty).Hampered (.serving .drifting)
        (.error (.store (.unavailable "down")), (Store.serving .drifting).groupless.2) t) ∧
      (Composing.on (compose ⟨.server, 5⟩) (Store.serving .drifting).groupless.2
          (.serving .drifting)).1.1
        ≠ (Action.on (composeFresh ⟨.server, 5⟩) (.serving .drifting)).1 := by
  refine ⟨Store.reachable_serving _, Store.inWidths_serving _, fun x r o hr ho => ?_,
    Store.hampered_groupless (by decide +kernel), by decide +kernel⟩
  rw [Store.scheduling_of_serving hr, RefText.decode_drifting] at ho
  cases ho
  decide

end Fleet
