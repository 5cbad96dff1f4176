import Fleet.Proofs.Composition.Transparent
import Fleet.Proofs.Mutation.Basic
import Fleet.Proofs.Record.Stored

/-!
# One entity composed again

What was composed stays in the cache, and every further composition of the same entity is answered by a
copy of it. The copy goes through the wire form, which nests deeper than the stored references that the
config was composed from: a config that was composed need not be one that can be handed out again.
-/

namespace Fleet

open Json

/-- A config that is read as it was written is its own copy, unless it nests too deep to have one. -/
theorem Config.copy_exact {c : Config} {n : Nat} (h : c.Fits .exact n) :
    c.toJson.depth ≤ 127 ∧ c.copy = .ok c ∨ ¬c.toJson.depth ≤ 127 ∧ ∃ e, c.copy = .error e := by
  have hreread : c.renumber Number.reread = c := by simpa [Number.View.exact] using see_reread h
  have hcopy := copy_yields h
  rw [hreread] at hcopy
  exact hcopy.cases_eq

/-- How an entity is composed whose config the cache keeps. -/
def Config.again (target : EntityRef) (c : Config) : Except Failure (Option Config) :=
  if c.toJson.depth ≤ 127 then .ok (some c) else .error (.undecodable target "cached config")

namespace Composing

variable {α β : Type} {s : Store} {key target : EntityRef} {wrap : α → Config}
  {unwrap : Config → Option α} {build : Composing (Option α)} {cache : Cache} {c : Config}

theorem on_map (x : Composing α) (f : α → β) (cache : Cache) (s : Store) :
    on (f <$> x) cache s = ((f <$> (on x cache s).1.1, (on x cache s).1.2), (on x cache s).2) := by
  rw [← bind_pure_comp, on_bind]
  rcases on x cache s with ⟨⟨_ | _, _⟩, _⟩ <;> rfl

/-- An entity of a positive id is what the cache answers, or is built where it answers nothing. -/
theorem on_cached (hpos : 0 < key.id) :
    on (cached key wrap unwrap build) cache s
      = match cache.lookup key with
        | .error e => ((.error e, cache), s)
        | .ok (.absent, cache) => ((.ok none, cache), s)
        | .ok (.miss, cache) => on (settled key wrap build) cache s
        | .ok (.hit config, cache) =>
          match unwrap config with
          | some a => ((.ok (some a), cache), s)
          | none => on (settled key wrap build) cache s := by
  have hlook := on_lookup key cache s
  have hstore := on_lookup_store key cache s
  unfold cached
  rw [if_neg (by omega), on_bind]
  generalize on (lookup key) cache s = o at hlook hstore ⊢
  obtain ⟨⟨r, cache'⟩, s'⟩ := o
  subst hstore
  generalize cache.lookup key = l at hlook ⊢
  rcases l with e | ⟨_ | _ | config, cache''⟩ <;> cases hlook
  · rfl
  · rfl
  · rfl
  · dsimp only
    cases unwrap config <;> rfl

theorem on_cached_of_not_pos (h : ¬0 < key.id) :
    on (cached key wrap unwrap build) cache s = ((.ok none, cache), s) := by
  unfold cached
  rw [if_pos (by omega)]
  rfl

/-- What is built is kept. -/
theorem ready_of_settled {a : α} (h : (on (settled key wrap build) cache s).1.1 = .ok (some a)) :
    (on (settled key wrap build) cache s).1.2.slots.find? key = some (.ready (wrap a)) := by
  rw [on_settled] at h ⊢
  generalize on build (cache.begin key) s = o at h ⊢
  obtain ⟨⟨_ | o, cache'⟩, s'⟩ := o
  · cases h
  · cases h
    exact OrdMap.find?_insert_self _ _ _

/-- Entities of every kind are taken from the cache or built, and are told by their kind. -/
theorem exists_cached (target : EntityRef) :
    ∃ (α : Type) (wrap : α → Config) (unwrap : Config → Option α) (build : Composing (Option α)),
      entity target = Option.map wrap <$> cached target wrap unwrap build ∧
        (∀ a, (wrap a).kind = target.kind) ∧
        ∀ c : Config, c.kind = target.kind → ∃ a, unwrap c = some a ∧ wrap a = c := by
  obtain ⟨kind, id⟩ := target
  cases kind
  all_goals
    refine ⟨_, _, _, _, rfl, fun _ => rfl, fun c hc => ?_⟩
    cases c <;> cases hc
    exact ⟨_, rfl, rfl⟩

/-- What an empty cache keeps of an entity that was composed. -/
theorem ready_of_entity (h : (on (entity target) .empty s).1.1 = .ok (some c)) :
    0 < target.id ∧ c.kind = target.kind ∧
      (on (entity target) .empty s).1.2.slots.find? target = some (.ready c) := by
  obtain ⟨α, wrap, unwrap, build, hentity, hkind, -⟩ := exists_cached target
  rw [hentity, on_map] at h ⊢
  by_cases hpos : 0 < target.id
  · have hmiss : Cache.empty.lookup target = .ok (.miss, .empty) := rfl
    rw [on_cached hpos, hmiss] at h ⊢
    obtain ⟨o, ho, hc⟩ := of_map_eq_ok h
    obtain ⟨a, rfl, rfl⟩ := Option.map_eq_some_iff.1 hc
    exact ⟨hpos, hkind a, ready_of_settled ho⟩
  · rw [on_cached_of_not_pos hpos] at h
    cases h

/-- An entity that the cache keeps is answered from there, and stays kept. -/
theorem on_entity_of_ready {n : Nat} (hfits : c.Fits .exact n) (hpos : 0 < target.id)
    (hkind : c.kind = target.kind) (hready : cache.slots.find? target = some (.ready c)) :
    ∃ cache', on (entity target) cache s = ((c.again target, cache'), s) ∧
      cache'.slots.find? target = some (.ready c) := by
  obtain ⟨α, wrap, unwrap, build, hentity, -, hunwrap⟩ := exists_cached target
  obtain ⟨a, ha, rfl⟩ := hunwrap c hkind
  unfold Config.again
  rw [hentity, on_map, on_cached hpos]
  rcases Config.copy_exact hfits with ⟨hdepth, hcopy⟩ | ⟨hdepth, e, hcopy⟩
  · rw [Cache.lookup_of_ready hready hcopy, if_pos hdepth]
    simp only [ha]
    exact ⟨_, rfl, hready⟩
  · rw [Cache.lookup_of_uncopied hready hcopy, if_neg hdepth]
    exact ⟨_, rfl, hready⟩

end Composing

/-- As often as the entity is composed again, it is answered alike. -/
theorem run_composeEach_of_ready {s : Store} {target : EntityRef} {c : Config} {n : Nat}
    (hfits : c.Fits .exact n) (hpos : 0 < target.id) (hkind : c.kind = target.kind) (k : Nat)
    {cache : Cache} (hready : cache.slots.find? target = some (.ready c)) :
    ∃ cache', (composeEach (List.replicate k target) cache).run Store.host s
      = ((List.replicate k (c.again target), cache'), s) := by
  induction k generalizing cache with
  | zero => exact ⟨cache, rfl⟩
  | succ k ih =>
      obtain ⟨cache', hon, hready'⟩ :=
        Composing.on_entity_of_ready (s := s) hfits hpos hkind hready
      obtain ⟨cache'', hrun⟩ := ih hready'
      have hcompose : ((compose target).run.run cache).run Store.host s
          = ((c.again target, cache'), s) := (on_compose target cache s).trans hon
      refine ⟨cache'', ?_⟩
      rw [List.replicate_succ, composeEach, Program.run_bind, hcompose]
      dsimp only
      rw [Program.run_bind, hrun]
      rfl

theorem composeEach_replicate {s : Store} {n : Nat} (hs : s.Suits .exact n) {target : EntityRef}
    {c : Config} (hfirst : (Action.on (composeFresh target) s).1 = .ok (some c)) (k : Nat) :
    ∃ cache, (composeEach (List.replicate (k + 1) target) .empty).run Store.host s
      = ((.ok (some c) :: List.replicate k (c.again target), cache), s) := by
  -- Without the cache the same config is composed, and of that one it is known what it holds.
  have hlooks := composeFresh_alike hs (fun _ => trivial) target
  rw [hfirst] at hlooks
  obtain ⟨o, hplain, hsees⟩ := Composing.alike_of_ok hlooks
  obtain ⟨plain, rfl, hsee⟩ := Option.map_eq_some_iff.1 hsees.symm
  have hc : c.Fits .exact n := (Plain.fits_entity hs hplain).of_see hsee.symm
  rw [on_composeFresh] at hfirst
  obtain ⟨hpos, hkind, hready⟩ := Composing.ready_of_entity hfirst
  have hstore : (Composing.on (Composing.entity target) .empty s).2 = s :=
    Program.run_of_isRead fun c hc =>
      ((Composing.composes_entity target .empty).mem_calls c hc).isRead
  have hcompose : ((compose target).run.run .empty).run Store.host s
      = Composing.on (Composing.entity target) .empty s := on_compose target .empty s
  obtain ⟨cache, hrun⟩ := run_composeEach_of_ready (s := s) hc hpos hkind k hready
  refine ⟨cache, ?_⟩
  rw [List.replicate_succ, composeEach, Program.run_bind, hcompose, hstore]
  dsimp only
  rw [Program.run_bind, hrun, hfirst]
  rfl

/-- Where records keep to the widths of their fields and the numbers in scheduling options are read as
they were written, what a fresh cache composes to a config is composed to this config by the same cache
as often as one asks, if the wire form of the config nests at most 127 levels, and else fails from the
second time on. -/
theorem composeEach_again {s : Store} (hwidths : s.InWidths)
    (hstable : ∀ x r o, s.find? x = some (.reverseProxy r) →
      r.scheduling.decode Scheduling.decoder = .ok (some o) → MembersStable o.options)
    {target : EntityRef} {c : Config}
    (hfirst : (Action.on (composeFresh target) s).1 = .ok (some c)) (k : Nat) :
    ∃ cache, (composeEach (List.replicate (k + 1) target) .empty).run Store.host s
      = ((.ok (some c) :: List.replicate k (c.again target), cache), s) := by
  have hfair : ∀ x r, s.find? x = some r → r.SchedulesFairly .exact := by
    intro x r hr
    cases r with
    | reverseProxy r => exact fun o ho => (membersStable_iff o.options).1 (hstable x r o hr ho)
    | _ => trivial
  obtain ⟨n, hs⟩ := Store.exists_suits_of_fair hwidths hfair
  exact composeEach_replicate hs hfirst k

/-! ## Proxies with nothing but scheduling options -/

def ReverseProxy.scheduled (o : Scheduling) : ReverseProxy where
  id := 2
  scheduling := .encode o.toJson

def ReverseProxyConfig.scheduled (o : Scheduling) : ReverseProxyConfig where
  id := 2
  isOn := true
  scheduling := some o
  primaryOriginRefs := []
  backupOriginRefs := []
  primaryOrigins := []
  backupOrigins := []
  requestHost := ""
  stripPrefix := ""

def Store.scheduled (o : Scheduling) : Store :=
  (Store.empty.answer (.save (.reverseProxy (.scheduled o)))).2

theorem Store.suits_scheduled {o : Scheduling} {n : Nat} (h : o.Fits .exact n)
    (hdepth : o.toJson.depth ≤ 127) : (Store.scheduled o).Suits .exact n := by
  have hvalues : (Store.scheduled o).records.values = [.reverseProxy (.scheduled o)] := rfl
  constructor
  · exact inWidths_empty.answer sound_empty (c := .save _) (rfl : Text.fitsInt64 2 = true)
  · rw [Store.forall_find?_iff, hvalues, List.forall_mem_singleton]
    intro o' ho
    rw [ReverseProxy.scheduled, (Scheduling.decode_encode_iff h).2 hdepth] at ho
    cases ho
    exact ⟨h.shallow, h.fair⟩

theorem composeFresh_scheduled {o : Scheduling} {n : Nat} (h : o.Fits .exact n)
    (hdepth : o.toJson.depth ≤ 127) :
    (Action.on (composeFresh ⟨.reverseProxy, 2⟩) (Store.scheduled o)).1
      = .ok (some (.reverseProxy (.scheduled o))) := by
  have hreference : ∀ cache, Composing.on (Composing.reference
      ⟨.reverseProxy, (ReverseProxy.scheduled o).id⟩ "scheduling" Scheduling.decoder
        (ReverseProxy.scheduled o).scheduling) cache (.scheduled o)
          = ((.ok (some o), cache), .scheduled o) := by
    intro cache
    unfold Composing.reference
    rw [ReverseProxy.scheduled, (Scheduling.decode_encode_iff h).2 hdepth]
    rfl
  have hfill : ∀ cache, Composing.on (Composing.fillReverseProxy (.scheduled o)) cache
      (.scheduled o) = ((.ok (.scheduled o), cache), .scheduled o) := by
    intro cache
    unfold Composing.fillReverseProxy
    dsimp only
    rw [Composing.on_bind, hreference]
    rfl
  have hbuild : ∀ cache, Composing.on (Composing.buildReverseProxy 2) cache (.scheduled o)
      = ((.ok (some (.scheduled o)), cache), .scheduled o) := by
    intro cache
    have hread : Composing.on (Composing.ofAction (Action.findReverseProxy 2)) cache (.scheduled o)
        = ((.ok (some (.scheduled o)), cache), .scheduled o) := rfl
    have hstate : (ReverseProxy.scheduled o).state.isEnabled = true := rfl
    unfold Composing.buildReverseProxy
    rw [Composing.on_bind, hread]
    simp only [hstate, if_true]
    rw [Composing.on_bind, hfill]
    rfl
  have hentity : Composing.entity ⟨.reverseProxy, 2⟩
      = Option.map Config.reverseProxy <$> Composing.reverseProxy 2 := rfl
  have hmiss : Cache.empty.lookup ⟨.reverseProxy, 2⟩ = .ok (.miss, .empty) := rfl
  rw [on_composeFresh, hentity, Composing.on_map, Composing.reverseProxy,
    Composing.on_cached (by decide), hmiss]
  dsimp only
  rw [Composing.on_settled, hbuild]
  rfl

def Scheduling.weighted : Scheduling :=
  ⟨"hash", [("weights", .array [.number (.float ⟨false, ⟨4503599627370496, -53⟩⟩), .int 1])]⟩

theorem Scheduling.fits_weighted : Scheduling.weighted.Fits .exact 1 where
  sorted := ⟨List.pairwise_singleton _ _, ⟨⟨trivial, trivial, trivial⟩, trivial⟩⟩
  shallow := by decide
  fair := by
    have hhalf : (Number.float ⟨false, ⟨4503599627370496, -53⟩⟩).IsStable := by decide +kernel
    have hone : (Number.int 1).IsStable := by decide +kernel
    exact ⟨⟨hhalf, hone, trivial⟩, trivial⟩

/-- The proxy is answered from the cache. -/
theorem composeEach_again_weighted :
    (Store.scheduled .weighted).InWidths ∧
      (∀ x r o, (Store.scheduled .weighted).find? x = some (.reverseProxy r) →
        r.scheduling.decode Scheduling.decoder = .ok (some o) → MembersStable o.options) ∧
      (Action.on (composeFresh ⟨.reverseProxy, 2⟩) (.scheduled .weighted)).1
        = .ok (some (.reverseProxy (.scheduled .weighted))) ∧
      ∃ cache, (composeEach [⟨.reverseProxy, 2⟩, ⟨.reverseProxy, 2⟩] .empty).run Store.host
          (.scheduled .weighted)
        = (([.ok (some (.reverseProxy (.scheduled .weighted))),
            .ok (some (.reverseProxy (.scheduled .weighted)))], cache), .scheduled .weighted) := by
  have hdepth : Scheduling.weighted.toJson.depth ≤ 127 := by decide
  have hs := Store.suits_scheduled Scheduling.fits_weighted hdepth
  have hstable : ∀ x r o, (Store.scheduled .weighted).find? x = some (.reverseProxy r) →
      r.scheduling.decode Scheduling.decoder = .ok (some o) → MembersStable o.options :=
    fun x r o hr ho => (membersStable_iff o.options).2 (hs.scheduling x _ hr o ho).2
  have hfirst := composeFresh_scheduled Scheduling.fits_weighted hdepth
  exact ⟨hs.toInWidths, hstable, hfirst, composeEach_again hs.toInWidths hstable hfirst 1⟩

/-- Arrays in one another, the innermost empty. -/
def Json.nested : Nat → Json
  | 0 => .array []
  | n + 1 => .array [nested n]

theorem Json.isSorted_nested (n : Nat) : (nested n).IsSorted := by
  induction n with
  | zero => trivial
  | succ n ih => exact ⟨ih, trivial⟩

theorem Json.all_nested (P : Number → Prop) (n : Nat) : (nested n).All P := by
  induction n with
  | zero => trivial
  | succ n ih => exact ⟨ih, trivial⟩

/-- Options that can be stored, but are one level too deep for the wire form of a proxy. -/
def Scheduling.steep : Scheduling := ⟨"", [("a", Json.nested 123)]⟩

theorem Scheduling.fits_steep : Scheduling.steep.Fits .exact 124 where
  sorted := ⟨List.pairwise_singleton _ _, ⟨Json.isSorted_nested 123, trivial⟩⟩
  shallow := by decide +kernel
  fair := ⟨Json.all_nested _ 123, trivial⟩

/-- The second composition fails. -/
theorem composed_once_steep :
    (Store.scheduled .steep).Reachable ∧
      (Store.scheduled .steep).InWidths ∧
      (∀ x r o, (Store.scheduled .steep).find? x = some (.reverseProxy r) →
        r.scheduling.decode Scheduling.decoder = .ok (some o) → MembersStable o.options) ∧
      (Action.on (composeFresh ⟨.reverseProxy, 2⟩) (.scheduled .steep)).1
        = .ok (some (.reverseProxy (.scheduled .steep))) ∧
      ∃ cache, (composeEach [⟨.reverseProxy, 2⟩, ⟨.reverseProxy, 2⟩] .empty).run Store.host
          (.scheduled .steep)
        = (([.ok (some (.reverseProxy (.scheduled .steep))),
            .error (.undecodable ⟨.reverseProxy, 2⟩ "cached config")], cache), .scheduled .steep) := by
  have hdepth : Scheduling.steep.toJson.depth ≤ 127 := by decide +kernel
  have hdeep : ¬(Config.reverseProxy (.scheduled .steep)).toJson.depth ≤ 127 := by decide +kernel
  have hs := Store.suits_scheduled Scheduling.fits_steep hdepth
  have hfirst := composeFresh_scheduled Scheduling.fits_steep hdepth
  obtain ⟨cache, hrun⟩ := composeEach_replicate hs hfirst 1
  refine ⟨.call _ .empty, hs.toInWidths, fun x r o hr ho => ?_, hfirst, cache, ?_⟩
  · exact (membersStable_iff o.options).2 (hs.scheduling x _ hr o ho).2
  · rw [Config.again, if_neg hdeep] at hrun
    exact hrun

end Fleet
