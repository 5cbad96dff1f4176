import Fleet.Proofs.Composition.Shape

/-!
# The reads of one composition

Whatever the store answers, one composition reads no record twice, and none whose id is not positive.
What was read is noted in the cache, as being composed, absent or composed; only a failure takes such a
note back, and after a failure nothing is read any more.
-/

namespace Fleet

/-! ## Reading once -/

namespace Call

/-- The entity whose record the call reads. -/
def read? : Call → Option EntityRef
  | .find x => some x
  | _ => none

/-- What was read, once the call was made as well. -/
def AddTo (c : Call) (read : EntityRef → Prop) (x : EntityRef) : Prop := read x ∨ c.read? = some x

end Call

namespace Program

variable {α β σ : Type} {read : EntityRef → Prop} {Q : (EntityRef → Prop) → α → Prop}
  {R : (EntityRef → Prop) → β → Prop}

/-- The calls that the program makes of a host. -/
def callsTo (host : Host σ) : Program α → σ → List Call
  | .done _, _ => []
  | .note m next, s => next.callsTo host (host.hear m s)
  | .call c next, s => c :: (next (host.answer c s).1).callsTo host (host.answer c s).2

/-- The entities whose records the program reads, one for each read. -/
def readsTo (host : Host σ) (p : Program α) (s : σ) : List EntityRef :=
  (p.callsTo host s).filterMap Call.read?

/-- Whatever the answers, the program reads only records of positive ids that were not read before, and
ends in `Q` of all that was read then. -/
def ReadsOnce (Q : (EntityRef → Prop) → α → Prop) : (read : EntityRef → Prop) → Program α → Prop
  | read, .done a => Q read a
  | read, .note _ next => next.ReadsOnce Q read
  | read, .call c next =>
    (∀ x, c.read? = some x → ¬read x ∧ 0 < x.id) ∧
      ∀ answer, (next answer).ReadsOnce Q (c.AddTo read)

theorem ReadsOnce.bind {p : Program α} {f : α → Program β} (hp : p.ReadsOnce Q read)
    (hf : ∀ read a, Q read a → (f a).ReadsOnce R read) : (p >>= f).ReadsOnce R read := by
  change (p.bind f).ReadsOnce R read
  induction p generalizing read with
  | done a => exact hf read a hp
  | note m next ih => exact ih hp
  | call c next ih => exact ⟨hp.1, fun answer => ih answer (hp.2 answer)⟩

/-- In every run, what is read is new each time. -/
theorem ReadsOnce.reads {p : Program α} (hp : p.ReadsOnce Q read) (host : Host σ) (s : σ) :
    (p.readsTo host s).Nodup ∧ ∀ x ∈ p.readsTo host s, ¬read x ∧ 0 < x.id := by
  induction p generalizing read s with
  | done a => exact ⟨List.nodup_nil, fun _ hx => absurd hx List.not_mem_nil⟩
  | note m next ih => exact ih hp _
  | call c next ih =>
      obtain ⟨hnodup, hnew⟩ := ih _ (hp.2 (host.answer c s).1) (host.answer c s).2
      unfold readsTo at hnodup hnew ⊢
      rw [callsTo, List.filterMap_cons]
      cases hc : c.read? with
      | none => exact ⟨hnodup, fun x hx => ⟨fun hread => (hnew x hx).1 (.inl hread), (hnew x hx).2⟩⟩
      | some y =>
          refine ⟨List.nodup_cons.mpr ⟨fun hy => (hnew y hy).1 (.inr hc), hnodup⟩, fun x hx => ?_⟩
          rcases List.mem_cons.mp hx with rfl | hx
          · exact hp.1 x hc
          · exact ⟨fun hread => (hnew x hx).1 (.inl hread), (hnew x hx).2⟩

end Program

/-! ## Compositions -/

/-- The cache has a place for all that was read, and keeps configs where their kind belongs. -/
structure Cache.Notes (read : EntityRef → Prop) (cache : Cache) : Prop where
  place : ∀ x, read x → cache.slots.find? x ≠ none
  kind : ∀ x c, cache.slots.find? x = some (.ready c) → c.kind = x.kind

namespace Cache.Notes

variable {read : EntityRef → Prop} {cache : Cache} {key : EntityRef}

theorem put {slot : CacheSlot} (h : cache.Notes read)
    (hkind : ∀ c, slot = .ready c → c.kind = key.kind) : (cache.put key slot).Notes read where
  place x hx := by
    rw [find?_put]
    split
    · exact Option.some_ne_none _
    · exact h.place x hx
  kind x c hx := by
    rw [find?_put] at hx
    split at hx
    · rename_i heq
      rw [heq]
      exact hkind c (Option.some.inj hx)
    · exact h.kind x c hx

/-- The record of an entity that has its place is read. -/
theorem add {c : Call} (h : cache.Notes read)
    (hc : ∀ x, c.read? = some x → cache.slots.find? x ≠ none) : cache.Notes (c.AddTo read) where
  place x hx := hx.elim (h.place x) (hc x)
  kind := h.kind

end Cache.Notes

namespace Composing

variable {α β ρ : Type}

/-- From a cache that notes what was read, the composition reads only what was not, and if it does not
fail the cache notes that as well. -/
def Once (x : Composing α) : Prop :=
  ∀ (read : EntityRef → Prop) (cache : Cache), cache.Notes read →
    (x.run.run cache).ReadsOnce (fun read r => ∀ a, r.1 = .ok a → r.2.Notes read) read

theorem once_outcome (r : Except Failure α) : Once (ExceptT.mk (pure r)) := fun _ _ h _ _ => h

theorem Once.bind {x : Composing α} {f : α → Composing β} (hx : Once x) (hf : ∀ a, Once (f a)) :
    Once (x >>= f) := by
  intro read cache h
  rw [ExceptT.run_bind, StateT.run_bind]
  refine (hx read cache h).bind fun read' ⟨r, cache'⟩ hr => ?_
  cases r with
  | ok a => exact hf a read' cache' (hr a rfl)
  | error e => exact nofun

theorem once_servers (cluster : Int) : Once (ofAction (Action.ask (.enabledServers cluster))) := by
  intro read cache h
  rw [← id_map (Action.ask (.enabledServers cluster)), run_ofAction_map_ask]
  refine ⟨nofun, fun answer => ?_⟩
  cases answer with
  | ok servers => exact fun _ _ => h.add nofun
  | error e => exact nofun

/-- An entity that is about to be built was not read before, and has its place when it is. -/
theorem once_found {key : EntityRef} {wrap : α → Config} {pick : Record → Option ρ}
    {f : Option ρ → Composing (Option α)} (hwrap : ∀ a, (wrap a).kind = key.kind) (hpos : 0 < key.id)
    (hf : ∀ r, Once (f r)) (read : EntityRef → Prop) (cache : Cache) (h : cache.Notes read)
    (hnew : cache.slots.find? key = none) :
    ((settled key wrap (ofAction (found key pick) >>= f)).run.run cache).ReadsOnce
      (fun read r => ∀ a, r.1 = .ok a → r.2.Notes read) read := by
  have hbegin : (cache.begin key).Notes read := h.put fun _ he => nomatch he
  have hplace : (cache.begin key).slots.find? key ≠ none := by
    rw [Cache.begin, Cache.find?_put, if_pos rfl]
    exact Option.some_ne_none _
  have hbuild : ((ofAction (found key pick) >>= f).run.run (cache.begin key)).ReadsOnce
      (fun read r => ∀ a, r.1 = .ok a → r.2.Notes read) read := by
    rw [run_found_bind]
    refine ⟨?_, fun answer => ?_⟩
    · rintro x ⟨⟩
      exact ⟨fun hread => h.place key hread hnew, hpos⟩
    · cases answer with
      | ok r =>
          refine hf (r.bind pick) _ _ (hbegin.add ?_)
          rintro x ⟨⟩
          exact hplace
      | error e => exact nofun
  refine hbuild.bind fun read' ⟨r, cache'⟩ hr => ?_
  cases r with
  | error e => exact nofun
  | ok a =>
      intro _ _
      cases a with
      | none => exact (hr _ rfl).put fun _ he => nomatch he
      | some a =>
          refine (hr _ rfl).put ?_
          rintro _ ⟨⟩
          exact hwrap a

theorem once_entity {key : EntityRef} {wrap : α → Config} {unwrap : Config → Option α}
    {pick : Record → Option ρ} {f : Option ρ → Composing (Option α)}
    (entry : Entry key wrap unwrap (ofAction (found key pick) >>= f)) (hf : ∀ r, Once (f r)) :
    Once (cached key wrap unwrap (ofAction (found key pick) >>= f)) := by
  intro read cache h
  by_cases hpos : 0 < key.id
  · rw [run_cached hpos, Cache.lookup]
    cases hfind : cache.slots.find? key with
    | none => exact once_found entry.kind_wrap hpos hf read cache h hfind
    | some slot =>
        cases slot with
        | resolving => exact fun _ _ => ⟨h.place, h.kind⟩
        | absent => exact fun _ _ => h
        | ready config =>
            dsimp only
            cases hcopy : config.copy with
            | error e =>
                rintro _ ⟨⟩
            | ok copy =>
                -- A hit is of the kind of the entity, so that its record is not read again.
                have hkind : copy.kind = key.kind :=
                  (Config.kind_of_copy hcopy).trans (h.kind key config hfind)
                obtain ⟨a, ha⟩ := entry.exists_unwrap copy hkind
                simp only [ha]
                exact fun _ _ => ⟨h.place, h.kind⟩
  · rw [run_cached_of_not_pos hpos]
    exact fun _ _ => h

theorem Below.once {t : Nat} {x : Composing α} (h : Below t x) : Once x := by
  induction h with
  | outcome r => exact once_outcome r
  | servers cluster => exact once_servers cluster
  | bind _ _ hx hf => exact hx.bind hf
  | entity entry _ _ hf => exact once_entity entry hf

theorem once_any (target : EntityRef) : Once (entity target) := by
  obtain ⟨_, _, _, _, hrooted⟩ := exists_rooted target
  rw [hrooted.entry.entity_eq]
  exact ((hrooted.below (Nat.lt_succ_self _)).map).once

end Composing

/-- One composition with a cache of its own reads the record of no entity twice, and of none whose id is
not positive, whatever it is answered. -/
theorem compose_reads_once {σ : Type} (host : Program.Host σ) (s : σ) (target : EntityRef) :
    (((compose target).run.run .empty).readsTo host s).Nodup ∧
      ∀ x ∈ ((compose target).run.run .empty).readsTo host s, 0 < x.id := by
  have hempty : Cache.empty.Notes fun _ => False :=
    ⟨fun _ hx => hx.elim, fun _ _ hx => nomatch hx⟩
  have honce := Composing.once_any target _ _ hempty
  have hcompose : ((compose target).run.run .empty).ReadsOnce (fun _ _ => True) fun _ => False :=
    honce.bind fun _ _ _ => trivial
  exact ⟨(hcompose.reads host s).1, fun x hx => ((hcompose.reads host s).2 x hx).2⟩

end Fleet
