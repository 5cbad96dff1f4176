import Fleet.Config.Compose
import Fleet.Proofs.Program

/-!
# Compositions that run alone

Rules for what a composition does on a store that nothing else changes: which calls it makes, what
becomes of the cache, and how it ends.
-/

namespace Fleet

namespace Composing

variable {α β : Type} {s : Store}

/-- How the composition ends on a store, with the cache and the store after it. -/
def on (x : Composing α) (cache : Cache) (s : Store) : (Except Failure α × Cache) × Store :=
  (x.run.run cache).run Store.host s

/-- The calls of a composition that runs alone. -/
def callsOn (x : Composing α) (cache : Cache) (s : Store) : List Call := (x.run.run cache).calls s

theorem on_bind (x : Composing α) (f : α → Composing β) (cache : Cache) (s : Store) :
    on (x >>= f) cache s
      = match on x cache s with
        | ((.ok a, cache), s) => on (f a) cache s
        | ((.error e, cache), s) => ((.error e, cache), s) := by
  unfold on
  rw [ExceptT.run_bind, StateT.run_bind, Program.run_bind]
  rcases (x.run.run cache).run Store.host s with ⟨⟨_ | _, _⟩, _⟩ <;> rfl

theorem callsOn_bind (x : Composing α) (f : α → Composing β) (cache : Cache) (s : Store) :
    callsOn (x >>= f) cache s
      = callsOn x cache s ++
        match on x cache s with
        | ((.ok a, cache), s) => callsOn (f a) cache s
        | ((.error _, _), _) => [] := by
  unfold callsOn on
  rw [ExceptT.run_bind, StateT.run_bind, Program.calls_bind]
  rcases (x.run.run cache).run Store.host s with ⟨⟨_ | _, _⟩, _⟩ <;> rfl

/-! ## Triples -/

/-- From every cache that satisfies `I`, the calls keep to `C`, the cache satisfies `I` in the end and
the outcome satisfies `Q`. -/
def Holds (s : Store) (C : Call → Prop) (I : Cache → Prop) (x : Composing α)
    (Q : Except Failure α → Prop) : Prop :=
  ∀ cache, I cache →
    (∀ c ∈ callsOn x cache s, C c) ∧ I (on x cache s).1.2 ∧ Q (on x cache s).1.1

variable {C : Call → Prop} {I : Cache → Prop} {Q : Except Failure α → Prop}
  {R : Except Failure β → Prop}

theorem Holds.imp {Q' : Except Failure α → Prop} {x : Composing α} (h : Holds s C I x Q)
    (hq : ∀ r, Q r → Q' r) : Holds s C I x Q' := fun cache hi =>
  ⟨(h cache hi).1, (h cache hi).2.1, hq _ (h cache hi).2.2⟩

theorem holds_outcome {r : Except Failure α} (h : Q r) :
    Holds s C I (ExceptT.mk (pure r)) Q := fun _ hi =>
  ⟨fun _ hc => (List.not_mem_nil hc).elim, hi, h⟩

theorem holds_pure {a : α} (h : Q (.ok a)) : Holds s C I (pure a) Q := holds_outcome h

/-- As the calls only read, the second part runs on the same store. -/
theorem Holds.bind {x : Composing α} {f : α → Composing β} (hC : ∀ c, C c → c.isRead = true)
    (hx : Holds s C I x Q) (hf : ∀ a, Q (.ok a) → Holds s C I (f a) R)
    (he : ∀ e, Q (.error e) → R (.error e)) : Holds s C I (x >>= f) R := by
  intro cache hi
  obtain ⟨hcalls, hi', hq⟩ := hx cache hi
  have hstore : (on x cache s).2 = s :=
    Program.run_of_isRead fun c hc => hC c (hcalls c hc)
  rw [callsOn_bind, on_bind]
  generalize on x cache s = o at hstore hi' hq ⊢
  obtain ⟨⟨r, cache'⟩, s'⟩ := o
  dsimp only at hstore hi' hq
  subst hstore
  cases r with
  | ok a =>
      obtain ⟨hcalls', hrest⟩ := hf a hq cache' hi'
      refine ⟨fun c hc => ?_, hrest⟩
      rcases List.mem_append.1 hc with hc | hc
      · exact hcalls c hc
      · exact hcalls' c hc
  | error e => exact ⟨by simpa using hcalls, hi', he e hq⟩

theorem Holds.map {x : Composing α} {f : α → β} (hC : ∀ c, C c → c.isRead = true)
    (hx : Holds s C I x Q) (hf : ∀ r, Q r → R (r.map f)) : Holds s C I (f <$> x) R := by
  rw [← bind_pure_comp]
  exact hx.bind hC (fun a ha => holds_pure (hf _ ha)) fun e he => hf _ he

theorem holds_ofAction {a : Action α} (hcalls : ∀ c ∈ a.run.calls s, C c)
    (hq : Q (Action.on a s).1) : Holds s C I (ofAction a) Q := by
  intro cache hi
  have hon : (on (ofAction a) cache s).1 = ((Action.on a s).1, cache) := by
    change ((a.run >>= fun r => pure (r, cache) : Program _).run Store.host s).1 = _
    rw [Program.run_bind]
    rfl
  have hrun : callsOn (ofAction a) cache s = a.run.calls s := by
    change (a.run >>= fun r => pure (r, cache) : Program _).calls s = _
    rw [Program.calls_bind, Program.calls_pure, List.append_nil]
  rw [hrun, hon]
  exact ⟨hcalls, hi, hq⟩

/-- A point read, and what follows on the record that is there. -/
theorem holds_read {a : Action α} {v : α} {f : α → Composing β} (hC : ∀ c, C c → c.isRead = true)
    (hcalls : ∀ c ∈ a.run.calls s, C c) (ha : (Action.on a s).1 = .ok v) (h : Holds s C I (f v) R) :
    Holds s C I (ofAction a >>= f) R := by
  have hread : Holds s C I (ofAction a) (· = .ok v) := holds_ofAction hcalls ha
  refine hread.bind hC (fun _ h' => ?_) fun _ h' => nomatch h'
  cases h'
  exact h

theorem holds_reference {owner : EntityRef} {field : String} {d : Json.Decoder α} {r : RefText}
    {Q : Except Failure (Option α) → Prop}
    (hq : Q ((r.decode d).mapError fun _ => .undecodable owner field)) :
    Holds s C I (reference owner field d r) Q := by
  refine holds_outcome ?_
  cases h : r.decode d <;> rw [h] at hq <;> exact hq

theorem holds_present {f : β → Composing (Option α)} {l : List β}
    (hC : ∀ c, C c → c.isRead = true) (h : ∀ b ∈ l, Holds s C I (f b) fun _ => True) :
    Holds s C I (present f l) fun _ => True := by
  induction l with
  | nil => exact holds_pure trivial
  | cons b l ih =>
      rw [present]
      refine (h b (by simp)).bind hC (fun a _ => ?_) fun _ _ => trivial
      refine (ih fun b hb => h b (List.mem_cons_of_mem _ hb)).bind hC (fun as _ => ?_) fun _ _ => trivial
      exact holds_pure trivial

/-! ## The cache -/

theorem on_settled (key : EntityRef) (wrap : α → Config) (build : Composing (Option α))
    (cache : Cache) (s : Store) :
    on (settled key wrap build) cache s
      = match on build (cache.begin key) s with
        | ((.ok a, cache), s) => ((.ok a, cache.settle key (a.map wrap)), s)
        | ((.error e, cache), s) => ((.error e, cache.abandon key), s) := by
  refine (Program.run_bind _ (build.run.run (cache.begin key)) _ s).trans ?_
  unfold on
  rcases (build.run.run (cache.begin key)).run Store.host s with ⟨⟨_ | _, _⟩, _⟩ <;> rfl

theorem callsOn_settled (key : EntityRef) (wrap : α → Config) (build : Composing (Option α))
    (cache : Cache) (s : Store) :
    callsOn (settled key wrap build) cache s = callsOn build (cache.begin key) s := by
  refine (Program.calls_bind (build.run.run (cache.begin key)) _ s).trans ?_
  unfold callsOn
  rcases (build.run.run (cache.begin key)).run Store.host s with ⟨⟨_ | _, _⟩, _⟩ <;> simp

theorem holds_settled {key : EntityRef} {wrap : α → Config} {build : Composing (Option α)}
    {Q : Except Failure (Option α) → Prop} {J : Cache → Prop} (hbegin : ∀ c, I c → J (c.begin key))
    (h : Holds s C J build Q) (hsettle : ∀ c a, J c → Q (.ok a) → I (c.settle key (a.map wrap)))
    (habandon : ∀ c e, J c → Q (.error e) → I (c.abandon key)) :
    Holds s C I (settled key wrap build) Q := by
  intro cache hi
  obtain ⟨hcalls, hj, hq⟩ := h _ (hbegin cache hi)
  rw [callsOn_settled, on_settled]
  refine ⟨hcalls, ?_⟩
  generalize on build (cache.begin key) s = o at hj hq ⊢
  obtain ⟨⟨_ | a, cache'⟩, s'⟩ := o
  · exact ⟨habandon cache' _ hj hq, hq⟩
  · exact ⟨hsettle cache' a hj hq, hq⟩

theorem on_lookup (key : EntityRef) (cache : Cache) (s : Store) :
    (on (lookup key) cache s).1
      = match cache.lookup key with
        | .error e => (.error e, cache)
        | .ok (l, cache) => (.ok l, cache) := by
  change ((looked key cache (cache.lookup key)).run Store.host s).1 = _
  rcases cache.lookup key with _ | ⟨_ | _ | _, _⟩ <;> rfl

theorem on_lookup_store (key : EntityRef) (cache : Cache) (s : Store) :
    (on (lookup key) cache s).2 = s := by
  change ((looked key cache (cache.lookup key)).run Store.host s).2 = _
  rcases cache.lookup key with _ | ⟨_ | _ | _, _⟩ <;> rfl

theorem callsOn_lookup (key : EntityRef) (cache : Cache) (s : Store) :
    callsOn (lookup key) cache s = [] := by
  change (looked key cache (cache.lookup key)).calls s = _
  rcases cache.lookup key with _ | ⟨_ | _ | _, _⟩ <;> rfl

/-- What a look into the cache may answer when the entity must come out as `Q` says. -/
def Answers (I : Cache → Prop) (unwrap : Config → Option α) (Q : Except Failure (Option α) → Prop) :
    Except Failure (Lookup × Cache) → Prop
  | .error e => Q (.error e)
  | .ok (.miss, cache) => I cache
  | .ok (.absent, cache) => I cache ∧ Q (.ok none)
  | .ok (.hit config, cache) => I cache ∧ ∀ a, unwrap config = some a → Q (.ok (some a))

theorem holds_cached {key : EntityRef} {wrap : α → Config} {unwrap : Config → Option α}
    {build : Composing (Option α)} {Q : Except Failure (Option α) → Prop}
    (hC : ∀ c, C c → c.isRead = true) (hnone : key.id ≤ 0 → Q (.ok none))
    (hlook : ∀ cache, I cache → Answers I unwrap Q (cache.lookup key))
    (hsettled : 0 < key.id → Holds s C I (settled key wrap build) Q) :
    Holds s C I (cached key wrap unwrap build) Q := by
  unfold cached
  split
  · rename_i hid
    exact holds_pure (hnone hid)
  · rename_i hid
    have hlooked : Holds s C I (lookup key) fun
        | .error e => Q (.error e)
        | .ok .miss => True
        | .ok .absent => Q (.ok none)
        | .ok (.hit config) => ∀ a, unwrap config = some a → Q (.ok (some a)) := by
      intro cache hi
      have h := hlook cache hi
      rw [callsOn_lookup, on_lookup]
      refine ⟨fun _ hc => (List.not_mem_nil hc).elim, ?_⟩
      generalize cache.lookup key = r at h ⊢
      rcases r with _ | ⟨_ | _ | _, _⟩
      · exact ⟨hi, h⟩
      · exact ⟨h, trivial⟩
      · exact h
      · exact h
    refine hlooked.bind hC (fun l hl => ?_) fun e he => he
    cases l with
    | miss => exact hsettled (by omega)
    | absent => exact holds_pure hl
    | hit config =>
        cases hu : unwrap config with
        | none => simpa [hu] using hsettled (by omega)
        | some a => simpa [hu] using holds_pure (hl a hu)

end Composing

end Fleet
