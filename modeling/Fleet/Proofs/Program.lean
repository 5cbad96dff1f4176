import Fleet.Store.Program

/-!
# Programs that run alone

The calls that a program makes on a store that nothing else changes. A program that only reads tells
two stores apart by one of the calls that it makes to both.
-/

namespace Fleet

namespace Program

variable {α β : Type} {s t : Store}

/-! ## The calls of a run -/

/-- The calls that the program makes when nothing else happens to the store. -/
def calls : Program α → Store → List Call
  | .done _, _ => []
  | .note _ next, s => next.calls s
  | .call c next, s => c :: (next (s.answer c).1).calls (s.answer c).2

@[simp] theorem calls_pure (a : α) (s : Store) : (pure a : Program α).calls s = [] := rfl

@[simp] theorem calls_bind (p : Program α) (f : α → Program β) (s : Store) :
    (p >>= f).calls s
      = p.calls s ++ (f (p.run Store.host s).1).calls (p.run Store.host s).2 := by
  change (p.bind f).calls s = _
  induction p generalizing s with
  | done a => rfl
  | note m next ih => exact ih s
  | call c next ih =>
      simp only [Program.bind, calls, List.cons_append]
      rw [ih]
      rfl

/-- What every call keeps true of the store, a run keeps true. -/
theorem run_invariant {P : Store → Prop} (p : Program α) (hP : ∀ c t, P t → P (t.answer c).2)
    (h : P s) : P (p.run Store.host s).2 := by
  induction p generalizing s with
  | done a => exact h
  | note m next ih => exact ih h
  | call c next ih => exact ih _ (hP c s h)

/-- A run that only reads leaves the store as it was. -/
theorem run_of_isRead {p : Program α} (h : ∀ c ∈ p.calls s, c.isRead = true) :
    (p.run Store.host s).2 = s := by
  induction p with
  | done a => rfl
  | note m next ih => exact ih h
  | call c next ih =>
      have hc : (s.answer c).2 = s := Store.answer_of_isRead (h c (by simp [calls]))
      simp only [calls, hc, List.mem_cons, forall_eq_or_imp] at h
      change ((next (s.answer c).1).run Store.host (s.answer c).2).2 = s
      rw [hc]
      exact ih _ h.2

/-- Two stores that a reading program tells apart answer one of its calls differently. -/
theorem exists_calls_of_run_ne {p : Program α} (h : ∀ c ∈ p.calls s, c.isRead = true)
    (hne : (p.run Store.host s).1 ≠ (p.run Store.host t).1) :
    ∃ c, c ∈ p.calls s ∧ c ∈ p.calls t ∧ (s.answer c).1 ≠ (t.answer c).1 := by
  induction p with
  | done a => exact absurd rfl hne
  | note m next ih => exact ih h hne
  | call c next ih =>
      by_cases heq : (s.answer c).1 = (t.answer c).1
      · have hread := h c (by simp [calls])
        have hs : (s.answer c).2 = s := Store.answer_of_isRead hread
        have ht : (t.answer c).2 = t := Store.answer_of_isRead hread
        simp only [calls, hs, ht, heq, List.mem_cons, forall_eq_or_imp] at h ⊢
        have hne : ((next (t.answer c).1).run Store.host s).1
            ≠ ((next (t.answer c).1).run Store.host t).1 := by
          intro he
          apply hne
          change ((next (s.answer c).1).run Store.host (s.answer c).2).1
            = ((next (t.answer c).1).run Store.host (t.answer c).2).1
          rw [hs, ht, heq, he]
        obtain ⟨d, hds, hdt, hd⟩ := ih _ h.2 hne
        exact ⟨d, .inr hds, .inr hdt, hd⟩
      · exact ⟨c, by simp [calls], by simp [calls], heq⟩

/-! ## The calls that a program may make -/

/-- Whatever the answers, the calls keep to `C`. -/
def Makes (C : Call → Prop) : Program α → Prop
  | .done _ => True
  | .note _ next => next.Makes C
  | .call c next => C c ∧ ∀ a, (next a).Makes C

variable {C : Call → Prop}

theorem Makes.bind {p : Program α} {f : α → Program β} (hp : p.Makes C)
    (hf : ∀ a, (f a).Makes C) : (p >>= f).Makes C := by
  change (p.bind f).Makes C
  induction p with
  | done a => exact hf a
  | note m next ih => exact ih hp
  | call c next ih => exact ⟨hp.1, fun a => ih a (hp.2 a)⟩

theorem Makes.imp {D : Call → Prop} {p : Program α} (hp : p.Makes C) (h : ∀ c, C c → D c) :
    p.Makes D := by
  induction p with
  | done a => trivial
  | note m next ih => exact ih hp
  | call c next ih => exact ⟨h c hp.1, fun a => ih a (hp.2 a)⟩

theorem Makes.mem_calls {p : Program α} (hp : p.Makes C) : ∀ c ∈ p.calls s, C c := by
  induction p generalizing s with
  | done a => simp [calls]
  | note m next ih => exact ih hp
  | call c next ih =>
      simp only [calls, List.mem_cons, forall_eq_or_imp]
      exact ⟨hp.1, ih _ (hp.2 _)⟩

/-! ## What a program may end in -/

variable {Q : α → Prop} {R : β → Prop}

/-- Whatever the answers, the program ends in `Q`. -/
def Returns (Q : α → Prop) : Program α → Prop
  | .done a => Q a
  | .note _ next => next.Returns Q
  | .call _ next => ∀ answer, (next answer).Returns Q

theorem Returns.bind {p : Program α} {f : α → Program β} (hp : p.Returns Q)
    (hf : ∀ a, Q a → (f a).Returns R) : (p >>= f).Returns R := by
  change (p.bind f).Returns R
  induction p with
  | done a => exact hf a hp
  | note m next ih => exact ih hp
  | call c next ih => exact fun answer => ih answer (hp answer)

theorem Returns.imp {R : α → Prop} {p : Program α} (hp : p.Returns Q) (h : ∀ a, Q a → R a) :
    p.Returns R := by
  rw [← bind_pure p]
  exact hp.bind h

theorem Returns.run {σ : Type} {p : Program α} (hp : p.Returns Q) (host : Host σ) (x : σ) :
    Q (p.run host x).1 := by
  induction p generalizing x with
  | done a => exact hp
  | note m next ih => exact ih hp _
  | call c next ih => exact ih _ (hp _) _

theorem returns_true (p : Program α) : p.Returns fun _ => True := by
  induction p with
  | done a => trivial
  | note m next ih => exact ih
  | call c next ih => exact ih

/-- What the program came to. -/
def result? : Program α → Option α
  | .done a => some a
  | _ => none

theorem eq_done_of_result? {p : Program α} {a : α} (h : p.result? = some a) : p = .done a := by
  cases p with
  | done b =>
      cases h
      rfl
  | note _ _ => cases h
  | call _ _ => cases h

end Program

/-! ## Actions -/

namespace Action

variable {α β : Type} {s : Store}

section Host

variable {σ : Type} {host : Program.Host σ} {x y : σ} {a : Action α} {f : α → Action β}

theorem run_bind_ok {v : α} (h : a.run.run host x = (.ok v, y)) :
    (a >>= f).run.run host x = (f v).run.run host y := by
  rw [ExceptT.run_bind, Program.run_bind, h]

theorem run_bind_error {e : Failure} (h : a.run.run host x = (.error e, y)) :
    (a >>= f).run.run host x = (.error e, y) := by
  rw [ExceptT.run_bind, Program.run_bind, h]
  rfl

theorem run_bind_eq_ok {w : β} (h : (a >>= f).run.run host x = (.ok w, y)) :
    ∃ v z, a.run.run host x = (.ok v, z) ∧ (f v).run.run host z = (.ok w, y) := by
  rcases ha : a.run.run host x with ⟨e | v, z⟩
  · rw [run_bind_error ha] at h
    cases h
  · rw [run_bind_ok ha] at h
    exact ⟨v, z, rfl, h⟩

theorem run_ask (c : Call) (x : σ) :
    (ask c).run.run host x = ((host.answer c x).1.mapError .store, (host.answer c x).2) := by
  rw [ask, ExceptT.run_mk, Program.run]
  rcases host.answer c x with ⟨_ | _, y⟩ <;> rfl

end Host

/-- What the action comes to on a store that nothing else changes, and the store after it. -/
def on (a : Action α) (s : Store) : Except Failure α × Store := Program.run Store.host a.run s

@[simp] theorem on_pure (a : α) (s : Store) : on (pure a : Action α) s = (.ok a, s) := rfl

@[simp] theorem on_throw (e : Failure) (s : Store) : on (throw e : Action α) s = (.error e, s) := rfl

theorem on_bind (a : Action α) (f : α → Action β) (s : Store) :
    on (a >>= f) s
      = match on a s with
        | (.ok x, t) => on (f x) t
        | (.error e, t) => (.error e, t) := by
  unfold on
  rw [ExceptT.run_bind, Program.run_bind]
  rcases Program.run Store.host a.run s with ⟨_ | _, t⟩ <;> rfl

theorem on_bind_ok {a : Action α} {f : α → Action β} {x : α} {t : Store} (h : on a s = (.ok x, t)) :
    on (a >>= f) s = on (f x) t := by rw [on_bind, h]

theorem on_bind_eq_ok {a : Action α} {f : α → Action β} {y : β} {u : Store}
    (h : on (a >>= f) s = (.ok y, u)) : ∃ x t, on a s = (.ok x, t) ∧ on (f x) t = (.ok y, u) :=
  run_bind_eq_ok h

theorem calls_bind (a : Action α) (f : α → Action β) (s : Store) :
    (a >>= f).run.calls s
      = a.run.calls s ++ match on a s with
        | (.ok x, t) => (f x).run.calls t
        | (.error _, _) => [] := by
  unfold on
  rw [ExceptT.run_bind, Program.calls_bind]
  rcases Program.run Store.host a.run s with ⟨_ | _, t⟩ <;> rfl

theorem run_ask_bind (c : Call) (f : c.Answer → Action β) :
    (ask c >>= f).run = .call c fun
      | .ok x => (f x).run
      | .error e => .done (.error (.store e)) := by
  refine congrArg (Program.call c) (funext fun r => ?_)
  cases r <;> rfl

/-- The calls of a sequence keep to `C` if those of its parts do, whatever errors may end it. -/
theorem makes_bind {ε : Type} {C : Call → Prop} {a : ExceptT ε Program α}
    {f : α → ExceptT ε Program β} (ha : a.run.Makes C) (hf : ∀ x, (f x).run.Makes C) :
    (a >>= f).run.Makes C := by
  rw [ExceptT.run_bind]
  refine ha.bind fun r => ?_
  cases r with
  | ok x => exact hf x
  | error e => trivial

/-- A sequence ends in `Q` if its last part does, where every early end is in `Q`. -/
theorem returns_bind {ε : Type} {Q : Except ε β → Prop} {a : ExceptT ε Program α}
    {f : α → ExceptT ε Program β} (he : ∀ e, Q (.error e)) (hf : ∀ x, (f x).run.Returns Q) :
    (a >>= f).run.Returns Q := by
  rw [ExceptT.run_bind]
  refine a.run.returns_true.bind fun r _ => ?_
  cases r with
  | ok x => exact hf x
  | error e => exact he e

theorem makes_ask {C : Call → Prop} {c : Call} (hc : C c) : (ask c).run.Makes C := by
  refine ⟨hc, fun r => ?_⟩
  cases r <;> trivial

@[simp] theorem calls_check (r : Except Failure α) (s : Store) : (check r).run.calls s = [] := rfl

@[simp] theorem on_map (f : α → β) (a : Action α) (s : Store) :
    on (f <$> a) s = ((on a s).1.map f, (on a s).2) := by
  rw [← bind_pure_comp, on_bind]
  rcases on a s with ⟨_ | _, t⟩ <;> rfl

@[simp] theorem on_check (r : Except Failure α) (s : Store) : on (check r) s = (r, s) := rfl

theorem of_on_check {r x : Except Failure α} {t : Store} (h : on (check r) s = (x, t)) :
    r = x ∧ s = t := by
  rw [on_check] at h
  cases h
  exact ⟨rfl, rfl⟩

@[simp] theorem on_note (m : Measure) (s : Store) : on (note m) s = (.ok (), s) := rfl

@[simp] theorem on_try_ (c : Call) (s : Store) :
    on (try_ c) s = (.ok (s.answer c).1, (s.answer c).2) := rfl

theorem on_ask (c : Call) (s : Store) :
    on (ask c) s = ((s.answer c).1.mapError .store, (s.answer c).2) := run_ask c s

@[simp] theorem on_find (x : EntityRef) (s : Store) :
    on (ask (.find x)) s = (.ok (s.find? x), s) := rfl

@[simp] theorem on_enabledNodes (k : Int) (s : Store) :
    on (ask (.enabledNodes k)) s = (.ok (s.enabledNodes k), s) := rfl

@[simp] theorem on_parents (x : EntityRef) (s : Store) :
    on (ask (.parents x)) s = (.ok (s.parentsOf x), s) := rfl

theorem on_findNode (n : Int) (s : Store) :
    on (findNode n) s = (.ok ((s.find? ⟨.node, n⟩).bind Record.node?), s) := rfl

theorem on_findCluster (n : Int) (s : Store) :
    on (findCluster n) s = (.ok ((s.find? ⟨.cluster, n⟩).bind Record.cluster?), s) := rfl

theorem on_findServerGroup (n : Int) (s : Store) :
    on (findServerGroup n) s = (.ok ((s.find? ⟨.serverGroup, n⟩).bind Record.serverGroup?), s) := rfl

end Action

end Fleet
