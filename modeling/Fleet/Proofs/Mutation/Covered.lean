import Fleet.Proofs.Composition.Touched
import Fleet.Proofs.Store.Versions

/-!
# Covered writes

A write of an action is covered if whatever it touches gets a greater version from what the action
does next. When all writes are covered, no node keeps its version over a change of its config.
-/

namespace Fleet

namespace Store

variable {s t : Store} {n : Int}

theorem SameFleet.not_touched (h : s.SameFleet t) : ¬ s.Touched t n := by
  obtain ⟨v, rfl⟩ := h
  rintro ⟨c, hc, -, hne⟩
  cases hc <;> exact hne rfl

/-! ## Versions only grow -/

theorem version_le_answer (s : Store) (c : Call) (n : Int) :
    (s.version n).version ≤ ((s.answer c).2.version n).version := by
  rw [version_answer, Call.version_onVersion]
  exact Nat.le_add_right _ _

end Store

namespace Program

variable {α β : Type} {s : Store} {n : Int}

theorem version_le_run (p : Program α) (s : Store) (n : Int) :
    (s.version n).version ≤ ((p.run Store.host s).2.version n).version :=
  p.run_invariant (P := fun t => (s.version n).version ≤ (t.version n).version)
    (fun c t h => h.trans (t.version_le_answer c n)) le_rfl

theorem sound_run (p : Program α) (hs : s.Sound) : (p.run Store.host s).2.Sound :=
  p.run_invariant (P := Store.Sound) (fun c _ ht => ht.answer c) hs

/-! ## Covered programs -/

/-- If the program runs alone and ends well, it raises the version of the node. -/
def Raises (p : Program (Except Failure α)) (s : Store) (n : Int) : Prop :=
  ∀ a t, p.run Store.host s = (.ok a, t) → (s.version n).version < (t.version n).version

/-- What a call of the program touches is raised by the calls after it. -/
def Covered : Program (Except Failure α) → Store → Prop
  | .done _, _ => True
  | .note _ next, s => next.Covered s
  | .call c next, s =>
    (∀ n, s.Touched (s.answer c).2 n → (next (s.answer c).1).Raises (s.answer c).2 n) ∧
      (next (s.answer c).1).Covered (s.answer c).2

/-- A covered program that ends well raises every node whose config it changes. -/
theorem Covered.raises {p : Program (Except Failure α)} (h : p.Covered s) (hs : s.Sound) {a : α}
    {t : Store} (hrun : p.run Store.host s = (.ok a, t))
    (hne : (Action.on (fetch ⟨.node, n⟩) s).1 ≠ (Action.on (fetch ⟨.node, n⟩) t).1) :
    (s.version n).version < (t.version n).version := by
  induction p generalizing s with
  | done r =>
      cases hrun
      exact absurd rfl hne
  | note m next ih => exact ih h hs hrun hne
  | call c next ih =>
      have hs' := hs.answer c
      have hrun : (next (s.answer c).1).run Store.host (s.answer c).2 = (.ok a, t) := hrun
      refine lt_of_le_of_lt (s.version_le_answer c n) ?_
      by_cases hstep : (Action.on (fetch ⟨.node, n⟩) s).1
          = (Action.on (fetch ⟨.node, n⟩) (s.answer c).2).1
      · exact ih _ h.2 hs' hrun (hstep ▸ hne)
      · exact h.1 n (Store.touched_of_fetch_ne hs hs' hstep) a t hrun

/-- A program whose calls leave the fleet as it is has nothing to cover. -/
theorem covered_of_sameFleet {p : Program (Except Failure α)} {C : Call → Prop} (hp : p.Makes C)
    (hC : ∀ c s, C c → Store.SameFleet s (s.answer c).2) : p.Covered s := by
  induction p generalizing s with
  | done a => trivial
  | note m next ih => exact ih hp
  | call c next ih =>
      exact ⟨fun n hn => ((hC c s hp.1).not_touched hn).elim, ih _ (hp.2 _)⟩

variable {p : Program (Except Failure α)} {g : Except Failure α → Program (Except Failure β)}

theorem Raises.bind (h : p.Raises s n) (herr : ∀ e, g (.error e) = .done (.error e)) :
    (p >>= g).Raises s n := by
  intro y u hrun
  rw [run_bind] at hrun
  rcases hp : p.run Store.host s with ⟨r, t⟩
  rw [hp] at hrun
  cases r with
  | ok x =>
      have hle := (g (.ok x)).version_le_run t n
      rw [hrun] at hle
      exact lt_of_lt_of_le (h x t hp) hle
  | error e =>
      rw [herr] at hrun
      cases hrun

theorem Covered.bind (h : p.Covered s) (herr : ∀ e, g (.error e) = .done (.error e))
    (hg : ∀ x t, p.run Store.host s = (.ok x, t) → (g (.ok x)).Covered t) : (p >>= g).Covered s := by
  induction p generalizing s with
  | done r =>
      cases r with
      | ok x => exact hg x s rfl
      | error e =>
          change (g (.error e)).Covered s
          rw [herr]
          trivial
  | note m next ih => exact ih h hg
  | call c next ih => exact ⟨fun n hn => (h.1 n hn).bind herr, ih _ h.2 hg⟩

end Program

/-! ## Actions -/

namespace Action

variable {α β : Type} {s t : Store} {n : Int} {a : Action α} {f : α → Action β}

theorem version_le_of_on {r : Except Failure α} (h : on a s = (r, t)) (n : Int) :
    (s.version n).version ≤ (t.version n).version := by
  have hle := a.run.version_le_run s n
  unfold on at h
  rwa [h] at hle

theorem sound_of_on (hs : s.Sound) {r : Except Failure α} (h : on a s = (r, t)) : t.Sound := by
  have hsound := a.run.sound_run hs
  unfold on at h
  rwa [h] at hsound

theorem raises_bind (h : a.run.Raises s n) : (a >>= f).run.Raises s n :=
  Program.Raises.bind h fun _ => rfl

theorem raises_bind_right (h : ∀ x t, on a s = (.ok x, t) → (f x).run.Raises t n) :
    (a >>= f).run.Raises s n := by
  intro y u hrun
  obtain ⟨x, t, ha, hf⟩ := on_bind_eq_ok hrun
  exact lt_of_le_of_lt (version_le_of_on ha n) (h x t ha y u hf)

theorem covered_bind (ha : a.run.Covered s)
    (hf : ∀ x t, on a s = (.ok x, t) → (f x).run.Covered t) : (a >>= f).run.Covered s :=
  Program.Covered.bind ha (fun _ => rfl) hf

/-- A call and what follows it, where the call may write. -/
theorem covered_ask {c : Call} {f : c.Answer → Action β}
    (h : ∀ x, (s.answer c).1 = .ok x → (∀ n, s.Touched (s.answer c).2 n →
      (f x).run.Raises (s.answer c).2 n) ∧ (f x).run.Covered (s.answer c).2) :
    (ask c >>= f).run.Covered s := by
  rw [run_ask_bind, Program.Covered]
  cases hx : (s.answer c).1 with
  | ok x => exact h x hx
  | error e => exact ⟨fun _ _ _ _ he => (nomatch he), trivial⟩

end Action

end Fleet
