import Fleet.Proofs.Mutation.Basic
import Mathlib.Logic.Relation

/-!
# Ids

Explicit ids and assigned ones come from one counter, which stands above every stored id of every kind
and never goes back: an assigned id is new among all that are stored and all that were ever returned.
-/

namespace Fleet

open Text

variable {s t : Store} {r : Record} {id : Int}

/-! ## One save -/

namespace Store

/-- A save that fails leaves the store as it was. -/
theorem eq_of_save_error {e : StoreError} (h : s.answer (.save r) = (.error e, t)) : t = s := by
  simp only [answer] at h
  split at h
  · cases h
  · cases h
    rfl

theorem save_of_answer (h : s.answer (.save r) = (.ok id, t)) : s.save r = .ok (id, t) := by
  simp only [answer] at h
  split at h
  · cases h
    assumption
  · cases h

/-- The counter is past the id that a save returns, and not behind where it was. -/
theorem nextId_save (h : s.save r = .ok (id, t)) : id < t.nextId ∧ s.nextId ≤ t.nextId := by
  unfold save at h
  split at h
  · split at h
    · cases h
      exact ⟨Int.lt_succ _, (Int.lt_succ _).le⟩
    · cases h
  · split at h
    · cases h
      exact ⟨lt_of_lt_of_le (Int.lt_succ _) (le_max_right _ _), le_max_left _ _⟩
    · cases h

/-! ## Runs -/

theorem nextId_le_answer (s : Store) (c : Call) : s.nextId ≤ (s.answer c).2.nextId := by
  cases c with
  | save r =>
      simp only [answer]
      split
      · rename_i h
        exact (nextId_save h).2
      · exact le_rfl
  | updateState x state => simp [answer]
  | _ => exact le_rfl

theorem nextId_le_saveAll (s : Store) (rs : List Record) : s.nextId ≤ (s.saveAll rs).2.nextId := by
  induction rs generalizing s with
  | nil => exact le_rfl
  | cons r rs ih =>
      unfold saveAll
      split
      · rename_i h
        exact (nextId_save h).2.trans (ih _)
      · exact le_rfl

theorem nextId_le_run {α : Type} (p : Program α) (s : Store) :
    s.nextId ≤ (p.run host s).2.nextId :=
  p.run_invariant (P := fun t => s.nextId ≤ t.nextId)
    (fun c t h => h.trans (t.nextId_le_answer c)) le_rfl

/-- One seed, call or mutation. -/
inductive Advances (s : Store) : Store → Prop where
  | seed (seed : Seed) : s.Advances (s.loadSeed seed).2
  | call (c : Call) : s.Advances (s.answer c).2
  | mutation (m : Mutation) : s.Advances (m.action.on s).2

theorem Advances.nextId_le (h : s.Advances t) : s.nextId ≤ t.nextId := by
  cases h with
  | seed seed => exact s.nextId_le_saveAll seed.records
  | call c => exact s.nextId_le_answer c
  | mutation m => exact nextId_le_run m.action.run s

theorem nextId_le_of_advances (h : Relation.ReflTransGen Advances s t) : s.nextId ≤ t.nextId := by
  induction h with
  | refl => exact le_rfl
  | tail _ hstep ih => exact ih.trans hstep.nextId_le

/-- A save returned the id, and the store came about after it. -/
def Returned (s : Store) (id : Int) : Prop :=
  ∃ (before : Store) (r : Record) (after : Store),
    before.answer (.save r) = (.ok id, after) ∧ Relation.ReflTransGen Advances after s

theorem Returned.lt_nextId (h : s.Returned id) : id < s.nextId := by
  obtain ⟨before, r, after, hok, hlater⟩ := h
  exact lt_of_lt_of_le (nextId_save (save_of_answer hok)).1 (nextId_le_of_advances hlater)

/-- In every store that comes about, each record stands under its own id, between 1 and the greatest
storable id and below the next free one. A save that fails changes nothing; one that does not stores its
record, and only that; and an id that it assigns is of no stored record, of any kind, and greater than
each id that a save returned before. -/
theorem ids_of_reachable (h : s.Reachable) :
    (∀ x r, s.find? x = some r →
      r.ref = x ∧ 1 ≤ x.id ∧ x.id ≤ maxInt64 - 1 ∧ x.id < s.nextId) ∧
      (∀ r e t, s.answer (.save r) = (.error e, t) → t = s) ∧
      ∀ (r : Record) (id : Int) (t : Store), s.answer (.save r) = (.ok id, t) →
        (∀ y, t.find? y = if y = ⟨r.kind, id⟩ then some (r.withId id) else s.find? y) ∧
          (r.id ≤ 0 → (∀ k, s.find? ⟨k, id⟩ = none) ∧ ∀ i, s.Returned i → i < id) := by
  have hs := h.sound
  refine ⟨fun x r hr => ?_, fun r e t he => eq_of_save_error he, fun r id t hok => ?_⟩
  · have hpos := hs.positive hr
    have hlt := hs.fresh hr
    have hmax := hs.nextId_le
    exact ⟨hs.own hr, by omega, by omega, hlt⟩
  · have hsave := save_of_answer hok
    refine ⟨find?_save hs hsave, fun hid => ?_⟩
    obtain ⟨_, -, -, -, -, -, -, hassigned⟩ := save_cases hs hsave
    obtain rfl : id = s.nextId := hassigned hid
    exact ⟨hs.find?_nextId, fun i hi => hi.lt_nextId⟩

/-- A cluster with an assigned id, then a node with an id of its own. -/
def numbered : Store :=
  ((empty.answer (.save (.cluster { id := -3 }))).2.answer (.save (.node { id := 7 }))).2

/-- The next id that is assigned is 8. -/
theorem ids_of_reachable_numbered :
    numbered.Reachable ∧
      (∀ x r, numbered.find? x = some r →
        r.ref = x ∧ 1 ≤ x.id ∧ x.id ≤ maxInt64 - 1 ∧ x.id < numbered.nextId) ∧
      (numbered.answer (.save (.origin {}))).1 = .ok (8 : Int) ∧
      (∀ k, numbered.find? ⟨k, 8⟩ = none) ∧ numbered.Returned 7 ∧ (7 : Int) < 8 := by
  have hreach : numbered.Reachable := .call _ (.call _ .empty)
  have hok : (numbered.answer (.save (.origin {}))).1 = .ok (8 : Int) := rfl
  have hreturned : numbered.Returned 7 := ⟨_, .node { id := 7 }, _, rfl, .refl⟩
  obtain ⟨hids, -, hsaved⟩ := ids_of_reachable hreach
  obtain ⟨-, hassigned⟩ := hsaved _ 8 _ (Prod.ext hok rfl)
  obtain ⟨hnone, hgreater⟩ := hassigned le_rfl
  exact ⟨hreach, hids, hok, hnone, hreturned, hgreater 7 hreturned⟩

end Store

end Fleet
