import Fleet.Proofs.Program

/-!
# Counters

What measures make of a counter, and runs of a program on a store whose measures are recorded.
-/

namespace Fleet

/-- By how much the measure raises the counter. -/
def Measure.raises (c : Counter) : Measure → Nat
  | .count c' n => if c' = c then n else 0
  | _ => 0

namespace Metrics

section

variable {κ : Type} [DecidableEq κ]

theorem getD_lookup_cons (k k' : κ) (m : Nat) (l : List (κ × Nat)) :
    (((k', m) :: l).lookup k).getD 0 = if k' = k then m else (l.lookup k).getD 0 := by
  by_cases h : k' = k
  · simp [h]
  · have hbeq : (k == k') = false := beq_false_of_ne (Ne.symm h)
    simp [List.lookup_cons, h, hbeq]

theorem getD_lookup_raise (k k' : κ) (n : Nat) (l : List (κ × Nat)) :
    ((raise k' n l).lookup k).getD 0 = (l.lookup k).getD 0 + if k' = k then n else 0 := by
  induction l with
  | nil => simp [raise, getD_lookup_cons]
  | cons e l ih =>
      obtain ⟨k₀, m⟩ := e
      rw [raise]
      split
      · rename_i h
        subst h
        simp only [getD_lookup_cons]
        split <;> rfl
      · rename_i h
        simp only [getD_lookup_cons, ih]
        by_cases hk : k₀ = k
        · have hne : ¬ k' = k := fun hk' => h (hk.trans hk'.symm)
          simp [hk, hne]
        · simp [hk]

end

theorem counter_record (m : Metrics) (e : Measure) (c : Counter) :
    (m.record e).counter c = m.counter c + e.raises c := by
  cases e with
  | count c' n => exact getD_lookup_raise c c' n m.counters
  | composeTime _ | pendingNodes _ => rfl

end Metrics

/-- A store that answers for itself, with all that was measured. -/
def Store.metered : Program.Host (Store × Metrics) where
  answer c x := ((x.1.answer c).1, (x.1.answer c).2, x.2)
  hear e x := (x.1, x.2.record e)

end Fleet
