import Fleet.Proofs.Store.Sound

/-!
# Versions over runs

What any list of store calls makes of the version pair of a node. Of all calls only the marks and the
acknowledgements of the node itself change its pair, so a run of calls on a store is, for each node, a
run on its pair.
-/

namespace Fleet

variable {n : Int} {c : Call} {v : NodeVersion}

/-! ## Calls on a pair -/

/-- What the call makes of the pair of a node. -/
def Call.onVersion (n : Int) : Call → NodeVersion → NodeVersion
  | .mark m, v => if n = m then v.mark else v
  | .ack m reported, v => if n = m then v.ack reported else v
  | _, v => v

theorem Call.onVersion_cases (n : Int) (c : Call) (v : NodeVersion) :
    c = .mark n ∧ c.onVersion n v = v.mark ∨
      (∃ r, c = .ack n r ∧ c.onVersion n v = v.ack r) ∨
        c ≠ .mark n ∧ (∀ r, c ≠ .ack n r) ∧ c.onVersion n v = v := by
  cases c with
  | mark m =>
      by_cases h : n = m
      · subst h
        exact .inl ⟨rfl, if_pos rfl⟩
      · exact .inr (.inr ⟨by simpa using Ne.symm h, by simp, if_neg h⟩)
  | ack m r =>
      by_cases h : n = m
      · subst h
        exact .inr (.inl ⟨r, rfl, if_pos rfl⟩)
      · exact .inr (.inr ⟨by simp, by simpa using fun hm => absurd hm.symm h, if_neg h⟩)
  | _ => exact .inr (.inr ⟨by simp, by simp, rfl⟩)

theorem NodeVersion.isPending_iff (v : NodeVersion) :
    v.isPending = true ↔ v.applied < v.version := by
  simp [isPending]

/-- An acknowledgement of a version not reached is taken as one of the current version. -/
theorem NodeVersion.isPending_ack (v : NodeVersion) (r : Nat) :
    (v.ack r).isPending = true ↔ v.isPending = true ∧ r < v.version := by
  simp only [isPending_iff, ack]
  omega

theorem NodeVersion.isPending_mark (h : v.applied ≤ v.version) : v.mark.isPending = true := by
  simp only [isPending_iff, mark]
  omega

theorem Call.onVersion_applied_le (n : Int) (c : Call) (h : v.applied ≤ v.version) :
    (c.onVersion n v).applied ≤ (c.onVersion n v).version := by
  rcases onVersion_cases n c v with ⟨-, hv⟩ | ⟨r, -, hv⟩ | ⟨-, -, hv⟩
  · simp only [hv, NodeVersion.mark]
    omega
  · simp only [hv, NodeVersion.ack]
    omega
  · rwa [hv]

theorem Call.applied_le_onVersion (n : Int) (c : Call) (v : NodeVersion) :
    v.applied ≤ (c.onVersion n v).applied := by
  rcases onVersion_cases n c v with ⟨-, hv⟩ | ⟨r, -, hv⟩ | ⟨-, -, hv⟩
  · simp [hv, NodeVersion.mark]
  · simp [hv, NodeVersion.ack]
  · simp [hv]

theorem Call.version_onVersion (n : Int) (c : Call) (v : NodeVersion) :
    (c.onVersion n v).version = v.version + [c].count (.mark n) := by
  rcases onVersion_cases n c v with ⟨rfl, hv⟩ | ⟨r, rfl, hv⟩ | ⟨hmark, -, hv⟩
  · simp [hv, NodeVersion.mark]
  · simp [hv, NodeVersion.ack]
  · simp [hv, hmark]

/-! ## Runs on a pair -/

namespace NodeVersion

/-- The pair of a node after calls. -/
def after (n : Int) (cs : List Call) (v : NodeVersion) : NodeVersion :=
  cs.foldl (fun v c => c.onVersion n v) v

theorem after_append (cs ds : List Call) : v.after n (cs ++ ds) = (v.after n cs).after n ds :=
  List.foldl_append

theorem after_applied_le (h : v.applied ≤ v.version) (cs : List Call) :
    (v.after n cs).applied ≤ (v.after n cs).version := by
  induction cs generalizing v with
  | nil => exact h
  | cons c cs ih => exact ih (c.onVersion_applied_le n h)

theorem applied_le_after (v : NodeVersion) (cs : List Call) : v.applied ≤ (v.after n cs).applied := by
  induction cs generalizing v with
  | nil => exact le_rfl
  | cons c cs ih => exact (c.applied_le_onVersion n v).trans (ih _)

theorem version_after (v : NodeVersion) (cs : List Call) :
    (v.after n cs).version = v.version + cs.count (.mark n) := by
  induction cs generalizing v with
  | nil => rfl
  | cons c cs ih =>
      calc (v.after n (c :: cs)).version
        _ = (c.onVersion n v).version + cs.count (.mark n) := ih _
        _ = v.version + ([c].count (.mark n) + cs.count (.mark n)) := by
          rw [c.version_onVersion, Nat.add_assoc]
        _ = v.version + (c :: cs).count (.mark n) := by
          rw [← List.count_append]
          rfl

/-- Without a mark, a pair stays pending until its version is acknowledged. -/
theorem isPending_after {cs : List Call} (hcs : .mark n ∉ cs) (v : NodeVersion) :
    (v.after n cs).isPending = true ↔
      v.isPending = true ∧ ∀ r, .ack n r ∈ cs → r < v.version := by
  induction cs generalizing v with
  | nil => simp [after]
  | cons c cs ih =>
      simp only [List.mem_cons, not_or] at hcs
      have hafter : v.after n (c :: cs) = (c.onVersion n v).after n cs := rfl
      rw [hafter, ih hcs.2]
      rcases c.onVersion_cases n v with ⟨rfl, -⟩ | ⟨r, rfl, hv⟩ | ⟨-, hack, hv⟩
      · exact absurd rfl hcs.1
      -- an acknowledgement leaves the version, so the later ones are held against the same one
      · rw [hv, isPending_ack]
        simp only [List.mem_cons, Call.ack.injEq, true_and, ack]
        constructor
        · rintro ⟨⟨hpending, hr⟩, hrest⟩
          refine ⟨hpending, ?_⟩
          rintro r' (rfl | hr')
          · exact hr
          · exact hrest r' hr'
        · rintro ⟨hpending, hall⟩
          exact ⟨⟨hpending, hall r (.inl rfl)⟩, fun r' hr' => hall r' (.inr hr')⟩
      · simp [hv, fun r => (hack r).symm]

end NodeVersion

/-! ## Runs on a store -/

namespace Store

/-- The store after calls, whatever they are answered. -/
def after (s : Store) (cs : List Call) : Store := cs.foldl (fun s c => (s.answer c).2) s

theorem version_save {s t : Store} {r : Record} {id : Int} (h : s.save r = .ok (id, t)) (n : Int) :
    t.version n = s.version n := by
  unfold save at h
  split at h <;> split at h <;> cases h <;> rfl

theorem version_answer (s : Store) (c : Call) (n : Int) :
    (s.answer c).2.version n = c.onVersion n (s.version n) := by
  cases c with
  | save r =>
      simp only [answer, Call.onVersion]
      split
      · rename_i h
        exact version_save h n
      · rfl
  | updateState x state => exact version_updateState s x state n
  | mark m =>
      simp only [answer, Call.onVersion, version_mark]
      by_cases h : n = m <;> simp [h]
  | ack m r =>
      simp only [answer, Call.onVersion, version_ack]
      by_cases h : n = m <;> simp [h]
  | _ => rfl

theorem version_after (s : Store) (cs : List Call) (n : Int) :
    (s.after cs).version n = (s.version n).after n cs := by
  induction cs generalizing s with
  | nil => rfl
  | cons c cs ih =>
      have hstep := ih (s.answer c).2
      rw [version_answer] at hstep
      exact hstep

/-- After any calls on an empty store, the version of a node is the number of its marks, the applied
version is no greater, and neither is ever less later. Only marks and acknowledgements of the node change
its pair, and after a mark it is pending until its version is acknowledged. -/
theorem versions_of_run (cs : List Call) (n : Int) :
    ((empty.after cs).version n).applied ≤ ((empty.after cs).version n).version ∧
      ((empty.after cs).version n).version = cs.count (.mark n) ∧
      (∀ ds, ((empty.after cs).version n).applied ≤ ((empty.after (cs ++ ds)).version n).applied ∧
        ((empty.after cs).version n).version ≤ ((empty.after (cs ++ ds)).version n).version) ∧
      (∀ c, c ≠ .mark n → (∀ r, c ≠ .ack n r) →
        (empty.after (cs ++ [c])).version n = (empty.after cs).version n) ∧
      ∀ ds, .mark n ∉ ds →
        (((empty.after (cs ++ .mark n :: ds)).version n).isPending = true ↔
          ∀ r, .ack n r ∈ ds → r < ((empty.after (cs ++ [.mark n])).version n).version) := by
  have hempty : empty.version n = {} := rfl
  simp only [version_after, NodeVersion.after_append, hempty]
  have hle := NodeVersion.after_applied_le (n := n) (v := {}) le_rfl cs
  have hcount := NodeVersion.version_after (n := n) {} cs
  generalize NodeVersion.after n cs {} = v at hle hcount
  refine ⟨hle, by simpa using hcount, fun ds => ⟨?_, ?_⟩, fun c hmark hack => ?_, fun ds hds => ?_⟩
  · exact v.applied_le_after ds
  · simp [NodeVersion.version_after]
  · rcases c.onVersion_cases n v with ⟨h, -⟩ | ⟨r, h, -⟩ | ⟨-, -, hv⟩
    · exact absurd h hmark
    · exact absurd h (hack r)
    · exact hv
  · have hmarked : v.after n [.mark n] = v.mark := if_pos rfl
    have hafter : v.after n (.mark n :: ds) = v.mark.after n ds := by
      rw [← hmarked, ← NodeVersion.after_append]
      rfl
    rw [hafter, hmarked, NodeVersion.isPending_after hds]
    simp [NodeVersion.isPending_mark hle]

/-- An acknowledgement of a version that comes about only later does not hide it. -/
example : ((empty.after [.ack 1 5, .mark 1]).version 1).isPending = true := rfl

end Store

end Fleet
