import Fleet.Proofs.Mutation.Marked

/-!
# Programs that are bound to mark

A program that is interrupted by others is answered by one store after another. It is bound to mark
a node if it does so whatever stores of a family answer its calls: a propagation is, over the stores
that differ in versions only, and that of a cluster is over all stores with the node in the cluster.
-/

namespace Fleet

namespace Program

variable {α β : Type} {F G : Store → Prop} {n : Int}

/-- Whatever stores of the family answer its calls, the program marks the node or ends badly. -/
def Marks (F : Store → Prop) (n : Int) : Program (Except Failure α) → Prop
  | .done r => ∀ a, r ≠ .ok a
  | .note _ next => next.Marks F n
  | .call c next => c = .mark n ∨ ∀ s, F s → (next (s.answer c).1).Marks F n

theorem Marks.mono {p : Program (Except Failure α)} (hp : p.Marks F n) (h : ∀ s, G s → F s) :
    p.Marks G n := by
  induction p with
  | done r => exact hp
  | note m next ih => exact ih hp
  | call c next ih => exact hp.imp_right fun hp s hs => ih _ (hp s (h s hs))

theorem Marks.bind {p : Program (Except Failure α)} {g : Except Failure α → Program (Except Failure β)}
    (hp : p.Marks F n) (herr : ∀ e, g (.error e) = .done (.error e)) : (p >>= g).Marks F n := by
  change (p.bind g).Marks F n
  induction p with
  | done r =>
      cases r with
      | ok a => exact absurd rfl (hp a)
      | error e =>
          simp only [Program.bind, herr]
          intro a ha
          cases ha
  | note m next ih => exact ih hp
  | call c next ih => exact hp.imp_right fun hp s hs => ih _ (hp s hs)

theorem Marks.bind_right {p : Program (Except Failure α)}
    {g : Except Failure α → Program (Except Failure β)}
    (herr : ∀ e, g (.error e) = .done (.error e)) (hg : ∀ a, (g (.ok a)).Marks F n) :
    (p >>= g).Marks F n := by
  change (p.bind g).Marks F n
  induction p with
  | done r =>
      cases r with
      | ok a => exact hg a
      | error e =>
          simp only [Program.bind, herr]
          intro a ha
          cases ha
  | note m next ih => exact ih
  | call c next ih => exact .inr fun s _ => ih _

/-- Reads that all stores with one fleet answer alike lead where they lead on one of them. -/
theorem Marks.bind_reads {u : Store} {p : Program (Except Failure α)}
    {g : Except Failure α → Program (Except Failure β)} (hp : p.Makes Call.Walks)
    (hg : (g (p.run Store.host u).1).Marks u.SameFleet n) : (p >>= g).Marks u.SameFleet n := by
  change (p.bind g).Marks u.SameFleet n
  induction p with
  | done r => exact hg
  | note m next ih => exact ih hp hg
  | call c next ih =>
      refine .inr fun s hs => ?_
      have hanswer : (s.answer c).1 = (u.answer c).1 ∧ (u.answer c).2 = u := by
        obtain ⟨v, rfl⟩ := hs
        have hc := hp.1
        cases c <;> first | exact ⟨rfl, rfl⟩ | exact hc.elim
      have hg : (g ((next (u.answer c).1).run Store.host (u.answer c).2).1).Marks u.SameFleet n := hg
      rw [hanswer.2] at hg
      rw [hanswer.1]
      exact ih _ (hp.2 _) hg

end Program

namespace Action

variable {α β : Type} {F : Store → Prop} {n : Int} {a : Action α} {f : α → Action β}

theorem marks_bind (h : a.run.Marks F n) : (a >>= f).run.Marks F n :=
  h.bind fun _ => rfl

theorem marks_bind_right (h : ∀ x, (f x).run.Marks F n) : (a >>= f).run.Marks F n :=
  .bind_right (fun _ => rfl) h

theorem marks_bind_reads {u : Store} {x : α} (ha : a.run.Makes Call.Walks)
    (hx : on a u = (.ok x, u)) (h : (f x).run.Marks u.SameFleet n) :
    (a >>= f).run.Marks u.SameFleet n := by
  rw [ExceptT.run_bind]
  refine .bind_reads ha ?_
  unfold on at hx
  rw [hx]
  exact h

theorem marks_markAll {l : List Int} (h : n ∈ l) (report : Report) (error : Option StoreError) :
    (markAll l report error).run.Marks F n := by
  induction l generalizing report error with
  | nil => cases h
  | cons m l ih =>
      by_cases hm : n = m
      · subst hm
        exact .inl rfl
      · have hl : n ∈ l := (List.mem_cons.1 h).resolve_left hm
        exact .inr fun s _ => ih hl _ _

/-- A propagation marks what it finds above the entity. -/
theorem marks_notify {u : Store} (hu : u.Sound) {x : EntityRef} (h : u.Reaches x n) :
    (notify x).run.Marks u.SameFleet n := by
  obtain ⟨nodes, hnodes, hreach⟩ := on_affectedNodes hu x
  refine marks_bind_right fun _ => marks_bind_reads (makes_affectedNodes x) hnodes ?_
  exact marks_bind (marks_markAll ((hreach n).2 h) _ _)

theorem affectedNodes_cluster_run (k : Int) :
    (affectedNodes ⟨.cluster, k⟩).run = .call (.enabledNodes k) fun
      | .ok nodes => .done (.ok (nodes.foldl OrdSet.add .empty))
      | .error e => .done (.error (.store e)) := by
  refine congrArg (Program.call _) (funext fun r => ?_)
  cases r <;> rfl

/-- The propagation of a cluster needs no more than the node in the cluster. -/
theorem marks_notify_cluster {k : Int} (h : ∀ s, F s → n ∈ s.enabledNodes k) :
    (notify ⟨.cluster, k⟩).run.Marks F n := by
  refine marks_bind_right fun _ => ?_
  rw [ExceptT.run_bind, affectedNodes_cluster_run]
  refine .inr fun s hs => marks_bind (marks_markAll ?_ _ _)
  exact OrdSet.mem_foldl_add.2 (.inr (h s hs))

/-! ## After the save of a server -/

theorem marks_notifyServer {u : Store} (hu : u.Sound) {id : Int} (previous : Option Int)
    (clusterId : Int) (h : u.Reaches ⟨.server, id⟩ n) :
    (notifyServer previous clusterId id).run.Marks u.SameFleet n :=
  marks_bind (marks_bind (marks_notify hu h))

/-- The nodes of the cluster that the server is known to have left. -/
theorem marks_notifyServer_left {old clusterId : Int} (id : Int) (hpos : 0 < old)
    (hne : old ≠ clusterId) (h : ∀ s, F s → n ∈ s.enabledNodes old) :
    (notifyServer (some old) clusterId id).run.Marks F n := by
  refine marks_bind_right fun o => ?_
  have hmoved : (0 < old && old ≠ clusterId : Bool) = true := by
    simp only [Bool.and_eq_true, decide_eq_true_eq]
    exact ⟨hpos, hne⟩
  dsimp only
  rw [if_pos hmoved]
  exact marks_bind (marks_notify_cluster h)

end Action

end Fleet
