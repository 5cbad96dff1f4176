import Fleet.Proofs.Program
import Fleet.Proofs.Store.Sound
import Fleet.Propagation

/-!
# What a propagation reaches

On a sound store the walk visits, in as many rounds as there are kinds on a way upwards, everything
above the changed entity, so a propagation marks exactly the nodes that the entity reaches.
-/

namespace Fleet

namespace Store

/-! ## The way upwards -/

/-- The nodes that a visit of an entity adds. -/
def direct (s : Store) (x : EntityRef) : List Int :=
  match x.kind with
  | .node => if (s.find? x).isSome then [x.id] else []
  | .cluster => s.enabledNodes x.id
  | _ => []

/-- The entities that a visit of an entity leads to. -/
def above (s : Store) (x : EntityRef) : List EntityRef :=
  match x.kind with
  | .node | .cluster => []
  | _ => s.parentsOf x

/-- A change of the entity concerns the node. -/
inductive Reaches (s : Store) : EntityRef → Int → Prop where
  | here {x : EntityRef} {n : Int} : n ∈ s.direct x → Reaches s x n
  | above {x p : EntityRef} {n : Int} : p ∈ s.above x → Reaches s p n → Reaches s x n

theorem height_lt_of_mem_above {s : Store} (hs : s.Sound) {x p : EntityRef} (h : p ∈ s.above x) :
    p.kind.height < x.kind.height := by
  have hp : p ∈ s.parentsOf x := by
    unfold Store.above at h
    split at h
    · cases h
    · cases h
    · exact h
  obtain ⟨⟨_, r, _, he⟩, _⟩ := (mem_parentsOf hs).1 hp
  exact Record.height_lt_of_mem_edges he

end Store

theorem Kind.height_pos (k : Kind) : 0 < k.height := by cases k <;> decide

theorem Kind.height_le (k : Kind) : k.height ≤ longestWay := by cases k <;> decide

/-! ## The walk -/

namespace Walk

variable {s : Store}

/-- What visits of `xs` make of a walk. -/
structure Visited (s : Store) (xs : List EntityRef) (w w' : Walk) : Prop where
  nodes : ∀ n, n ∈ w'.nodes ↔ n ∈ w.nodes ∨ ∃ x ∈ xs, n ∈ s.direct x
  seen : ∀ y, y ∈ w'.seen ↔ y ∈ w.seen ∨ ∃ x ∈ xs, y ∈ s.above x
  next : ∀ y, y ∈ w'.next ↔ y ∈ w.next ∨ (∃ x ∈ xs, y ∈ s.above x) ∧ ¬ y ∈ w.seen

theorem Visited.refl (w : Walk) : Visited s [] w w := by
  constructor <;> simp

theorem Visited.cons {x : EntityRef} {xs : List EntityRef} {w w' w'' : Walk}
    (h : Visited s [x] w w') (h' : Visited s xs w' w'') : Visited s (x :: xs) w w'' := by
  constructor
  · intro n
    rw [h'.nodes, h.nodes]
    simp only [List.mem_cons, exists_eq_or_imp, List.not_mem_nil, or_false, exists_eq_left]
    tauto
  · intro y
    rw [h'.seen, h.seen]
    simp only [List.mem_cons, exists_eq_or_imp, List.not_mem_nil, or_false, exists_eq_left]
    tauto
  · intro y
    rw [h'.next, h.next, h.seen]
    simp only [List.mem_cons, exists_eq_or_imp, List.not_mem_nil, or_false, exists_eq_left]
    tauto

theorem mem_seen_foldl_meet {ps : List EntityRef} {w : Walk} {y : EntityRef} :
    y ∈ (ps.foldl meet w).seen ↔ y ∈ w.seen ∨ y ∈ ps := by
  induction ps generalizing w with
  | nil => simp
  | cons p ps ih =>
      rw [List.foldl_cons, ih, meet]
      by_cases hp : w.seen.contains p = true
      · have := OrdSet.contains_iff.1 hp
        simp only [hp, if_true, List.mem_cons]
        grind
      · simp only [hp, List.mem_cons]
        grind [OrdSet.mem_add]

theorem mem_next_foldl_meet {ps : List EntityRef} {w : Walk} {y : EntityRef} :
    y ∈ (ps.foldl meet w).next ↔ y ∈ w.next ∨ y ∈ ps ∧ ¬ y ∈ w.seen := by
  induction ps generalizing w with
  | nil => simp
  | cons p ps ih =>
      rw [List.foldl_cons, ih, meet]
      by_cases hp : w.seen.contains p = true
      · have := OrdSet.contains_iff.1 hp
        simp only [hp, if_true, List.mem_cons]
        grind
      · have : ¬ p ∈ w.seen := fun h => hp (OrdSet.contains_iff.2 h)
        simp only [hp, List.mem_cons]
        grind [OrdSet.mem_add]

theorem nodes_foldl_meet (ps : List EntityRef) (w : Walk) : (ps.foldl meet w).nodes = w.nodes := by
  induction ps generalizing w with
  | nil => rfl
  | cons p ps ih =>
      rw [List.foldl_cons, ih, meet]
      split <;> rfl

open Fleet.Action

theorem on_visit (hs : s.Sound) (w : Walk) (x : EntityRef) :
    ∃ w', on (w.visit x) s = (.ok w', s) ∧ Visited s [x] w w' := by
  obtain ⟨k, id⟩ := x
  cases k with
  | node =>
      cases hf : s.find? ⟨.node, id⟩ with
      | none =>
          refine ⟨w, by simp [visit, on_bind, on_findNode, hf], ?_⟩
          constructor <;> simp [Store.direct, Store.above, hf]
      | some r =>
          obtain ⟨a, rfl⟩ := hs.find?_node hf
          refine ⟨{ w with nodes := w.nodes.add id },
            by simp [visit, on_bind, on_findNode, hf, Record.node?], ?_⟩
          constructor <;> simp [Store.direct, Store.above, hf, or_comm]
  | cluster =>
      refine ⟨{ w with nodes := (s.enabledNodes id).foldl OrdSet.add w.nodes }, rfl, ?_⟩
      constructor <;> simp [Store.direct, Store.above, OrdSet.mem_foldl_add]
  | server | serverGroup | reverseProxy | origin =>
      refine ⟨(s.parentsOf ⟨_, id⟩).foldl meet w, rfl, ?_⟩
      constructor <;> simp [Store.direct, Store.above, nodes_foldl_meet, mem_seen_foldl_meet,
        mem_next_foldl_meet]

theorem on_foldlM_visit (hs : s.Sound) (xs : List EntityRef) (w : Walk) :
    ∃ w', on (xs.foldlM visit w) s = (.ok w', s) ∧ Visited s xs w w' := by
  induction xs generalizing w with
  | nil => exact ⟨w, rfl, .refl w⟩
  | cons x xs ih =>
      obtain ⟨w₁, h₁, hv₁⟩ := on_visit hs w x
      obtain ⟨w₂, h₂, hv₂⟩ := ih w₁
      refine ⟨w₂, ?_, hv₁.cons hv₂⟩
      rw [List.foldlM_cons, on_bind_ok h₁, h₂]

/-- Where a walk from `x` stands before a round: all that was met is either in the round or was
visited, and what it collected is reached from `x`. -/
structure Underway (s : Store) (x : EntityRef) (round : List EntityRef) (w : Walk) : Prop where
  start : x ∈ w.seen
  met : ∀ y ∈ round, y ∈ w.seen
  visited : ∀ y ∈ w.seen, y ∈ round ∨
    (∀ n ∈ s.direct y, n ∈ w.nodes) ∧ ∀ p ∈ s.above y, p ∈ w.seen
  nodes : ∀ n ∈ w.nodes, s.Reaches x n
  seen : ∀ y ∈ w.seen, ∀ n, s.Reaches y n → s.Reaches x n

theorem Underway.step {x : EntityRef} {round : List EntityRef} {w w' : Walk}
    (h : Underway s x round w) (hv : Visited s round { w with next := [] } w') :
    Underway s x w'.next w' where
  start := (hv.seen _).2 (.inl h.start)
  met y hy := by
    have := (hv.next y).1 hy
    simp only [List.not_mem_nil, false_or] at this
    exact (hv.seen y).2 (.inr this.1)
  visited y hy := by
    have hdone : ∀ y ∈ w.seen,
        (∀ n ∈ s.direct y, n ∈ w'.nodes) ∧ ∀ p ∈ s.above y, p ∈ w'.seen := by
      intro y hy
      rcases h.visited y hy with hr | ⟨hn, ha⟩
      · exact ⟨fun n hn => (hv.nodes n).2 (.inr ⟨y, hr, hn⟩),
          fun p hp => (hv.seen p).2 (.inr ⟨y, hr, hp⟩)⟩
      · exact ⟨fun n hd => (hv.nodes n).2 (.inl (hn n hd)),
          fun p hp => (hv.seen p).2 (.inl (ha p hp))⟩
    by_cases hseen : y ∈ w.seen
    · exact .inr (hdone y hseen)
    · exact .inl ((hv.next y).2 (.inr ⟨((hv.seen y).1 hy).resolve_left hseen, hseen⟩))
  nodes n hn := by
    rcases (hv.nodes n).1 hn with hn | ⟨y, hy, hn⟩
    · exact h.nodes n hn
    · exact h.seen y (h.met y hy) n (.here hn)
  seen y hy n hn := by
    rcases (hv.seen y).1 hy with hy | ⟨z, hz, hy⟩
    · exact h.seen y hy n hn
    · exact h.seen z (h.met z hz) n (.above hy hn)

/-- A walk with nothing left to visit has collected all that is reached. -/
theorem Underway.mem_nodes {x y : EntityRef} {w : Walk} (h : Underway s x [] w) (hy : y ∈ w.seen)
    {n : Int} (hn : s.Reaches y n) : n ∈ w.nodes := by
  induction hn with
  | here hd => exact ((h.visited _ hy).resolve_left (by simp)).1 _ hd
  | above hp _ ih => exact ih (((h.visited _ hy).resolve_left (by simp)).2 _ hp)

/-- Every round leads further up, so as many rounds as the height of what is left see it all. -/
theorem on_rounds (hs : s.Sound) {x : EntityRef} {k : Nat} {round : List EntityRef} {w : Walk}
    (h : Underway s x round w) (hk : ∀ y ∈ round, y.kind.height ≤ k) :
    ∃ w', on (rounds k round w) s = (.ok w', s) ∧ ∀ n, n ∈ w'.nodes ↔ s.Reaches x n := by
  induction k generalizing round w with
  | zero =>
      have hround : round = [] := List.eq_nil_iff_forall_not_mem.2 fun y hy => by
        have := hk y hy
        have := y.kind.height_pos
        omega
      subst hround
      exact ⟨w, rfl, fun n => ⟨h.nodes n, h.mem_nodes h.start⟩⟩
  | succ k ih =>
      obtain ⟨w', hw', hv⟩ := on_foldlM_visit hs round { w with next := [] }
      have hnext : ∀ y ∈ w'.next, y.kind.height ≤ k := by
        intro y hy
        have := (hv.next y).1 hy
        simp only [List.not_mem_nil, false_or] at this
        obtain ⟨⟨z, hz, hy⟩, _⟩ := this
        have := Store.height_lt_of_mem_above hs hy
        have := hk z hz
        omega
      obtain ⟨w'', hw'', hn⟩ := ih (h.step hv) hnext
      refine ⟨w'', ?_, hn⟩
      rw [rounds, on_bind_ok hw', hw'']

end Walk

open Fleet.Action

theorem on_affectedNodes {s : Store} (hs : s.Sound) (x : EntityRef) :
    ∃ nodes, on (affectedNodes x) s = (.ok nodes, s) ∧ ∀ n, n ∈ nodes ↔ s.Reaches x n := by
  have hstart : Walk.Underway s x [x] { seen := OrdSet.ofList [x] } := by
    constructor <;> simp
  obtain ⟨w, hw, hn⟩ := Walk.on_rounds hs hstart (k := longestWay) (by simp [Kind.height_le])
  exact ⟨w.nodes, by rw [affectedNodes, on_bind_ok hw, on_pure], hn⟩

/-! ## Marks -/

theorem on_markAll (s : Store) (l : List Int) (report : Report) (error : Option StoreError) :
    on (markAll l report error) s
      = (.ok ({ report with marked := l.foldl OrdSet.add report.marked }, error),
          l.foldl Store.mark s) := by
  induction l generalizing s report with
  | nil => rfl
  | cons n l ih =>
      rw [markAll, on_bind, on_try_]
      simp only [Store.answer, List.foldl_cons]
      rw [ih]

namespace Store

/-- The stores differ in versions only. -/
def SameFleet (s t : Store) : Prop := ∃ v, t = { s with versions := v }

/-- The nodes of the set have got a greater version, the others have kept theirs; what was applied
stays. -/
structure Raised (s t : Store) (nodes : OrdSet Int) : Prop where
  raised : ∀ n ∈ nodes, (s.version n).version < (t.version n).version
  kept : ∀ n, ¬ n ∈ nodes → (t.version n).version = (s.version n).version
  applied : ∀ n, (t.version n).applied = (s.version n).applied

variable {s t u : Store}

theorem SameFleet.refl (s : Store) : s.SameFleet s := ⟨s.versions, rfl⟩

theorem SameFleet.trans (h : s.SameFleet t) (h' : t.SameFleet u) : s.SameFleet u := by
  obtain ⟨v, rfl⟩ := h
  obtain ⟨v', rfl⟩ := h'
  exact ⟨v', rfl⟩

theorem SameFleet.symm (h : s.SameFleet t) : t.SameFleet s := by
  obtain ⟨v, rfl⟩ := h
  exact ⟨s.versions, rfl⟩

theorem SameFleet.find?_eq (h : s.SameFleet t) (x : EntityRef) : t.find? x = s.find? x := by
  obtain ⟨v, rfl⟩ := h
  rfl

theorem SameFleet.nextId_eq (h : s.SameFleet t) : t.nextId = s.nextId := by
  obtain ⟨v, rfl⟩ := h
  rfl

theorem SameFleet.reaches (h : s.SameFleet t) {x : EntityRef} {n : Int} (hx : s.Reaches x n) :
    t.Reaches x n := by
  obtain ⟨v, rfl⟩ := h
  induction hx with
  | here hn => exact .here hn
  | above hp _ ih => exact .above hp ih

theorem Raised.refl (s : Store) : s.Raised s .empty where
  raised n hn := absurd hn (OrdSet.not_mem_empty n)
  kept _ _ := rfl
  applied _ := rfl

theorem Raised.le {nodes : OrdSet Int} (h : s.Raised t nodes) (n : Int) :
    (s.version n).version ≤ (t.version n).version := by
  by_cases hn : n ∈ nodes
  · exact (h.raised n hn).le
  · rw [h.kept n hn]

theorem Raised.mem_iff {nodes : OrdSet Int} (h : s.Raised t nodes) (n : Int) :
    n ∈ nodes ↔ (s.version n).version < (t.version n).version := by
  refine ⟨h.raised n, fun hlt => by_contra fun hn => ?_⟩
  rw [h.kept n hn] at hlt
  exact lt_irrefl _ hlt

theorem Raised.trans {a b : OrdSet Int} (h : s.Raised t a) (h' : t.Raised u b) :
    s.Raised u (a.union b) where
  raised n hn := by
    rcases OrdSet.mem_union.1 hn with hn | hn
    · exact lt_of_lt_of_le (h.raised n hn) (h'.le n)
    · exact lt_of_le_of_lt (h.le n) (h'.raised n hn)
  kept n hn := by
    rw [OrdSet.mem_union, not_or] at hn
    rw [h'.kept n hn.2, h.kept n hn.1]
  applied n := (h'.applied n).trans (h.applied n)

theorem Raised.congr_left {a : OrdSet Int} (h : t.Raised u a) (hv : ∀ n, t.version n = s.version n) :
    s.Raised u a where
  raised n hn := hv n ▸ h.raised n hn
  kept n hn := hv n ▸ h.kept n hn
  applied n := hv n ▸ h.applied n

theorem sameFleet_foldl_mark (s : Store) (l : List Int) : s.SameFleet (l.foldl mark s) := by
  induction l generalizing s with
  | nil => exact .refl s
  | cons n l ih => exact SameFleet.trans ⟨_, rfl⟩ (ih (s.mark n))

theorem sound_foldl_mark (hs : s.Sound) (l : List Int) : (l.foldl mark s).Sound := by
  induction l generalizing s with
  | nil => exact hs
  | cons n l ih => exact ih (hs.mark n)

/-- A mark of every node of a list raises those nodes. -/
theorem raised_foldl_mark (s : Store) (l : List Int) :
    s.Raised (l.foldl mark s) (OrdSet.ofList l) := by
  induction l generalizing s with
  | nil => exact .refl s
  | cons m l ih =>
      obtain ⟨hr, hk, ha⟩ := ih (s.mark m)
      have hm (n : Int) : (s.version n).version ≤ ((s.mark m).version n).version := by
        rw [version_mark]
        split
        · rename_i h
          rw [h]
          exact Nat.le_succ _
        · rfl
      constructor
      · intro n hn
        by_cases hl : n ∈ OrdSet.ofList l
        · exact lt_of_le_of_lt (hm n) (hr n hl)
        · have hnm : n = m := by simpa [OrdSet.mem_ofList] using
            (List.mem_cons.1 (OrdSet.mem_ofList.1 hn)).resolve_right (by simpa using hl)
          rw [List.foldl_cons, hk n hl, version_mark, if_pos hnm, hnm]
          exact Nat.lt_succ_self _
      · intro n hn
        simp only [OrdSet.mem_ofList, List.mem_cons, not_or] at hn
        rw [List.foldl_cons, hk n (by simpa using hn.2), version_mark, if_neg hn.1]
      · intro n
        rw [List.foldl_cons, ha n, version_mark]
        split
        · rename_i h
          rw [h]
          rfl
        · rfl

end Store

/-- A propagation marks what the entity reaches, each node once, and nothing else happens. -/
theorem on_notify {s : Store} (hs : s.Sound) {x : EntityRef} (hx : 0 < x.id) :
    ∃ report t, on (notify x) s = (.ok report, t) ∧ (∀ n, n ∈ report.marked ↔ s.Reaches x n) ∧
      s.SameFleet t ∧ t.Sound ∧ s.Raised t report.marked := by
  obtain ⟨nodes, hn, hreach⟩ := on_affectedNodes hs x
  have hid : requireId "id" x.id = .ok () := by rw [requireId, if_neg (by omega)]
  have hmarked (n : Int) : n ∈ nodes.toList.foldl OrdSet.add OrdMap.empty ↔ n ∈ nodes := by
    rw [OrdSet.mem_foldl_add, OrdSet.mem_toList]
    simp
  refine ⟨{ marked := nodes.toList.foldl OrdSet.add OrdMap.empty }, nodes.toList.foldl Store.mark s,
    ?_, fun n => (hmarked n).trans (hreach n), Store.sameFleet_foldl_mark s _,
    Store.sound_foldl_mark hs _, Store.raised_foldl_mark s _⟩
  have hcheck : on (check (requireId "id" x.id)) s = (.ok (), s) := by rw [on_check, hid]
  rw [notify, on_bind_ok hcheck, on_bind_ok hn, on_bind_ok (on_markAll ..)]
  rfl

end Fleet
