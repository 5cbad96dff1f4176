import Fleet.Proofs.Mutation.Basic
import Mathlib.Logic.Relation

/-!
# The walk upwards

The rounds of a walk are bounded. Without the bound, the entity that was met first is visited first,
until nothing is left to visit; on a sound store this ends, and the bounded walk is the same walk. It
collects the enabled nodes of the clusters to which the edges of the stored records lead.
-/

namespace Fleet

open Fleet.Action Relation

variable {s : Store} {x y : EntityRef} {n : Int}

/-! ## The walk without a bound -/

namespace Walk

variable {w w' z : Walk}

/-- The walk goes on until nothing is left to visit, what was met first being visited first. -/
inductive Drains (s : Store) : Walk → Walk → Prop where
  | done {w : Walk} (h : w.next = []) : Drains s w w
  | visit {w w' z : Walk} {x : EntityRef} {rest : List EntityRef} (hnext : w.next = x :: rest)
      (hvisit : on (visit { w with next := rest } x) s = (.ok w', s)) (hrest : Drains s w' z) :
      Drains s w z

/-- A walk comes to one end only. -/
theorem Drains.unique (h : Drains s w z) (h' : Drains s w w') : z = w' := by
  induction h with
  | done hnext =>
      cases h' with
      | done _ => rfl
      | visit hnext' _ _ => exact absurd (hnext.symm.trans hnext') (by simp)
  | visit hnext hvisit _ ih =>
      cases h' with
      | done hnext' => exact absurd (hnext'.symm.trans hnext) (by simp)
      | visit hnext' hvisit' hrest' =>
          obtain ⟨rfl, rfl⟩ := List.cons.inj (hnext.symm.trans hnext')
          rw [hvisit] at hvisit'
          cases hvisit'
          exact ih hrest'

/-- The walk with more to visit before what it has met. -/
def queued (xs : List EntityRef) (w : Walk) : Walk := { w with next := xs ++ w.next }

theorem meet_queued (xs : List EntityRef) (w : Walk) (p : EntityRef) :
    (w.queued xs).meet p = (w.meet p).queued xs := by
  unfold meet queued
  split
  · rfl
  · simp only [List.append_assoc]

theorem foldl_meet_queued (xs ps : List EntityRef) (w : Walk) :
    ps.foldl meet (w.queued xs) = (ps.foldl meet w).queued xs := by
  induction ps generalizing w with
  | nil => rfl
  | cons p ps ih => rw [List.foldl_cons, List.foldl_cons, meet_queued, ih]

/-- A visit does not look at what is left to visit. -/
theorem on_visit_queued (h : on (w.visit x) s = (.ok w', s)) (xs : List EntityRef) :
    on ((w.queued xs).visit x) s = (.ok (w'.queued xs), s) := by
  obtain ⟨k, id⟩ := x
  cases k with
  | node =>
      simp only [visit, on_bind, on_findNode] at h ⊢
      cases hf : (s.find? ⟨.node, id⟩).bind Record.node? with
      | none =>
          rw [hf] at h
          cases h
          rfl
      | some a =>
          rw [hf] at h
          cases h
          rfl
  | cluster =>
      cases h
      rfl
  | server | serverGroup | reverseProxy | origin =>
      cases h
      exact Prod.ext (congrArg Except.ok (foldl_meet_queued xs _ w)) rfl

/-- The visits of a round are the first visits of the walk that has the round before it. -/
theorem drains_of_foldlM (hs : s.Sound) {xs : List EntityRef}
    (h : on (xs.foldlM visit w) s = (.ok w', s)) (hrest : Drains s w' z) :
    Drains s (w.queued xs) z := by
  induction xs generalizing w with
  | nil =>
      cases h
      exact hrest
  | cons x xs ih =>
      obtain ⟨w₁, hvisit, -⟩ := on_visit hs w x
      rw [List.foldlM_cons, on_bind_ok hvisit] at h
      exact .visit rfl (on_visit_queued hvisit xs) (ih h)

/-- As many rounds as the height of what is left leave nothing. -/
theorem drains_rounds (hs : s.Sound) {k : Nat} (hk : ∀ y ∈ w.next, y.kind.height ≤ k) :
    ∃ z, on (rounds k w.next w) s = (.ok z, s) ∧ Drains s w z := by
  induction k generalizing w with
  | zero =>
      have hnext : w.next = [] := List.eq_nil_iff_forall_not_mem.2 fun y hy =>
        absurd (hk y hy) (Nat.not_le.2 y.kind.height_pos)
      exact ⟨w, rfl, .done hnext⟩
  | succ k ih =>
      obtain ⟨w', hround, hvisited⟩ := on_foldlM_visit hs w.next { w with next := [] }
      have hlower : ∀ y ∈ w'.next, y.kind.height ≤ k := by
        intro y hy
        obtain ⟨⟨x, hx, habove⟩, -⟩ := ((hvisited.next y).1 hy).resolve_left List.not_mem_nil
        have := Store.height_lt_of_mem_above hs habove
        have := hk x hx
        omega
      obtain ⟨z, hrounds, hdrains⟩ := ih hlower
      refine ⟨z, by rw [rounds, on_bind_ok hround, hrounds], ?_⟩
      have hqueued : Walk.queued w.next { w with next := [] } = w := by
        rw [queued, List.append_nil]
      exact hqueued ▸ drains_of_foldlM hs hround hdrains

end Walk

/-- The bounded walk is the one that goes on until nothing is left. -/
theorem drains_affectedNodes (hs : s.Sound) (x : EntityRef) :
    ∃ w, on (affectedNodes x) s = (.ok w.nodes, s) ∧
      Walk.Drains s { seen := OrdSet.ofList [x], next := [x] } w := by
  obtain ⟨w, hrounds, hdrains⟩ := Walk.drains_rounds hs
    (w := { seen := OrdSet.ofList [x], next := [x] }) (k := longestWay) (by simp [Kind.height_le])
  -- the first round does not look at what a walk has met before
  have hrounds : on (Walk.rounds longestWay [x] { seen := OrdSet.ofList [x] }) s = (.ok w, s) :=
    hrounds
  exact ⟨w, by rw [affectedNodes, on_bind_ok hrounds, on_pure], hdrains⟩

/-! ## The edges on the way -/

namespace Store

/-- A stored record declares that the child leads to the parent, which is stored and enabled. -/
def Rises (s : Store) (child parent : EntityRef) : Prop :=
  s.Declares ⟨child, parent⟩ ∧ s.isEnabled parent = true

theorem mem_above_iff (hs : s.Sound) : y ∈ s.above x ↔ s.Rises x y := by
  constructor
  · intro h
    rw [above_of_height_lt (height_lt_of_mem_above hs h)] at h
    exact (mem_parentsOf hs).1 h
  · intro h
    obtain ⟨_, _, _, hedge⟩ := h.1
    rw [above_of_height_lt (Record.height_lt_of_mem_edges hedge)]
    exact (mem_parentsOf hs).2 h

/-- A way upwards begins and ends at other entities than nodes. -/
theorem Rises.kind_ne (h : s.Rises x y) : x.kind ≠ .node ∧ y.kind ≠ .node := by
  obtain ⟨⟨_, r, _, hedge⟩, -⟩ := h
  constructor
  · intro hx
    have hlt : y.kind.height < x.kind.height := Record.height_lt_of_mem_edges hedge
    rw [hx] at hlt
    exact absurd hlt (Nat.not_lt.2 y.kind.height_pos)
  · rcases Record.edge_cases hedge with ⟨-, -, hparent⟩ | ⟨hparent, hr⟩
    · exact fun hy => nomatch hparent.symm.trans hy
    · have hkind : y.kind = r.kind := congrArg EntityRef.kind hparent
      rw [hkind]
      rcases hr with ⟨hr, -⟩ | ⟨hr, -⟩ | ⟨hr, -⟩ <;> rw [hr] <;> nofun

theorem reaches_iff (hs : s.Sound) :
    s.Reaches x n ↔ ∃ y, ReflTransGen s.Rises x y ∧ n ∈ s.direct y := by
  constructor
  · intro h
    induction h with
    | here hn => exact ⟨_, .refl, hn⟩
    | above hp _ ih =>
        obtain ⟨y, hway, hn⟩ := ih
        exact ⟨y, .head ((mem_above_iff hs).1 hp) hway, hn⟩
  · rintro ⟨y, hway, hn⟩
    induction hway using ReflTransGen.head_induction_on with
    | refl => exact .here hn
    | head hrises _ ih => exact .above ((mem_above_iff hs).2 hrises) ih

/-- From anything but a node, only the clusters on the way yield nodes. -/
theorem reaches_iff_of_kind_ne (hs : s.Sound) (hx : x.kind ≠ .node) :
    s.Reaches x n ↔ ∃ a : Node, s.find? ⟨.node, n⟩ = some (.node a) ∧ a.state.isEnabled = true ∧
      ReflTransGen s.Rises x ⟨.cluster, a.clusterId⟩ := by
  rw [reaches_iff hs]
  constructor
  · rintro ⟨⟨k, id⟩, hway, hn⟩
    cases k with
    | node =>
        rcases ReflTransGen.cases_tail hway with h | ⟨_, -, hrises⟩
        · exact absurd (congrArg EntityRef.kind h).symm hx
        · exact absurd rfl hrises.kind_ne.2
    | cluster =>
        obtain ⟨a, ha, rfl, henabled⟩ := (mem_enabledNodes hs).1 hn
        exact ⟨a, ha, henabled, hway⟩
    | server | serverGroup | reverseProxy | origin => exact absurd hn List.not_mem_nil
  · rintro ⟨a, ha, henabled, hway⟩
    exact ⟨_, hway, (mem_enabledNodes hs).2 ⟨a, ha, rfl, henabled⟩⟩

theorem reaches_node_iff (id : Int) :
    s.Reaches ⟨.node, id⟩ n ↔ (s.find? ⟨.node, id⟩).isSome ∧ n = id := by
  constructor
  · intro h
    cases h with
    | here hn =>
        simp only [direct] at hn
        split at hn
        · rename_i hstored
          exact ⟨hstored, List.mem_singleton.1 hn⟩
        · exact absurd hn List.not_mem_nil
    | above hp _ => exact absurd hp List.not_mem_nil
  · rintro ⟨hstored, rfl⟩
    refine .here ?_
    rw [direct, if_pos hstored]
    exact List.mem_singleton_self _

/-- No way leads upwards from a node. -/
theorem eq_of_rises_node {id : Int} (h : ReflTransGen s.Rises ⟨.node, id⟩ y) :
    y = ⟨.node, id⟩ := by
  rcases ReflTransGen.cases_head h with h | ⟨_, hrises, -⟩
  · exact h.symm
  · exact absurd rfl hrises.kind_ne.1

end Store

/-! ## The nodes that are reached -/

/-- The walk upwards ends with nothing left to visit. It yields a stored node for itself, and for
anything else the enabled nodes of the clusters to which edges lead from it, each to a stored and enabled
parent; the entity itself may be disabled or not stored at all. -/
theorem affectedNodes_exact (h : s.Reachable) (x : EntityRef) :
    ∃ w, (∀ z, Walk.Drains s { seen := OrdSet.ofList [x], next := [x] } z ↔ z = w) ∧
      on (affectedNodes x) s = (.ok w.nodes, s) ∧
      ∀ n, n ∈ w.nodes ↔
        if x.kind = .node ∧ (s.find? x).isSome then n = x.id
        else ∃ a : Node, s.find? ⟨.node, n⟩ = some (.node a) ∧ a.state.isEnabled = true ∧
          ReflTransGen s.Rises x ⟨.cluster, a.clusterId⟩ := by
  have hs := h.sound
  obtain ⟨w, hw, hdrains⟩ := drains_affectedNodes hs x
  obtain ⟨nodes, hnodes, hreach⟩ := on_affectedNodes hs x
  obtain rfl : nodes = w.nodes := by
    rw [hw] at hnodes
    cases hnodes
    rfl
  refine ⟨w, fun z => ⟨fun hz => hz.unique hdrains, fun hz => hz ▸ hdrains⟩, hw, fun n => ?_⟩
  rw [hreach]
  by_cases hx : x.kind = .node
  · obtain ⟨k, id⟩ := x
    obtain rfl : k = .node := hx
    rw [Store.reaches_node_iff]
    by_cases hstored : (s.find? ⟨.node, id⟩).isSome
    · rw [if_pos ⟨rfl, hstored⟩]
      exact and_iff_right hstored
    · rw [if_neg fun h => hstored h.2]
      -- a node that is not stored yields nothing, and nothing lies above it
      refine iff_of_false (fun h => hstored h.1) ?_
      rintro ⟨a, -, -, hway⟩
      exact absurd (congrArg EntityRef.kind (Store.eq_of_rises_node hway)) nofun
  · rw [if_neg fun h => hx h.1]
    exact Store.reaches_iff_of_kind_ne hs hx

/-- A disabled origin, named by a proxy that an enabled group and a disabled one name; each of the groups
is in a server of a cluster of its own. A third server names the proxy itself, in a disabled cluster. -/
def Store.branching : Store :=
  let proxy : RefText := ⟨"\x7b\"reverseProxyId\":7\x7d"⟩
  (Store.empty.loadSeed {
    clusters := [{ id := 1 }, { id := 2, state := .disabled }, { id := 3 }]
    nodes := [{ id := 10, clusterId := 1 }, { id := 11, clusterId := 1, state := .disabled },
      { id := 12, clusterId := 2 }, { id := 13, clusterId := 3 }]
    servers := [{ id := 20, clusterId := 1, groupIds := ⟨"[4]"⟩ },
      { id := 21, clusterId := 2, tcpReverseProxy := proxy },
      { id := 22, clusterId := 3, groupIds := ⟨"[5]"⟩ }]
    groups := [{ id := 4, httpReverseProxy := proxy },
      { id := 5, httpReverseProxy := proxy, state := .disabled }]
    reverseProxies := [{ id := 7, primaryOrigins := ⟨"[\x7b\"originId\":9\x7d]"⟩ }]
    origins := [{ id := 9, state := .disabled }] }).2

/-- Of the ways from the origin only the one over the enabled group arrives. -/
theorem affectedNodes_exact_branching :
    Store.branching.Reachable ∧
      (on (affectedNodes ⟨.origin, 9⟩) .branching).1.map OrdSet.toList = .ok [10] ∧
      ReflTransGen Store.branching.Rises ⟨.origin, 9⟩ ⟨.cluster, 1⟩ ∧
      ¬ReflTransGen Store.branching.Rises ⟨.origin, 9⟩ ⟨.cluster, 3⟩ := by
  have hreach : Store.branching.Reachable := .seed _ .empty
  obtain ⟨w, -, hw, hexact⟩ := affectedNodes_exact hreach ⟨.origin, 9⟩
  have hlist : (on (affectedNodes ⟨.origin, 9⟩) .branching).1.map OrdSet.toList = .ok [10] := by
    decide +kernel
  have hten : w.nodes.toList = [10] := by
    rw [hw] at hlist
    exact Except.ok.inj hlist
  have hnodes (n : Int) : n ∈ w.nodes ↔ n = 10 := by
    rw [← OrdSet.mem_toList, hten, List.mem_singleton]
  have hfirst : Store.branching.find? ⟨.node, 10⟩ = some (.node { id := 10, clusterId := 1 }) := by
    decide +kernel
  have hthird : Store.branching.find? ⟨.node, 13⟩ = some (.node { id := 13, clusterId := 3 }) := by
    decide +kernel
  simp only [reduceCtorEq, false_and, if_false] at hexact
  refine ⟨hreach, hlist, ?_, fun hway => ?_⟩
  · obtain ⟨a, ha, -, hway⟩ := (hexact 10).1 ((hnodes 10).2 rfl)
    rw [hfirst] at ha
    cases ha
    exact hway
  · have hthirteen : (13 : Int) ∈ w.nodes := (hexact 13).2 ⟨_, hthird, rfl, hway⟩
    exact absurd ((hnodes 13).1 hthirteen) (by decide)

end Fleet
