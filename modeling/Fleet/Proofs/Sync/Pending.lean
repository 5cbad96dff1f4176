import Fleet.Proofs.Mutation.Marked

/-!
# Pending lists

What the lists of pending nodes and clusters hold. Versions stand apart from the records, so that some
are of nodes that are not stored, and a node may be in a cluster that is not; neither is listed.
-/

namespace Fleet

open Fleet.Action

namespace Store

variable {s : Store} {n k : Int} {a : Node} {nodes : List Int}

/-- A node that is stored and enabled and has not applied its version. -/
structure Pends (s : Store) (n : Int) (a : Node) : Prop where
  stored : s.find? ⟨.node, n⟩ = some (.node a)
  enabled : a.state.isEnabled = true
  behind : (s.version n).applied < (s.version n).version

/-- A cluster that is stored and enabled. -/
def HasCluster (s : Store) (k : Int) : Prop :=
  ∃ c, s.find? ⟨.cluster, k⟩ = some (.cluster c) ∧ c.state.isEnabled = true

theorem Sound.find?_cluster (hs : s.Sound) {r : Record} (h : s.find? ⟨.cluster, k⟩ = some r) :
    ∃ c, r = .cluster c ∧ c.id = k := by
  have hown := hs.own h
  cases r <;> cases hown
  exact ⟨_, rfl, rfl⟩

theorem mem_pendingNodes_iff_pends (hs : s.Sound) : n ∈ s.pendingNodes ↔ ∃ a, s.Pends n a := by
  rw [mem_pendingNodes, NodeVersion.isPending_iff, isEnabled_iff]
  constructor
  · rintro ⟨hbehind, r, hr, henabled⟩
    obtain ⟨a, rfl⟩ := hs.find?_node hr
    exact ⟨a, hr, henabled, hbehind⟩
  · rintro ⟨a, hstored, henabled, hbehind⟩
    exact ⟨hbehind, _, hstored, henabled⟩

/-- One of the nodes is stored and in the cluster. -/
def HasNodeOf (s : Store) (nodes : List Int) (k : Int) : Prop :=
  ∃ n ∈ nodes, ∃ a, s.find? ⟨.node, n⟩ = some (.node a) ∧ a.clusterId = k

theorem hasNodeOf_cons_of_eq_none (h : s.find? ⟨.node, n⟩ = none) :
    s.HasNodeOf (n :: nodes) k ↔ s.HasNodeOf nodes k := by
  simp [HasNodeOf, h]

theorem hasNodeOf_cons_of_eq_some (h : s.find? ⟨.node, n⟩ = some (.node a)) :
    s.HasNodeOf (n :: nodes) k ↔ k = a.clusterId ∨ s.HasNodeOf nodes k := by
  simp [HasNodeOf, h, eq_comm]

end Store

variable {s : Store}

/-! ## Clusters of nodes -/

/-- Of a stored node, its cluster is added if it is stored and enabled. That it may be in hand already, and
is then not looked up, makes no difference. -/
theorem on_clustersOf_cons (hs : s.Sound) {n : Int} {a : Node}
    (hn : s.find? ⟨.node, n⟩ = some (.node a)) (nodes : List Int) (found : OrdSet Int) :
    ∃ found', on (clustersOf (n :: nodes) found) s = on (clustersOf nodes found') s ∧
      ∀ k, k ∈ found' ↔ k ∈ found ∨ s.HasCluster k ∧ k = a.clusterId := by
  have hnode : on (findNode n) s = (.ok (some a), s) := by rw [on_findNode, hn]; rfl
  rw [clustersOf, on_bind_ok hnode]
  by_cases hmem : a.clusterId ∈ found
  · refine ⟨found, ?_, fun k => ⟨.inl, ?_⟩⟩
    · simp only [OrdSet.contains_iff.2 hmem, if_true]
    · rintro (hk | ⟨-, rfl⟩)
      · exact hk
      · exact hmem
  have hcontains : found.contains a.clusterId = false := by
    rw [← Bool.not_eq_true, OrdSet.contains_iff]
    exact hmem
  simp only [hcontains, Bool.false_eq_true, if_false]
  cases hc : s.find? ⟨.cluster, a.clusterId⟩ with
  | none =>
      have hcluster : on (findCluster a.clusterId) s = (.ok none, s) := by
        rw [on_findCluster, hc]; rfl
      rw [on_bind_ok hcluster]
      refine ⟨found, rfl, fun k => ⟨.inl, ?_⟩⟩
      rintro (hk | ⟨⟨c, hk, -⟩, rfl⟩)
      · exact hk
      · cases hc.symm.trans hk
  | some r =>
      obtain ⟨c, rfl, hid⟩ := hs.find?_cluster hc
      have hcluster : on (findCluster a.clusterId) s = (.ok (some c), s) := by
        rw [on_findCluster, hc]; rfl
      have hhas : s.HasCluster a.clusterId ↔ c.state.isEnabled = true := by
        simp [Store.HasCluster, hc]
      rw [on_bind_ok hcluster]
      refine ⟨_, rfl, fun k => ?_⟩
      by_cases henabled : c.state.isEnabled = true
      · rw [if_pos henabled, OrdSet.mem_add, hid, or_comm]
        refine or_congr_right ⟨fun hk => ⟨hk ▸ hhas.2 henabled, hk⟩, And.right⟩
      · rw [if_neg henabled]
        refine ⟨.inl, ?_⟩
        rintro (hk | ⟨hk, rfl⟩)
        · exact hk
        · exact absurd (hhas.1 hk) henabled

theorem on_clustersOf (hs : s.Sound) (nodes : List Int) (found : OrdSet Int) :
    ∃ clusters, on (clustersOf nodes found) s = (.ok clusters, s) ∧
      ∀ k, k ∈ clusters ↔ k ∈ found ∨ s.HasCluster k ∧ s.HasNodeOf nodes k := by
  induction nodes generalizing found with
  | nil => exact ⟨found, rfl, fun k => by simp [Store.HasNodeOf]⟩
  | cons n nodes ih =>
      cases hn : s.find? ⟨.node, n⟩ with
      | none =>
          obtain ⟨clusters, hrun, hmem⟩ := ih found
          have hnode : on (findNode n) s = (.ok none, s) := by rw [on_findNode, hn]; rfl
          refine ⟨clusters, ?_, fun k => ?_⟩
          · rw [clustersOf, on_bind_ok hnode]
            exact hrun
          · rw [hmem, Store.hasNodeOf_cons_of_eq_none hn]
      | some r =>
          obtain ⟨a, rfl⟩ := hs.find?_node hn
          obtain ⟨found', hstep, hadd⟩ := on_clustersOf_cons hs hn nodes found
          obtain ⟨clusters, hrun, hmem⟩ := ih found'
          refine ⟨clusters, hstep.trans hrun, fun k => ?_⟩
          rw [hmem, hadd, Store.hasNodeOf_cons_of_eq_some hn, or_assoc, ← and_or_left]

/-! ## Lists -/

/-- The lists hold exactly the nodes that are pending and the stored and enabled clusters that such a node
is in now, and asking for them changes nothing. -/
theorem listPending_exact (h : s.Reachable) :
    (∃ nodes, on (listPending .nodes) s = (.ok nodes, s) ∧ ∀ n, n ∈ nodes ↔ ∃ a, s.Pends n a) ∧
      ∃ clusters, on (listPending .clusters) s = (.ok clusters, s) ∧
        ∀ k, k ∈ clusters ↔ s.HasCluster k ∧ ∃ n a, s.Pends n a ∧ a.clusterId = k := by
  refine ⟨⟨_, on_listPending_nodes s, fun n => ?_⟩, ?_⟩
  · rw [OrdSet.mem_ofList, Store.mem_pendingNodes_iff_pends h.sound]
  · obtain ⟨clusters, hrun, hmem⟩ := on_clustersOf h.sound s.pendingNodes .empty
    refine ⟨clusters, hrun, fun k => ?_⟩
    rw [hmem, or_iff_right (OrdSet.not_mem_empty k)]
    refine and_congr_right fun _ => ⟨?_, ?_⟩
    · rintro ⟨n, hn, a, ha, hk⟩
      obtain ⟨b, hb⟩ := (Store.mem_pendingNodes_iff_pends h.sound).1 hn
      cases hb.stored.symm.trans ha
      exact ⟨n, a, hb, hk⟩
    · rintro ⟨n, a, hpends, hk⟩
      exact ⟨n, (Store.mem_pendingNodes_iff_pends h.sound).2 ⟨a, hpends⟩, a, hpends.stored, hk⟩

/-- Marks for a node of an enabled cluster that acknowledged one and for one that did not, for nodes of a
disabled and of a missing cluster, for a disabled node and for one that is not stored. -/
def Store.scattered : Store :=
  let seeded := (Store.empty.loadSeed {
    clusters := [{ id := 1 }, { id := 2, state := .disabled }, { id := 3 }]
    nodes := [{ id := 10, clusterId := 1 }, { id := 11, clusterId := 1 }, { id := 12, clusterId := 2 },
      { id := 13, clusterId := 4 }, { id := 14, clusterId := 3, state := .disabled }] }).2
  let marked := (((((seeded.mark 10).mark 11).mark 12).mark 13).mark 14).mark 15
  marked.ack 10 1

theorem Store.reachable_scattered : scattered.Reachable :=
  .call (.ack 10 1) <| .call (.mark 15) <| .call (.mark 14) <| .call (.mark 13) <| .call (.mark 12) <|
    .call (.mark 11) <| .call (.mark 10) <| .seed _ .empty

theorem listPending_exact_scattered :
    Store.scattered.Reachable ∧
      (∀ n, (∃ a, Store.scattered.Pends n a) ↔ n ∈ [11, 12, 13]) ∧
      ∀ k, (Store.scattered.HasCluster k ∧ ∃ n a, Store.scattered.Pends n a ∧ a.clusterId = k) ↔ k = 1 := by
  have hreach := Store.reachable_scattered
  obtain ⟨⟨nodes, hnodes, hpends⟩, clusters, hclusters, hhas⟩ := listPending_exact hreach
  have hnodeList : (on (listPending .nodes) .scattered).1.map OrdSet.toList = .ok [11, 12, 13] := by
    decide +kernel
  have hclusterList : (on (listPending .clusters) .scattered).1.map OrdSet.toList = .ok [1] := by
    decide +kernel
  rw [hnodes] at hnodeList
  rw [hclusters] at hclusterList
  refine ⟨hreach, fun n => ?_, fun k => ?_⟩
  · rw [← hpends, ← OrdSet.mem_toList, Except.ok.inj hnodeList]
  · rw [← hhas, ← OrdSet.mem_toList, Except.ok.inj hclusterList, List.mem_singleton]

end Fleet
