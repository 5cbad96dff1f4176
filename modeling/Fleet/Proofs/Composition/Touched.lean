import Fleet.Proofs.Composition.Reads

/-!
# What a write touches

A write of one record changes the config of a node only if the record reaches the node afterwards,
or if the record is a server that left the cluster of the node.
-/

namespace Fleet

namespace Store

variable {s t : Store} {n : Int}

/-! ## Lists of servers -/

theorem lt_of_compare_server {i j : Int}
    (h : compare (⟨.server, i⟩ : EntityRef) ⟨.server, j⟩ = .lt) : i < j := by
  have h : compare i j = .lt := h
  exact Std.compare_eq_lt.1 h

theorem enabledServers_ascending (hs : s.Sound) (k : Int) :
    (s.enabledServers k).Pairwise (· < ·) := by
  rw [enabledServers, OrdMap.values, List.pairwise_filterMap, List.pairwise_filterMap,
    List.pairwise_map]
  refine s.records.ascending.imp_of_mem fun {e f} he hf hlt a ha b hb x hx y hy => ?_
  have ha : e.2 = .server a := Record.server?_eq_some_iff.1 ha
  have hb : f.2 = .server b := Record.server?_eq_some_iff.1 hb
  rw [Option.ite_none_right_eq_some, Option.some.injEq] at hx hy
  have hkey := hs.own (x := e.1) (OrdMap.find?_eq_some_iff.2 he)
  have hkey' := hs.own (x := f.1) (OrdMap.find?_eq_some_iff.2 hf)
  rw [← hkey, ← hkey', ha, hb] at hlt
  rw [← hx.2, ← hy.2]
  exact lt_of_compare_server hlt

/-- Two stores that list different servers of a cluster disagree about one of them. -/
theorem exists_of_enabledServers_ne (hs : s.Sound) (ht : t.Sound) {k : Int}
    (h : s.enabledServers k ≠ t.enabledServers k) :
    ∃ id, ¬ (id ∈ s.enabledServers k ↔ id ∈ t.enabledServers k) := by
  by_contra hall
  push Not at hall
  exact h ((enabledServers_ascending hs k).eq_of_mem_iff (enabledServers_ascending ht k) hall)

/-! ## Writes -/

/-- At most the record of `x` changed, and it is there afterwards. -/
structure ChangedAt (s t : Store) (x : EntityRef) : Prop where
  stored : (t.find? x).isSome = true
  frame : ∀ y, y ≠ x → t.find? y = s.find? y

/-- The entity is a server that was in the cluster and is no longer. -/
def Left (s t : Store) (x : EntityRef) (k : Int) : Prop :=
  ∃ a b, s.find? x = some (.server a) ∧ a.clusterId = k ∧
    t.find? x = some (.server b) ∧ b.clusterId ≠ k

/-- The stores answer differently to a call that the config of the node needs on both. -/
def Touched (s t : Store) (n : Int) : Prop :=
  ∃ c, s.Feeds n c ∧ t.Feeds n c ∧ (s.answer c).1 ≠ (t.answer c).1

theorem ChangedAt.eq_of_find_ne {x y : EntityRef} (h : s.ChangedAt t x)
    (hne : s.find? y ≠ t.find? y) : y = x :=
  by_contra fun hy => hne (h.frame y hy).symm

/-- The two ways upwards from a write to the nodes that it touches. -/
theorem Touched.reaches (hs : s.Sound) (ht : t.Sound) {x : EntityRef} (hx : s.ChangedAt t x)
    (h : s.Touched t n) :
    t.Reaches x n ∨ ∃ k, 0 < k ∧ s.Left t x k ∧ t.Reaches ⟨.cluster, k⟩ n := by
  obtain ⟨c, -, hfeeds, hne⟩ := h
  cases hfeeds with
  | @find y hy =>
      obtain rfl : y = x := hx.eq_of_find_ne fun he => hne (congrArg Except.ok he)
      exact .inl (hy.reaches ht fun _ => hx.stored)
  | @servers k hk hon =>
      obtain ⟨id, hid⟩ := exists_of_enabledServers_ne hs ht fun he => hne (congrArg Except.ok he)
      obtain rfl : ⟨.server, id⟩ = x := by
        refine hx.eq_of_find_ne fun he => hid ?_
        rw [mem_enabledServers hs, mem_enabledServers ht, he]
      obtain ⟨r, hr⟩ := Option.isSome_iff_exists.1 hx.stored
      obtain ⟨b, rfl⟩ := ht.find?_server hr
      by_cases hb : b.clusterId = k
      · exact .inl ((hk.server_of_find ht hon hr hb).reaches ht fun _ => hx.stored)
      · have hnot : ¬ id ∈ t.enabledServers k := by
          rw [mem_enabledServers ht, hr]
          rintro ⟨_, ⟨⟩, hc, _⟩
          exact hb hc
        have hin : id ∈ s.enabledServers k := by tauto
        obtain ⟨a, ha, hak, _⟩ := (mem_enabledServers hs).1 hin
        exact .inr ⟨k, hk.cluster_pos.1, ⟨a, b, ha, hak, hr, hb⟩,
          hk.reaches ht fun hc => nomatch hc⟩

/-- A config that is not what it was needs an answer that is not what it was. -/
theorem touched_of_fetch_ne (hs : s.Sound) (ht : t.Sound)
    (h : (Action.on (fetch ⟨.node, n⟩) s).1 ≠ (Action.on (fetch ⟨.node, n⟩) t).1) :
    s.Touched t n := by
  have hs' := feeds_of_mem_fetch hs (n := n)
  have ht' := feeds_of_mem_fetch ht (n := n)
  obtain ⟨c, hcs, hct, hne⟩ := Program.exists_calls_of_run_ne (fun c hc => (hs' c hc).isRead) h
  exact ⟨c, hs' c hcs, ht' c hct, hne⟩

/-! ## The writes of the store -/

theorem changedAt_put (s : Store) (r : Record) (next : Int) :
    s.ChangedAt ({ s with nextId := next }.put r) r.ref where
  stored := by
    rw [find?_put, if_pos rfl]
    rfl
  frame y hy := by
    rw [find?_put, if_neg hy]
    rfl

theorem changedAt_updateState {x : EntityRef} {state : EntityState}
    (h : (s.updateState x state).1 = true) : s.ChangedAt (s.updateState x state).2 x where
  stored := by
    rw [find?_updateState, if_pos rfl]
    cases hr : s.find? x with
    | none =>
        rw [updateState_of_find?_eq_none hr] at h
        cases h
    | some r => rfl
  frame y hy := by rw [find?_updateState, if_neg hy]

end Store

end Fleet
