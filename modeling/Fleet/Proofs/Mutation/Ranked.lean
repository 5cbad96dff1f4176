import Fleet.Proofs.Mutation.Rejected
import Fleet.Proofs.Mutation.Repeated

/-!
# Orders that were not all written

The groups of a list are written one after the other, and each is propagated before the next one is
written. So wherever a call fails, a first part of the list has its new orders and the rest is as it was.
All groups are read before the first is written, hence a rejection leaves every order as it was.
-/

namespace Fleet

open Fleet.Action

variable {s t u : Store}

/-! ## The groups that are read -/

theorem hampered_requireServerGroup (hs : s.Sound) {id : Int} {g : ServerGroup}
    (h : (requireServerGroup id).run.Hampered s (.ok g) t) :
    s = t ∧ g.id = id ∧ s.find? ⟨.serverGroup, id⟩ = some (.serverGroup g) := by
  obtain ⟨found, u, hfound, h⟩ := hampered_bind_ok h
  obtain ⟨stored, v, hread, hfound⟩ := hampered_bind_ok hfound
  obtain ⟨rfl, hstored⟩ := hampered_find hread
  cases hfound
  split at h
  · rename_i g' hg
    cases h
    obtain ⟨r, hr, hg⟩ := Option.bind_eq_some_iff.1 hg
    rw [hr] at hstored
    obtain rfl : r = .serverGroup g := by cases r <;> cases hg; rfl
    exact ⟨rfl, congrArg EntityRef.id (hs.own hstored), hstored⟩
  · cases h

/-- The groups that are read are those of the list, as they are stored. -/
theorem hampered_readGroups (hs : s.Sound) {earlier ids : List Int} {groups : List ServerGroup}
    (h : (readGroups earlier ids).run.Hampered s (.ok groups) t) :
    s = t ∧ groups.map (·.id) = ids ∧
      (∀ g ∈ groups, s.find? ⟨.serverGroup, g.id⟩ = some (.serverGroup g)) ∧
      ids.Nodup ∧ ∀ id ∈ ids, id ∉ earlier := by
  induction ids generalizing earlier groups with
  | nil =>
      cases h
      exact ⟨rfl, rfl, fun _ hg => absurd hg List.not_mem_nil, .nil,
        fun _ hid => absurd hid List.not_mem_nil⟩
  | cons id ids ih =>
      obtain ⟨_, u, hu, h⟩ := hampered_bind_ok h
      obtain ⟨-, rfl⟩ := hampered_check hu
      split at h
      · cases h
      · rename_i hnew
        obtain ⟨g, u, hu, h⟩ := hampered_bind_ok h
        obtain ⟨rfl, rfl, hg⟩ := hampered_requireServerGroup hs hu
        obtain ⟨rest, u, hu, h⟩ := hampered_bind_ok h
        cases h
        obtain ⟨rfl, hids, hrest, hnodup, hlater⟩ := ih hu
        refine ⟨rfl, by rw [List.map_cons, hids], ?_, ?_, ?_⟩
        · exact List.forall_mem_cons.2 ⟨hg, hrest⟩
        · refine List.nodup_cons.2 ⟨fun hid => hlater _ hid ?_, hnodup⟩
          exact List.mem_append_right _ (List.mem_singleton_self _)
        · refine List.forall_mem_cons.2 ⟨by simpa using hnew, fun id hid hold => ?_⟩
          exact hlater id hid (List.mem_append_left _ hold)

/-! ## The groups that are written -/

/-- The order of a stored group. -/
def Store.order? (s : Store) (id : Int) : Option Int :=
  ((s.find? ⟨.serverGroup, id⟩).bind Record.serverGroup?).map ServerGroup.order

/-- The first `k` groups of the list have got their orders, and nothing else has changed but for
versions. -/
structure Store.RankedTo (s : Store) (ids : List Int) (k : Nat) (t : Store) : Prop where
  written : ∀ i id, i < k → ids[i]? = some id → ∃ g,
    s.find? ⟨.serverGroup, id⟩ = some (.serverGroup g) ∧
      t.find? ⟨.serverGroup, id⟩ = some (.serverGroup { g with order := ids.length - i })
  frame : ∀ y, (∀ id ∈ ids.take k, y ≠ ⟨.serverGroup, id⟩) → t.find? y = s.find? y

namespace Store

variable {ids : List Int} {k : Nat}

theorem RankedTo.order_of_lt (h : s.RankedTo ids k t) {i : Nat} {id : Int} (hi : i < k)
    (hid : ids[i]? = some id) : t.order? id = some ((ids.length : Int) - i) := by
  obtain ⟨g, -, ht⟩ := h.written i id hi hid
  rw [order?, ht]
  rfl

theorem RankedTo.order_of_not_mem (h : s.RankedTo ids k t) {id : Int} (hid : id ∉ ids.take k) :
    t.order? id = s.order? id := by
  have hframe : t.find? ⟨.serverGroup, id⟩ = s.find? ⟨.serverGroup, id⟩ := by
    refine h.frame _ fun id' hid' he => ?_
    cases he
    exact hid hid'
  rw [order?, hframe, order?]

theorem RankedTo.zero (h : s.SameFleet t) : s.RankedTo ids 0 t := by
  exact ⟨fun i _ hi => absurd hi (Nat.not_lt_zero i), fun x _ => h.find?_eq x⟩

/-- What comes before the first write changes no record. -/
theorem RankedTo.of_sameFleet (h : s.SameFleet u) (h' : u.RankedTo ids k t) : s.RankedTo ids k t := by
  obtain ⟨v, rfl⟩ := h
  exact ⟨h'.written, h'.frame⟩

/-- A stored group that is written with another order keeps its place. -/
theorem find?_save_ranked (hs : s.Sound) {g : ServerGroup} {order id : Int}
    (hg : s.find? ⟨.serverGroup, g.id⟩ = some (.serverGroup g))
    (hu : s.save (.serverGroup { g with order }) = .ok (id, u)) :
    id = g.id ∧ ∀ y, u.find? y =
      if y = ⟨.serverGroup, g.id⟩ then some (.serverGroup { g with order }) else s.find? y := by
  obtain ⟨_, -, -, -, -, -, hpos, -⟩ := save_cases hs hu
  obtain rfl : id = g.id := hpos (hs.positive hg)
  exact ⟨rfl, find?_save hs hu⟩

theorem RankedTo.cons (hs : s.Sound) {g : ServerGroup} {id : Int}
    (hg : s.find? ⟨.serverGroup, g.id⟩ = some (.serverGroup g))
    (hu : s.save (.serverGroup { g with order := ids.length + 1 }) = .ok (id, u))
    (hnew : g.id ∉ ids) (h : u.RankedTo ids k t) : s.RankedTo (g.id :: ids) (k + 1) t := by
  obtain ⟨rfl, hfind⟩ := find?_save_ranked hs hg hu
  -- the list names the group only once, so none of the later writes is of it
  have hlater : ∀ id ∈ ids.take k, (⟨.serverGroup, g.id⟩ : EntityRef) ≠ ⟨.serverGroup, id⟩ := by
    intro id hid he
    cases he
    exact hnew (List.mem_of_mem_take hid)
  constructor
  case written =>
    intro i id hi hget
    cases i with
    | zero =>
        obtain rfl : g.id = id := by simpa using hget
        refine ⟨g, hg, ?_⟩
        rw [h.frame _ hlater, hfind, if_pos rfl]
        simp
    | succ i =>
        have hget : ids[i]? = some id := by simpa using hget
        obtain ⟨g', hg', ht⟩ := h.written i id (by omega) hget
        have hne : (⟨.serverGroup, id⟩ : EntityRef) ≠ ⟨.serverGroup, g.id⟩ := by
          intro he
          cases he
          exact hnew (List.mem_of_getElem? hget)
        rw [hfind, if_neg hne] at hg'
        refine ⟨g', hg', ?_⟩
        have hrank : (ids.length : Int) - i = (g.id :: ids).length - (i + 1 : Nat) := by
          simp only [List.length_cons]
          omega
        rw [ht, hrank]
  case frame =>
    intro y hy
    rw [List.take_succ_cons, List.forall_mem_cons] at hy
    rw [h.frame y hy.2, hfind, if_neg hy.1]

end Store

theorem hampered_rankGroups (hs : s.Sound) {groups : List ServerGroup} {report : Report}
    {o : Except Failure Report} (h : (rankGroups groups report).run.Hampered s o t)
    (hstored : ∀ g ∈ groups, s.find? ⟨.serverGroup, g.id⟩ = some (.serverGroup g))
    (hnodup : (groups.map (·.id)).Nodup) :
    ∃ k ≤ groups.length, s.RankedTo (groups.map (·.id)) k t ∧
      ∀ report', o = .ok report' → k = groups.length := by
  induction groups generalizing s report with
  | nil =>
      cases h
      exact ⟨0, le_rfl, .zero (.refl _), fun _ _ => rfl⟩
  | cons g groups ih =>
      obtain ⟨hnew, hnodup⟩ := List.nodup_cons.1 hnodup
      obtain ⟨hg, hstored⟩ := List.forall_mem_cons.1 hstored
      rcases hampered_save h with ⟨rfl, e, rfl⟩ | ⟨id, u, hu, h⟩
      · exact ⟨0, Nat.zero_le _, .zero (.refl s), fun _ he => by cases he⟩
      have hlen : (groups.map (·.id)).length = groups.length := List.length_map _
      rw [← hlen] at hu
      have hus := hs.save hu
      rcases hampered_bind h with ⟨e, hv, rfl⟩ | ⟨propagated, v, hv, h⟩
      · refine ⟨1, by simp, ?_, fun _ he => by cases he⟩
        exact .cons hs hg hu hnew (.zero (hv.sameFleet (makes_notify _)))
      · have hfleet := hv.sameFleet (makes_notify _)
        have hkept : ∀ g' ∈ groups, v.find? ⟨.serverGroup, g'.id⟩ = some (.serverGroup g') := by
          intro g' hg'
          obtain ⟨rfl, hfind⟩ := Store.find?_save_ranked hs hg hu
          have hne : (⟨.serverGroup, g'.id⟩ : EntityRef) ≠ ⟨.serverGroup, g.id⟩ := by
            intro he
            have hid : g'.id = g.id := congrArg EntityRef.id he
            exact hnew (List.mem_map.2 ⟨g', hg', hid⟩)
          rw [hfleet.find?_eq, hfind, if_neg hne]
          exact hstored g' hg'
        obtain ⟨k, hk, hranked, hall⟩ := ih (hv.sound hus) h hkept hnodup
        refine ⟨k + 1, by simpa using hk, .cons hs hg hu hnew (.of_sameFleet hfleet hranked), ?_⟩
        intro report' ho
        rw [hall report' ho, List.length_cons]

/-- Whatever calls fail while a list of groups is ordered, a first part of the list has got its orders
and nothing else has changed: all of the list if it ends well, nothing if it is rejected. -/
theorem orderGroups_first_part (h : s.Reachable) {ids : List Int} {o : Except Failure Report}
    (hrun : (orderGroups ids).run.Hampered s o t) :
    ∃ k ≤ ids.length, s.RankedTo ids k t ∧ (∀ report, o = .ok report → k = ids.length) ∧
      ∀ e : Failure, e.IsRejection → o = .error e → k = 0 := by
  have hs := h.sound
  by_cases hlen : ids.length ≤ 2147483647
  · rw [orderGroups_eq hlen] at hrun
    rcases hampered_bind hrun with ⟨e, hread, rfl⟩ | ⟨groups, u, hread, hrank⟩
    · have hfleet := hread.sameFleet ((makes_readGroups [] ids).imp fun _ h => h.propagates)
      refine ⟨0, Nat.zero_le _, .zero hfleet, ?_, fun _ _ _ => rfl⟩
      intro report ho
      cases ho
    · obtain ⟨rfl, rfl, hstored, hnodup, -⟩ := hampered_readGroups hs hread
      obtain ⟨k, hk, hranked, hall⟩ := hampered_rankGroups hs hrank hstored hnodup
      refine ⟨k, by simpa using hk, hranked, fun report ho => ?_, fun e he ho => ?_⟩
      · rw [hall report ho, List.length_map]
      · have haccepted : Accepted o := hrank.ends hs (settles_rankGroups groups {})
        subst ho
        exact absurd he haccepted
  · rw [orderGroups, if_pos (by omega)] at hrun
    cases hrun
    refine ⟨0, Nat.zero_le _, .zero (.refl s), ?_, fun _ _ _ => rfl⟩
    intro report ho
    cases ho

/-- A server of one group on a node, and a group that no server names. -/
def twoGroups : Store :=
  (Store.empty.loadSeed {
    clusters := [{ id := 1 }]
    nodes := [{ id := 10, clusterId := 1 }]
    servers := [{ id := 5, clusterId := 1, groupIds := ⟨"[3]"⟩ }]
    groups := [{ id := 3 }, { id := 4 }] }).2

theorem reachable_twoGroups : twoGroups.Reachable := .seed _ .empty

/-- The listed groups have all got their orders, or none of them has. -/
def Store.RankedWhole (s : Store) (ids : List Int) (t : Store) : Prop :=
  (∀ i : Fin ids.length, t.order? ids[i] = some ((ids.length : Int) - i)) ∨
    ∀ id ∈ ids, t.order? id = s.order? id

instance (s : Store) (ids : List Int) (t : Store) : Decidable (s.RankedWhole ids t) :=
  inferInstanceAs (Decidable (_ ∨ _))

/-- The mark of the node fails after the first group is written, so the second one is not. -/
theorem orderGroups_first_part_unmarked :
    ((Mutation.orderGroups [3, 4]).attempt [10] twoGroups).1.isOk = false ∧
      twoGroups.RankedTo [3, 4] 1 ((Mutation.orderGroups [3, 4]).attempt [10] twoGroups).2 := by
  have hrun := (orderGroups [3, 4]).run.hampered_of_faulty
    { store := twoGroups, faults := { marks := [10] } }
  obtain ⟨k, hk, hranked, -⟩ := orderGroups_first_part reachable_twoGroups hrun
  change twoGroups.RankedTo [3, 4] k ((Mutation.orderGroups [3, 4]).attempt [10] twoGroups).2 at hranked
  refine ⟨by decide +kernel, ?_⟩
  have hthree : ((Mutation.orderGroups [3, 4]).attempt [10] twoGroups).2.order? 3
      ≠ twoGroups.order? 3 := by decide +kernel
  have hfour : ((Mutation.orderGroups [3, 4]).attempt [10] twoGroups).2.order? 4 ≠ some 1 := by
    decide +kernel
  match k, hk with
  | 0, _ => exact absurd (hranked.order_of_not_mem List.not_mem_nil) hthree
  | 1, _ => exact hranked
  | 2, _ => exact absurd (hranked.order_of_lt Nat.one_lt_two rfl) hfour

theorem orderGroups_not_whole :
    twoGroups.Reachable ∧
      ((Mutation.orderGroups [3, 4]).attempt [10] twoGroups).1.isOk = false ∧
        ¬twoGroups.RankedWhole [3, 4] ((Mutation.orderGroups [3, 4]).attempt [10] twoGroups).2 :=
  ⟨reachable_twoGroups, by decide +kernel, by decide +kernel⟩

end Fleet
