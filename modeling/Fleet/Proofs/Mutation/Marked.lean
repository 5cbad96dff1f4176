import Fleet.Proofs.Mutation.Basic

/-!
# What mutations mark

A mutation that ends well has marked the nodes of its report and no others, and all its writes are
covered: every node whose config it changed is among them.
-/

namespace Fleet

open Fleet.Action

variable {s t : Store} {n : Int}

/-! ## Propagations -/

theorem notify_spec (hs : s.Sound) {x : EntityRef} {report : Report}
    (h : on (notify x) s = (.ok report, t)) :
    (∀ n, n ∈ report.marked ↔ s.Reaches x n) ∧ s.SameFleet t ∧ s.Raised t report.marked := by
  by_cases hx : 0 < x.id
  · obtain ⟨report', t', hn, hmarked, hfleet, -, hraised⟩ := on_notify hs hx
    rw [hn] at h
    cases h
    exact ⟨hmarked, hfleet, hraised⟩
  · have hid : requireId "id" x.id
        = .error (.invalid "id" ("expected a positive id, got " ++ Text.intText x.id)) :=
      if_pos (by omega)
    rw [notify, on_bind, on_check, hid] at h
    cases h

theorem raises_notify (hs : s.Sound) {x : EntityRef} (h : s.Reaches x n) :
    (notify x).run.Raises s n := by
  intro report t hn
  obtain ⟨hmarked, -, hraised⟩ := notify_spec hs hn
  exact hraised.raised n ((hmarked n).2 h)

theorem covered_notify (x : EntityRef) : (notify x).run.Covered s :=
  Program.covered_of_sameFleet (makes_notify x) fun _ s h => h.sameFleet s

theorem raises_notifyOf (hs : s.Sound) {x : EntityRef} (h : s.Reaches x n) :
    (notifyOf x).run.Raises s n := raises_bind (raises_notify hs h)

theorem covered_notifyOf (x : EntityRef) : (notifyOf x).run.Covered s :=
  Program.covered_of_sameFleet (makes_notifyOf x) fun _ s h => h.sameFleet s

theorem notifyOf_spec (hs : s.Sound) {x : EntityRef} {o : Outcome}
    (h : on (notifyOf x) s = (.ok o, t)) : s.SameFleet t ∧ s.Raised t o.propagation.marked := by
  obtain ⟨report, t', hn, ho⟩ := on_bind_eq_ok h
  cases ho
  exact (notify_spec hs hn).2

theorem covered_finds {α : Type} {a : Action α} (ha : a.run.Makes Call.Finds) : a.run.Covered s :=
  Program.covered_of_sameFleet ha fun _ s h => h.propagates.sameFleet s

/-! ## Writes -/

/-- The nodes that a save of `x` from `s` to `t` may concern. -/
def Store.Concerns (s t : Store) (x : EntityRef) (n : Int) : Prop :=
  t.Reaches x n ∨ ∃ k, 0 < k ∧ s.Left t x k ∧ t.Reaches ⟨.cluster, k⟩ n

theorem on_save_ok {r : Record} {id : Int} (h : on (ask (.save r)) s = (.ok id, t)) :
    s.save r = .ok (id, t) := by
  rw [on_ask] at h
  cases hr : s.save r with
  | ok p =>
      simp only [Store.answer, hr] at h
      cases h
      rfl
  | error e =>
      simp only [Store.answer, hr] at h
      cases h

/-- A save and what follows it, where what follows raises all that the save concerns. -/
theorem covered_save {β : Type} {r : Record} {f : Int → Action β} (hs : s.Sound)
    (hf : ∀ id t, s.save r = .ok (id, t) → t.Sound →
      (∀ n, s.Concerns t ⟨r.kind, id⟩ n → (f id).run.Raises t n) ∧ (f id).run.Covered t) :
    (ask (.save r) >>= f).run.Covered s := by
  refine covered_ask fun id hid => ?_
  cases hr : s.save r with
  | error e =>
      simp only [Store.answer, hr] at hid
      cases hid
  | ok p =>
      obtain ⟨id', t⟩ := p
      simp only [Store.answer, hr] at hid ⊢
      cases hid
      have ht := hs.save hr
      obtain ⟨hraises, hcovered⟩ := hf id t hr ht
      refine ⟨fun n hn => hraises n ?_, hcovered⟩
      obtain ⟨next, -, -, -, -, rfl, -⟩ := Store.save_cases hs hr
      have hx := Store.changedAt_put s (r.withId id) next
      have href : (r.withId id).ref = ⟨r.kind, id⟩ := by simp [Record.ref]
      rw [href] at hx
      exact hn.reaches hs ht hx

/-- A save that cannot move a server concerns what the record reaches. -/
theorem covered_save_notifyOf {β : Type} {r : Record} {f : Int → Action β} (hs : s.Sound)
    (hr : r.kind ≠ .server)
    (hf : ∀ id t, s.save r = .ok (id, t) → t.Sound →
      (∀ n, t.Reaches ⟨r.kind, id⟩ n → (f id).run.Raises t n) ∧ (f id).run.Covered t) :
    (ask (.save r) >>= f).run.Covered s := by
  refine covered_save hs fun id t hid ht => ⟨fun n hn => (hf id t hid ht).1 n ?_, (hf id t hid ht).2⟩
  rcases hn with hn | ⟨k, -, ⟨a, b, ha, -⟩, -⟩
  · exact hn
  · exact absurd (congrArg EntityRef.kind (hs.own ha)).symm hr

/-! ## Servers -/

theorem on_previousCluster (r : Server) (s : Store) :
    on (previousCluster r) s = (.ok (if 0 < r.id then
      ((s.find? ⟨.server, r.id⟩).bind Record.server?).map (·.clusterId) else none), s) := by
  unfold previousCluster
  split
  · rfl
  · rfl

/-- What follows the save of a server. -/
def notifyServer (previous : Option Int) (clusterId id : Int) : Action Outcome := do
  let outcome ← notifyOf ⟨.server, id⟩
  match previous with
  | some old =>
    if 0 < old && old ≠ clusterId then
      let report ← notify ⟨.cluster, old⟩
      let marked := OrdSet.union outcome.propagation.marked report.marked
      return { outcome with propagation := { outcome.propagation with marked } }
    else
      return outcome
  | none => return outcome

theorem saveServer_eq (r : Server) : saveServer r = (do
    let previous ← previousCluster r
    let id ← ask (.save (.server r))
    notifyServer previous r.clusterId id) := rfl

theorem makes_notifyServer (previous : Option Int) (clusterId id : Int) :
    (notifyServer previous clusterId id).run.Makes Call.Propagates := by
  refine makes_bind (makes_notifyOf _) fun o => ?_
  cases previous with
  | none => trivial
  | some old =>
      dsimp only
      split
      · exact makes_bind (makes_notify _) fun _ => trivial
      · trivial

theorem notifyServer_spec (hs : s.Sound) {previous : Option Int} {clusterId id : Int} {o : Outcome}
    (h : on (notifyServer previous clusterId id) s = (.ok o, t)) :
    s.Raised t o.propagation.marked := by
  obtain ⟨o', u, ho', h⟩ := on_bind_eq_ok h
  have hraised := (notifyOf_spec hs ho').2
  cases previous with
  | none =>
      cases h
      exact hraised
  | some old =>
      dsimp only at h
      split at h
      · obtain ⟨report, v, hn, h⟩ := on_bind_eq_ok h
        cases h
        exact hraised.trans (notify_spec (sound_of_on hs ho') hn).2.2
      · cases h
        exact hraised

/-- The propagation after a save reaches what the save concerns, if the previous cluster is known. -/
theorem raises_notifyServer (ht : t.Sound) {r : Server} {id : Int} {previous : Option Int}
    (hr : t.find? ⟨.server, id⟩ = some (.server r))
    (hp : ∀ a, s.find? ⟨.server, id⟩ = some (.server a) → previous = some a.clusterId)
    (h : s.Concerns t ⟨.server, id⟩ n) :
    (notifyServer previous r.clusterId id).run.Raises t n := by
  rcases h with h | ⟨k, hk, ⟨a, b, ha, hak, hb, hbk⟩, h⟩
  · exact raises_bind (raises_notifyOf ht h)
  · obtain rfl : previous = some k := by rw [hp a ha, hak]
    rw [hr] at hb
    cases hb
    refine raises_bind_right fun o u ho => ?_
    have hu := sound_of_on ht ho
    have hfleet := (notifyOf_spec ht ho).1
    have hmoved : (0 < k && k ≠ r.clusterId : Bool) = true := by
      simp only [Bool.and_eq_true, decide_eq_true_eq]
      exact ⟨hk, fun he => hbk he.symm⟩
    dsimp only
    rw [if_pos hmoved]
    exact raises_bind (raises_notify hu (hfleet.reaches h))

/-- A new server was not stored before, so one that was is read under its own id. -/
theorem previous_eq_of_stored (hs : s.Sound) {r a : Server} {previous : Option Int} {id : Int}
    (hp : on (previousCluster r) s = (.ok previous, s)) (hid : s.save (.server r) = .ok (id, t))
    (ha : s.find? ⟨.server, id⟩ = some (.server a)) : previous = some a.clusterId := by
  rw [on_previousCluster] at hp
  cases hp
  obtain ⟨_, -, -, -, -, -, hpos, hneg⟩ := Store.save_cases hs hid
  by_cases hpos' : 0 < r.id
  · obtain rfl : id = r.id := hpos hpos'
    rw [if_pos hpos', ha]
    rfl
  · obtain rfl : id = s.nextId := hneg (by simpa [Record.id] using hpos')
    exact absurd (hs.fresh ha) (lt_irrefl _)

theorem covered_saveServer (hs : s.Sound) (r : Server) : (saveServer r).run.Covered s := by
  rw [saveServer_eq]
  refine covered_bind (covered_finds (makes_previousCluster r)) fun previous u hp => ?_
  obtain rfl := store_of_finds (makes_previousCluster r) hp
  refine covered_save hs fun id t hid ht => ⟨fun n hn => ?_,
    Program.covered_of_sameFleet (makes_notifyServer _ _ _) fun _ s h => h.sameFleet s⟩
  have hr : t.find? ⟨.server, id⟩ = some (.server { r with id }) := by
    rw [Store.find?_save hs hid]
    exact if_pos rfl
  exact raises_notifyServer (r := { r with id }) ht hr (fun a ha => previous_eq_of_stored hs hp hid ha)
    hn

theorem saveServer_spec (hs : s.Sound) {r : Server} {o : Outcome}
    (h : on (saveServer r) s = (.ok o, t)) : s.Raised t o.propagation.marked := by
  rw [saveServer_eq] at h
  obtain ⟨previous, u, hp, h⟩ := on_bind_eq_ok h
  rw [on_previousCluster] at hp
  cases hp
  obtain ⟨id, u, hid, h⟩ := on_bind_eq_ok h
  have hid := on_save_ok hid
  exact (notifyServer_spec (hs.save hid) h).congr_left (Store.version_save hid)

/-! ## Records of any kind -/

theorem covered_saveRecord (hs : s.Sound) (r : Record) : (saveRecord r).run.Covered s := by
  rw [saveRecord_eq]
  refine covered_bind trivial fun _ u hu => ?_
  obtain ⟨-, rfl⟩ := of_on_check hu
  by_cases hkind : r.kind = .server
  · obtain ⟨r, rfl⟩ := Record.exists_server hkind
    exact covered_saveServer hs r
  · rw [writeRecord_of_ne_server hkind]
    exact covered_save_notifyOf hs hkind fun _ _ _ ht =>
      ⟨fun _ hn => raises_notifyOf ht hn, covered_notifyOf _⟩

theorem save_notifyOf_spec (hs : s.Sound) {r : Record} {target : Int → EntityRef} {o : Outcome}
    (h : on (ask (.save r) >>= fun id => notifyOf (target id)) s = (.ok o, t)) :
    s.Raised t o.propagation.marked := by
  obtain ⟨id, u, hid, h⟩ := on_bind_eq_ok h
  have hid := on_save_ok hid
  exact (notifyOf_spec (hs.save hid) h).2.congr_left (Store.version_save hid)

theorem saveRecord_spec (hs : s.Sound) {r : Record} {o : Outcome}
    (h : on (saveRecord r) s = (.ok o, t)) : s.Raised t o.propagation.marked := by
  obtain ⟨_, u, hu, h⟩ := on_bind_eq_ok h
  obtain ⟨-, rfl⟩ := of_on_check hu
  cases r with
  | server r => exact saveServer_spec hs h
  | cluster _ | node _ | serverGroup _ | reverseProxy _ | origin _ => exact save_notifyOf_spec hs h

/-! ## Groups -/

theorem requireServerGroup_spec (hs : s.Sound) {id : Int} {g : ServerGroup}
    (h : on (requireServerGroup id) s = (.ok g, t)) :
    s = t ∧ g.id = id ∧ s.find? ⟨.serverGroup, id⟩ = some (.serverGroup g) := by
  rw [requireServerGroup, on_bind, on_findServerGroup] at h
  dsimp only at h
  split at h
  · rename_i g' hg
    cases h
    obtain ⟨r, hr, hg⟩ := Option.bind_eq_some_iff.1 hg
    obtain rfl : r = .serverGroup g := by cases r <;> cases hg; rfl
    exact ⟨rfl, congrArg EntityRef.id (hs.own hr), hr⟩
  · cases h

theorem id_withSlot (g : ServerGroup) (p : Protocol) (r : RefText) : (g.withSlot p r).id = g.id := by
  cases p <;> rfl

theorem covered_setGroupProxy (hs : s.Sound) (id : Int) (p : Protocol) (r : Option ReverseProxyRef) :
    (setGroupProxy id p r).run.Covered s := by
  refine covered_bind trivial fun _ u hu => ?_
  obtain ⟨-, rfl⟩ := of_on_check hu
  refine covered_bind (covered_finds (makes_requireServerGroup id)) fun g u hg => ?_
  obtain ⟨rfl, hgid, hg⟩ := requireServerGroup_spec hs hg
  refine covered_bind trivial fun text v hv => ?_
  obtain ⟨-, rfl⟩ := of_on_check hv
  refine covered_save_notifyOf hs (by simp [Record.kind]) fun id' t hid ht => ?_
  obtain ⟨_, -, -, -, -, -, hpos, -⟩ := Store.save_cases hs hid
  obtain rfl : id' = id := by
    have hsame : (Record.serverGroup (g.withSlot p text)).id = id := (id_withSlot ..).trans hgid
    rw [hpos (by rw [hsame]; exact hs.positive hg), hsame]
  exact ⟨fun _ hn => raises_notifyOf ht hn, covered_notifyOf _⟩

theorem setGroupProxy_spec (hs : s.Sound) {id : Int} {p : Protocol} {r : Option ReverseProxyRef}
    {o : Outcome} (h : on (setGroupProxy id p r) s = (.ok o, t)) :
    s.Raised t o.propagation.marked := by
  obtain ⟨_, u, hu, h⟩ := on_bind_eq_ok h
  obtain ⟨-, rfl⟩ := of_on_check hu
  obtain ⟨g, u, hg, h⟩ := on_bind_eq_ok h
  obtain ⟨rfl, -, -⟩ := requireServerGroup_spec hs hg
  obtain ⟨text, v, hv, h⟩ := on_bind_eq_ok h
  obtain ⟨-, rfl⟩ := of_on_check hv
  exact save_notifyOf_spec hs h

theorem covered_rankGroups (hs : s.Sound) (groups : List ServerGroup) (report : Report) :
    (rankGroups groups report).run.Covered s := by
  induction groups generalizing s report with
  | nil => trivial
  | cons g groups ih =>
      refine covered_save_notifyOf hs (by simp [Record.kind]) fun id t hid ht => ⟨fun n hn => ?_, ?_⟩
      · exact raises_bind (raises_notify ht hn)
      · exact covered_bind (covered_notify _) fun _ u hu => ih (sound_of_on ht hu) _

theorem rankGroups_spec (hs : s.Sound) {groups : List ServerGroup} {report report' : Report}
    (h : on (rankGroups groups report) s = (.ok report', t)) {s₀ : Store}
    (h₀ : s₀.Raised s report.marked) : s₀.Raised t report'.marked := by
  induction groups generalizing s report with
  | nil =>
      cases h
      exact h₀
  | cons g groups ih =>
      obtain ⟨id, u, hid, h⟩ := on_bind_eq_ok h
      obtain ⟨propagated, v, hn, h⟩ := on_bind_eq_ok h
      have hid := on_save_ok hid
      have hu := hs.save hid
      have hraised := (notify_spec hu hn).2.2.congr_left (Store.version_save hid)
      exact ih (sound_of_on hu hn) h (h₀.trans hraised)

theorem orderGroups_eq {ids : List Int} (h : ids.length ≤ 2147483647) :
    orderGroups ids = (do
      let groups ← readGroups [] ids
      rankGroups groups {}) := by
  unfold orderGroups
  rw [if_neg (by omega)]

theorem covered_orderGroups (hs : s.Sound) (ids : List Int) : (orderGroups ids).run.Covered s := by
  by_cases hlen : ids.length ≤ 2147483647
  · rw [orderGroups_eq hlen]
    refine covered_bind (covered_finds (makes_readGroups _ _)) fun groups u hu => ?_
    obtain rfl := store_of_finds (makes_readGroups _ _) hu
    exact covered_rankGroups hs groups _
  · rw [orderGroups, if_pos (by omega)]
    trivial

theorem orderGroups_spec (hs : s.Sound) {ids : List Int} {report : Report}
    (h : on (orderGroups ids) s = (.ok report, t)) : s.Raised t report.marked := by
  by_cases hlen : ids.length ≤ 2147483647
  · rw [orderGroups_eq hlen] at h
    obtain ⟨groups, u, hu, h⟩ := on_bind_eq_ok h
    obtain rfl := store_of_finds (makes_readGroups _ _) hu
    exact rankGroups_spec hs h (.refl s)
  · rw [orderGroups, if_pos (by omega)] at h
    cases h

/-! ## States -/

/-- A change of state leaves every server in its cluster. -/
theorem Store.not_left_updateState {x : EntityRef} {state : EntityState} {k : Int} :
    ¬ s.Left (s.updateState x state).2 x k := by
  rintro ⟨a, b, ha, hak, hb, hbk⟩
  rw [find?_updateState, if_pos rfl, ha] at hb
  cases hb
  exact hbk hak

theorem covered_setState (hs : s.Sound) (x : EntityRef) (enabled : Bool) :
    (setState x enabled).run.Covered s := by
  refine covered_bind trivial fun _ u hu => ?_
  obtain ⟨-, rfl⟩ := of_on_check hu
  refine covered_ask fun found hfound => ?_
  have hfound : (s.updateState x (.ofBool enabled)).1 = found := Except.ok.inj hfound
  have ht : (s.updateState x (.ofBool enabled)).2.Sound := hs.updateState x _
  cases found with
  | false =>
      -- Nothing is stored there, so nothing was written.
      have hsame : (s.updateState x (.ofBool enabled)).2 = s := by
        cases hr : s.find? x with
        | none => rw [Store.updateState_of_find?_eq_none hr]
        | some r =>
            rw [Store.updateState_of_find?_eq_some hr] at hfound
            cases hfound
      refine ⟨fun n hn => ?_, trivial⟩
      change s.Touched (s.updateState x (.ofBool enabled)).2 n at hn
      rw [hsame] at hn
      exact ((Store.SameFleet.refl s).not_touched hn).elim
  | true =>
      refine ⟨fun n hn => ?_, covered_notifyOf x⟩
      rcases hn.reaches hs ht (Store.changedAt_updateState hfound) with hn | ⟨k, -, hleft, -⟩
      · exact raises_notifyOf ht hn
      · exact (Store.not_left_updateState hleft).elim

theorem setState_spec (hs : s.Sound) {x : EntityRef} {enabled : Bool} {o : Outcome}
    (h : on (setState x enabled) s = (.ok o, t)) : s.Raised t o.propagation.marked := by
  obtain ⟨_, u, hu, h⟩ := on_bind_eq_ok h
  obtain ⟨-, rfl⟩ := of_on_check hu
  obtain ⟨found, u, hfound, h⟩ := on_bind_eq_ok h
  have hu : (s.updateState x (.ofBool enabled)).2 = u := congrArg Prod.snd hfound
  have hversion (n : Int) : u.version n = s.version n := by
    rw [← hu, Store.version_updateState]
  cases found with
  | false => cases h
  | true =>
      refine (notifyOf_spec ?_ h).2.congr_left hversion
      rw [← hu]
      exact hs.updateState x _

/-! ## Every mutation -/

theorem covered_map {α β : Type} {f : α → β} {a : Action α} (h : a.run.Covered s) :
    (f <$> a).run.Covered s := by
  rw [← bind_pure_comp]
  exact covered_bind h fun _ _ _ => trivial

theorem Mutation.covered (m : Mutation) (hs : s.Sound) : m.action.run.Covered s := by
  cases m with
  | save r => exact covered_map (covered_saveRecord hs r)
  | setGroupProxy id p r => exact covered_map (covered_setGroupProxy hs id p r)
  | orderGroups ids => exact covered_orderGroups hs ids
  | setState x enabled => exact covered_map (covered_setState hs x enabled)

theorem of_on_map {α β : Type} {f : α → β} {a : Action α} {y : β}
    (h : on (f <$> a) s = (.ok y, t)) : ∃ x, on a s = (.ok x, t) ∧ f x = y := by
  rw [on_map] at h
  rcases hx : on a s with ⟨_ | x, u⟩ <;> rw [hx] at h <;> cases h
  exact ⟨x, rfl, rfl⟩

theorem Mutation.raised {m : Mutation} (hs : s.Sound) {report : Report}
    (h : on m.action s = (.ok report, t)) : s.Raised t report.marked := by
  cases m with
  | save r =>
      obtain ⟨o, ho, rfl⟩ := of_on_map h
      exact saveRecord_spec hs ho
  | setGroupProxy id p r =>
      obtain ⟨o, ho, rfl⟩ := of_on_map h
      exact setGroupProxy_spec hs ho
  | orderGroups ids => exact orderGroups_spec hs h
  | setState x enabled =>
      obtain ⟨o, ho, rfl⟩ := of_on_map h
      exact setState_spec hs ho

/-! ## Pending nodes -/

theorem mem_pendingNodes : n ∈ s.pendingNodes ↔
    (s.version n).isPending = true ∧ s.isEnabled ⟨.node, n⟩ = true := by
  simp only [Store.pendingNodes, List.mem_map, List.mem_filter, Bool.and_eq_true, Store.version]
  constructor
  · rintro ⟨⟨m, v⟩, ⟨hv, hp, he⟩, rfl⟩
    have hfind : s.versions.find? m = some v := OrdMap.find?_eq_some_iff.2 hv
    exact ⟨by rwa [hfind], he⟩
  · rintro ⟨hp, he⟩
    cases hfind : s.versions.find? n with
    | none =>
        rw [hfind] at hp
        cases hp
    | some v =>
        rw [hfind] at hp
        exact ⟨(n, v), ⟨OrdMap.find?_eq_some_iff.1 hfind, hp, he⟩, rfl⟩

theorem on_listPending_nodes (s : Store) :
    on (listPending .nodes) s = (.ok (OrdSet.ofList s.pendingNodes), s) := rfl

/-- A node whose version was raised has not applied it. -/
theorem Store.Raised.isPending {nodes : OrdSet Int} (h : s.Raised t nodes) (hs : s.Sound)
    (hn : n ∈ nodes) : (t.version n).isPending = true := by
  have := hs.applied_le n
  have := h.raised n hn
  have := h.applied n
  simp only [NodeVersion.isPending, decide_eq_true_eq]
  omega

/-- No node is stale after a mutation: those whose config it changed are marked, the marked ones are
those with a raised version, and the enabled ones among them are pending. -/
theorem Mutation.no_stale_node (hs : s.Reachable) (m : Mutation) {report : Report}
    (h : on m.action s = (.ok report, t)) :
    (∀ n, (on (fetch ⟨.node, n⟩) s).1 ≠ (on (fetch ⟨.node, n⟩) t).1 → n ∈ report.marked) ∧
      (∀ n, n ∈ report.marked ↔ (s.version n).version < (t.version n).version) ∧
      ∀ n ∈ report.marked, t.isEnabled ⟨.node, n⟩ = true →
        ∃ pending, (on (listPending .nodes) t).1 = .ok pending ∧ n ∈ pending := by
  have hraised := m.raised hs.sound h
  refine ⟨fun n hne => ?_, hraised.mem_iff, fun n hn he => ?_⟩
  · exact (hraised.mem_iff n).2 ((m.covered hs.sound).raises hs.sound h hne)
  · rw [on_listPending_nodes]
    exact ⟨_, rfl, OrdSet.mem_ofList.2 (mem_pendingNodes.2 ⟨hraised.isPending hs.sound hn, he⟩)⟩

/-- A node whose server comes to an origin by a group and the proxy of the group. -/
def layeredFleet : Store :=
  (Store.empty.loadSeed {
    clusters := [{ id := 1 }]
    nodes := [{ id := 10, clusterId := 1 }]
    servers := [{ id := 5, clusterId := 1, groupIds := ⟨"[4]"⟩ }]
    groups := [{ id := 4, httpReverseProxy := ⟨"\x7b\"reverseProxyId\":3\x7d"⟩ }]
    reverseProxies := [{ id := 3, primaryOrigins := ⟨"[\x7b\"originId\":8\x7d]"⟩ }]
    origins := [{ id := 8 }] }).2

/-- Another weight of the origin is another config of the node. -/
theorem Mutation.no_stale_node_edited_origin :
    layeredFleet.Reachable ∧ ∃ report t,
      on (Mutation.save (.origin { id := 8, weight := 5 })).action layeredFleet = (.ok report, t) ∧
      (on (fetch ⟨.node, 10⟩) layeredFleet).1 ≠ (on (fetch ⟨.node, 10⟩) t).1 ∧
      10 ∈ report.marked ∧ (layeredFleet.version 10).version < (t.version 10).version ∧
      t.isEnabled ⟨.node, 10⟩ = true ∧
      ∃ pending, (on (listPending .nodes) t).1 = .ok pending ∧ 10 ∈ pending := by
  have hs : layeredFleet.Reachable := .seed _ .empty
  have hok : (on (Mutation.save (.origin { id := 8, weight := 5 })).action layeredFleet).1.isOk
      = true := by decide +kernel
  have hne : (on (fetch ⟨.node, 10⟩) layeredFleet).1 ≠ (on (fetch ⟨.node, 10⟩)
      (on (Mutation.save (.origin { id := 8, weight := 5 })).action layeredFleet).2).1 := by
    decide +kernel
  have hon : (on (Mutation.save (.origin { id := 8, weight := 5 })).action layeredFleet).2.isEnabled
      ⟨.node, 10⟩ = true := by decide +kernel
  rcases hrun : on (Mutation.save (.origin { id := 8, weight := 5 })).action layeredFleet with ⟨o, t⟩
  rw [hrun] at hok hne hon
  cases o with
  | error e => cases hok
  | ok report =>
      obtain ⟨hchanged, hraised, hpending⟩ := Mutation.no_stale_node hs _ hrun
      have hmarked := hchanged 10 hne
      exact ⟨hs, report, t, rfl, hne, hmarked, (hraised 10).1 hmarked, hon, hpending 10 hmarked hon⟩

end Fleet
