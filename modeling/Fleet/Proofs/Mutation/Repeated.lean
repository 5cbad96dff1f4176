import Fleet.Proofs.Mutation.Strained

/-!
# Repeating a mutation

A mutation that was stopped by failing marks is made again. The second time it writes what is there
already, so it marks what the first time would have marked; what only the first write reached is lost
where its mark has failed.
-/

namespace Fleet

open Fleet.Action

variable {s t u : Store} {n : Int} {failed : List Int}

/-! ## Writing again -/

namespace Store

theorem changedAt_save (hs : s.Sound) {r : Record} {id : Int} (h : s.save r = .ok (id, t)) :
    s.ChangedAt t ⟨r.kind, id⟩ where
  stored := by
    rw [find?_save hs h, if_pos rfl]
    rfl
  frame y hy := by rw [find?_save hs h, if_neg hy]

/-- What is stored already is saved without a change. -/
theorem sameUnranked_save (hs : s.Sound) {r : Record} {id : Int} (h : s.save r = .ok (id, t))
    (hr : (s.find? r.ref).map Record.unranked = some r.unranked) :
    id = r.id ∧ s.SameUnranked t := by
  obtain ⟨r', hr', -⟩ := Option.map_eq_some_iff.1 hr
  obtain ⟨_, -, -, -, -, -, hid, -⟩ := save_cases hs h
  obtain rfl : id = r.id := hid (hs.positive hr')
  refine ⟨rfl, fun y => ?_⟩
  rw [find?_save hs h]
  split
  · rename_i hy
    rw [hy, Record.withId_self]
    exact hr.symm
  · rfl

/-- Only the server itself declares an edge from it upwards. -/
theorem mem_parentsOf_server (hs : s.Sound) {id : Int} {r : Server} {p : EntityRef}
    (hr : s.find? ⟨.server, id⟩ = some (.server r)) :
    p ∈ s.parentsOf ⟨.server, id⟩ ↔
      0 < r.clusterId ∧ p = ⟨.cluster, r.clusterId⟩ ∧ s.isEnabled p = true := by
  have hid : r.id = id := congrArg EntityRef.id (hs.own hr)
  rw [mem_parentsOf hs]
  constructor
  · rintro ⟨⟨y, q, hq, he⟩, hon⟩
    rcases Record.edge_cases he with ⟨hc, -, -⟩ | ⟨-, ⟨-, hc | hc⟩ | ⟨-, hc⟩ | ⟨-, hc⟩⟩
    · obtain rfl : y = ⟨.server, id⟩ := (hs.own hq).symm.trans hc.symm
      rw [hr] at hq
      cases hq
      simp only [Record.edges, Server.edges, List.mem_append, mem_edgesTo] at he
      rcases he with (he | ⟨-, hc, -⟩) | ⟨-, hc, -⟩
      · split at he
        · rename_i hpos
          exact ⟨hpos, congrArg Edge.parent (List.mem_singleton.1 he), hon⟩
        · cases he
      · cases hc
      · cases hc
    · cases hc
    · cases hc
    · cases hc
    · cases hc
  · rintro ⟨hpos, rfl, hon⟩
    refine ⟨⟨_, _, hr, ?_⟩, hon⟩
    simp only [Record.edges, Server.edges, if_pos hpos, hid, List.mem_append]
    exact .inl (.inl (List.mem_singleton_self _))

theorem reaches_server_iff (hs : s.Sound) {id : Int} {r : Server}
    (hr : s.find? ⟨.server, id⟩ = some (.server r)) :
    s.Reaches ⟨.server, id⟩ n ↔
      0 < r.clusterId ∧ s.isEnabled ⟨.cluster, r.clusterId⟩ = true ∧
        n ∈ s.enabledNodes r.clusterId := by
  constructor
  · intro h
    cases h with
    | here hn => cases hn
    | above hp hreach =>
        obtain ⟨hpos, rfl, hon⟩ := (mem_parentsOf_server hs hr).1 hp
        cases hreach with
        | here hn => exact ⟨hpos, hon, hn⟩
        | above hq _ => cases hq
  · rintro ⟨hpos, hon, hn⟩
    exact .above ((mem_parentsOf_server hs hr).2 ⟨hpos, rfl, hon⟩) (.here hn)

/-- What stands above an entity is not changed by a write of the entity, unless it is a server, which
names its cluster itself, or a node, which is reached itself. -/
theorem ChangedAt.reaches_of_reaches (hs : s.Sound) (ht : t.Sound) {x : EntityRef}
    (hx : s.ChangedAt t x) (hserver : x.kind ≠ .server) (hnode : x.kind ≠ .node) {y : EntityRef}
    (hy : y.kind.height ≤ x.kind.height) (h : t.Reaches y n) : s.Reaches y n := by
  induction h with
  | @here y n hn =>
      have hkeep (m : Int) : t.find? ⟨.node, m⟩ = s.find? ⟨.node, m⟩ :=
        hx.frame _ fun he => hnode (congrArg EntityRef.kind he).symm
      refine .here ?_
      obtain ⟨k, id⟩ := y
      cases k with
      | node => simpa only [direct, hkeep] using hn
      | cluster =>
          simp only [direct, mem_enabledNodes ht, hkeep] at hn
          exact (mem_enabledNodes hs).2 hn
      | server | serverGroup | reverseProxy | origin => cases hn
  | @above y p n hp _ ih =>
      have hheight := height_lt_of_mem_above ht hp
      have hlt : p.kind.height < x.kind.height := lt_of_lt_of_le hheight hy
      refine .above ?_ (ih hlt.le)
      rw [above_of_height_lt hheight] at hp ⊢
      obtain ⟨⟨z, r, hr, he⟩, hon⟩ := (mem_parentsOf ht).1 hp
      have hp' : p ≠ x := by
        rintro rfl
        exact lt_irrefl _ hlt
      have hz : z ≠ x := by
        rintro rfl
        rcases Record.edge_cases he with ⟨hc, hk, -⟩ | ⟨hc, -⟩
        · exact hserver (by rw [← ht.own hr, Record.ref_kind, hk])
        · exact hp' (by rw [← ht.own hr, ← hc])
      rw [hx.frame z hz] at hr
      obtain ⟨q, hq, hqon⟩ := isEnabled_iff.1 hon
      rw [hx.frame p hp'] at hq
      exact (mem_parentsOf hs).2 ⟨⟨z, r, hr, he⟩, isEnabled_iff.2 ⟨q, hq, hqon⟩⟩

end Store

/-! ## Records -/

theorem raises_saveRecord {r : Record} (hs : s.Sound)
    (h : ∀ id u, s.save r = .ok (id, u) → u.Sound → u.Reaches ⟨r.kind, id⟩ n) :
    (saveRecord r).run.Raises s n := by
  rw [saveRecord_eq]
  refine raises_bind_right fun _ u hu => ?_
  obtain ⟨-, rfl⟩ := of_on_check hu
  have hnotified {id : Int} {u : Store} (hu : on (ask (.save r)) s = (.ok id, u)) :
      (notifyOf ⟨r.kind, id⟩).run.Raises u n := by
    have hu := on_save_ok hu
    exact raises_notifyOf (hs.save hu) (h id u hu (hs.save hu))
  by_cases hkind : r.kind = .server
  · obtain ⟨r, rfl⟩ := Record.exists_server hkind
    rw [writeRecord, saveServer_eq]
    refine raises_bind_right fun previous u hp => ?_
    obtain rfl := store_of_finds (makes_previousCluster r) hp
    exact raises_bind_right fun id u hu => raises_bind (hnotified hu)
  · rw [writeRecord_of_ne_server hkind]
    exact raises_bind_right fun id u hu => hnotified hu

namespace Store

theorem SameFleet.fetch_eq (hs : s.Sound) (ht : t.Sound) (h : s.SameFleet t) (n : Int) :
    (on (fetch ⟨.node, n⟩) s).1 = (on (fetch ⟨.node, n⟩) t).1 :=
  by_contra fun hne => h.not_touched (touched_of_fetch_ne hs ht hne)

theorem reaches_cluster_iff {k : Int} : s.Reaches ⟨.cluster, k⟩ n ↔ n ∈ s.enabledNodes k := by
  constructor
  · intro h
    cases h with
    | here hn => exact hn
    | above hp _ => cases hp
  · exact fun hn => .here hn

theorem eq_of_reaches_node {m : Int} (h : s.Reaches ⟨.node, m⟩ n) : n = m := by
  cases h with
  | here hn =>
      simp only [direct] at hn
      split at hn
      · exact List.mem_singleton.1 hn
      · cases hn
  | above hp _ => cases hp

/-- A write of something else than nodes leaves the nodes of a cluster. -/
theorem ChangedAt.mem_enabledNodes_iff (hs : s.Sound) (ht : t.Sound) {x : EntityRef}
    (hx : s.ChangedAt t x) (hnode : x.kind ≠ .node) {k : Int} :
    n ∈ t.enabledNodes k ↔ n ∈ s.enabledNodes k := by
  have hkeep : t.find? ⟨.node, n⟩ = s.find? ⟨.node, n⟩ :=
    hx.frame _ fun he => hnode (congrArg EntityRef.kind he).symm
  rw [mem_enabledNodes hs, mem_enabledNodes ht, hkeep]

/-- A new server reaches what any other new server with the same cluster reaches. -/
theorem reaches_new_server (hs : s.Sound) (ht : t.Sound) {r : Server} {id id' : Int}
    (hu : s.save (.server r) = .ok (id, u)) (hfleet : u.SameFleet t)
    {u' : Store} (hu' : t.save (.server r) = .ok (id', u')) (h : u.Reaches ⟨.server, id⟩ n) :
    u'.Reaches ⟨.server, id'⟩ n := by
  have hus := hs.save hu
  have hus' := ht.save hu'
  have hr : u.find? ⟨.server, id⟩ = some (.server { r with id }) := by
    rw [find?_save hs hu]
    exact if_pos rfl
  have hr' : u'.find? ⟨.server, id'⟩ = some (.server { r with id := id' }) := by
    rw [find?_save ht hu']
    exact if_pos rfl
  have hx' := changedAt_save ht hu'
  obtain ⟨hpos, hon, hn⟩ := (reaches_server_iff hus hr).1 h
  refine (reaches_server_iff hus' hr').2 ⟨hpos, ?_, ?_⟩
  · have hkeep : u'.find? ⟨.cluster, r.clusterId⟩ = t.find? ⟨.cluster, r.clusterId⟩ :=
      hx'.frame _ fun he => nomatch congrArg EntityRef.kind he
    rw [isEnabled, hkeep, hfleet.find?_eq]
    exact hon
  · rw [hx'.mem_enabledNodes_iff ht hus' (by simp [Record.kind]), mem_enabledNodes ht,
      hfleet.find?_eq]
    exact (mem_enabledNodes hus).1 hn

theorem nextId_save_new {r : Record} {id : Int} (hr : r.id ≤ 0) (h : s.save r = .ok (id, t)) :
    id = s.nextId ∧ t.nextId = s.nextId + 1 := by
  rw [save, if_pos hr] at h
  split at h
  · cases h
    exact ⟨rfl, rfl⟩
  · cases h

/-- A new record that is saved twice reaches, the second time, what the id after the free one has
reached before. -/
theorem reaches_next_new (hs : s.Sound) (ht : t.Sound) {r : Record} {id id' : Int} (hr : r.id ≤ 0)
    (hu : s.save r = .ok (id, u)) (hfleet : u.SameFleet t) {u' : Store}
    (hu' : t.save r = .ok (id', u')) (h : s.Reaches ⟨r.kind, s.nextId + 1⟩ n) :
    u'.Reaches ⟨r.kind, id'⟩ n := by
  have hx := changedAt_save hs hu
  have hx' := changedAt_save ht hu'
  obtain ⟨rfl, hnext⟩ := nextId_save_new hr hu
  obtain ⟨rfl, -⟩ := nextId_save_new hr hu'
  have hnext' : t.nextId = s.nextId + 1 := hfleet.nextId_eq.trans hnext
  have hfirst := hx.reaches_of_fresh hs (hs.save hu) (hs.find?_nextId _) h
  refine hx'.reaches_of_fresh ht (ht.save hu') (ht.find?_nextId _) ?_
  rw [hnext']
  exact hfleet.reaches hfirst

end Store

/-- The nodes that neither attempt is bound to mark, where the marks of `failed` have failed in the first
one. A new node has another id the second time. So has any other new record, and the nodes to which the
free id led already are not reached from the next one, unless it leads to them as well. And when a server
is saved again, the cluster that it left is not known any more: a node of it is lost if its mark has
failed, or was not tried as one in the new cluster had failed before. -/
inductive Mutation.Loses (s : Store) (failed : List Int) : Mutation → Int → Prop where
  | created {r : Node} : r.id = 0 → s.nextId ∈ failed → Loses s failed (.save (.node r)) s.nextId
  | named {r : Record} {n : Int} : r.id = 0 → r.kind ≠ .server →
      s.Reaches ⟨r.kind, s.nextId⟩ n → ¬ s.Reaches ⟨r.kind, s.nextId + 1⟩ n → n ∈ failed →
      Loses s failed (.save r) n
  | left {r a : Server} {n : Int} : s.find? ⟨.server, r.id⟩ = some (.server a) →
      0 < a.clusterId → a.clusterId ≠ r.clusterId → n ∈ s.enabledNodes a.clusterId → n ∈ failed →
      Loses s failed (.save (.server r)) n
  | skipped {r a : Server} {m n : Int} : s.find? ⟨.server, r.id⟩ = some (.server a) →
      0 < a.clusterId → a.clusterId ≠ r.clusterId → n ∈ s.enabledNodes a.clusterId →
      m ∈ s.enabledNodes r.clusterId → m ∈ failed → Loses s failed (.save (.server r)) n

/-- What a save concerns is reached from the record, or the record is a server that left the cluster of
the node. -/
theorem Store.Concerns.reaches_or_left (hs : s.Sound) {r : Record} {id : Int}
    (hu : s.save r = .ok (id, u)) (h : s.Concerns u ⟨r.kind, id⟩ n) :
    u.Reaches ⟨r.kind, id⟩ n ∨ ∃ b a : Server, r = .server b ∧ id = b.id ∧
      s.find? ⟨.server, b.id⟩ = some (.server a) ∧ 0 < a.clusterId ∧ a.clusterId ≠ b.clusterId ∧
      n ∈ s.enabledNodes a.clusterId := by
  rcases h with h | ⟨k, hk, ⟨a, b, ha, rfl, hb, hbk⟩, h⟩
  · exact .inl h
  · have hus := hs.save hu
    have hkind : r.kind = .server := (congrArg EntityRef.kind (hs.own ha)).symm
    obtain ⟨_, -, -, -, -, -, hpos, hneg⟩ := Store.save_cases hs hu
    obtain ⟨r, rfl⟩ := Record.exists_server hkind
    have hid : id = r.id := by
      by_contra hne
      have hle : r.id ≤ 0 := by
        by_contra hgt
        exact hne (hpos (by simpa [Record.id] using hgt))
      obtain rfl : id = s.nextId := hneg hle
      exact lt_irrefl _ (hs.fresh ha)
    subst hid
    rw [Store.find?_save hs hu, if_pos rfl] at hb
    cases hb
    refine .inr ⟨r, a, rfl, rfl, ha, hk, fun he => hbk he.symm, ?_⟩
    rw [Store.reaches_cluster_iff] at h
    exact ((Store.changedAt_save hs hu).mem_enabledNodes_iff hs hus (by simp [Record.kind])).1 h

/-- What follows the save of a server raises what the save concerns, but for the nodes whose marks have
failed, and for those of the cluster that the server left if it stopped before them. -/
theorem strained_notifyServer (hu : u.Sound) {r : Server} {id : Int} (hid : 0 < id)
    {previous : Option Int} (hr : u.find? ⟨.server, id⟩ = some (.server r))
    (hp : ∀ a, s.find? ⟨.server, id⟩ = some (.server a) → previous = some a.clusterId)
    {o : Except Failure Outcome}
    (h : (notifyServer previous r.clusterId id).run.Strained u failed o t) (hn : n ∉ failed)
    (hconcerns : s.Concerns u ⟨.server, id⟩ n)
    (hreached : u.Reaches ⟨.server, id⟩ n ∨ ∀ m ∈ failed, ¬ u.Reaches ⟨.server, id⟩ m) :
    (u.version n).version < (t.version n).version := by
  have hserver (hreach : u.Reaches ⟨.server, id⟩ n) :
      (u.version n).version < (t.version n).version :=
    tries_bind (tries_notifyOf hu hid hreach) _ _ _ h hn
  rcases hreached with hreach | hnone
  · exact hserver hreach
  rcases hconcerns with hreach | ⟨k, hk, ⟨a, b, ha, hak, hb, hbk⟩, hreach⟩
  · exact hserver hreach
  obtain rfl : previous = some k := by rw [hp a ha, hak]
  rw [hr] at hb
  cases hb
  rcases strained_bind h with ⟨e, h, -⟩ | ⟨outcome, v, before, after, rfl, hfirst, h⟩
  · obtain ⟨m, hm, hreach⟩ := exists_failed_of_notifyOf hu hid h
    exact absurd hreach (hnone m hm)
  have hfleet := hfirst.sameFleet (makes_notifyOf _)
  have hmoved : (0 < k && k ≠ r.clusterId : Bool) = true := by
    simp only [Bool.and_eq_true, decide_eq_true_eq]
    exact ⟨hk, fun he => hbk he.symm⟩
  dsimp only at h
  rw [if_pos hmoved] at h
  exact lt_of_le_of_lt (hfirst.version_le n)
    (tries_bind (tries_notify (hfirst.sound hu) hk (hfleet.reaches hreach)) _ _ _ h
      fun hmem => hn (List.mem_append_right _ hmem))

/-- A strained save has done nothing, or has left the record as it wrote it. Then it has raised what the
save concerns, but for the nodes whose marks have failed and those that it did not come to. -/
theorem strained_saveRecord (hs : s.Sound) {r : Record} {o : Except Failure Outcome}
    (h : (saveRecord r).run.Strained s failed o t) :
    s = t ∨ ∃ id u, 0 ≤ r.id ∧ s.save r = .ok (id, u) ∧ u.SameFleet t ∧
      ∀ n, s.Concerns u ⟨r.kind, id⟩ n → n ∉ failed →
        (u.Reaches ⟨r.kind, id⟩ n ∨ ∀ m ∈ failed, ¬ u.Reaches ⟨r.kind, id⟩ m) →
        (u.version n).version < (t.version n).version := by
  rw [saveRecord_eq] at h
  rcases strained_check h with ⟨rfl, -⟩ | ⟨_, hcheck, h⟩
  · exact .inl rfl
  have hnonneg : 0 ≤ r.id := by
    unfold checkId at hcheck
    split at hcheck
    · cases hcheck
    · omega
  by_cases hkind : r.kind = .server
  · obtain ⟨r, rfl⟩ := Record.exists_server hkind
    rw [writeRecord, saveServer_eq] at h
    rcases strained_reads ((makes_previousCluster r).imp fun _ h => h.walks) h with
      ⟨⟨rfl, -⟩, -⟩ | ⟨previous, hp, h⟩
    · exact .inl rfl
    rcases strained_save h with ⟨rfl, -⟩ | ⟨id, u, hu, h⟩
    · exact .inl rfl
    obtain ⟨_, hid, -⟩ := Store.save_cases hs hu
    refine .inr ⟨id, u, hnonneg, hu, h.sameFleet (makes_notifyServer _ _ _), fun n hn hkept => ?_⟩
    have hr : u.find? ⟨.server, id⟩ = some (.server { r with id }) := by
      rw [Store.find?_save hs hu]
      exact if_pos rfl
    exact strained_notifyServer (r := { r with id }) (hs.save hu) hid hr
      (fun a ha => previous_eq_of_stored hs hp hu ha) h hkept hn
  · rw [writeRecord_of_ne_server hkind] at h
    rcases strained_save h with ⟨rfl, -⟩ | ⟨id, u, hu, h⟩
    · exact .inl rfl
    obtain ⟨_, hid, -⟩ := Store.save_cases hs hu
    refine .inr ⟨id, u, hnonneg, hu, h.sameFleet (makes_notifyOf _), fun n hn hkept _ => ?_⟩
    rcases hn.reaches_or_left hs hu with hreach | ⟨b, _, rfl, -⟩
    · exact tries_notifyOf (hs.save hu) hid hreach _ _ _ h hkept
    · exact absurd rfl hkind

/-- What the record reached and the first attempt failed to mark, the second one raises, unless it is
lost. -/
theorem raises_saveRecord_again (hs : s.Sound) (ht : t.Sound) {r : Record} {id : Int}
    (hnonneg : 0 ≤ r.id) (hu : s.save r = .ok (id, u)) (hfleet : u.SameFleet t)
    (hreach : u.Reaches ⟨r.kind, id⟩ n) (hmem : n ∈ failed)
    (hn : ¬ Mutation.Loses s failed (.save r) n) : (saveRecord r).run.Raises t n := by
  have hus := hs.save hu
  have hx := Store.changedAt_save hs hu
  obtain ⟨_, -, -, -, -, -, hpos, hneg⟩ := Store.save_cases hs hu
  refine raises_saveRecord ht fun id' u' hu' hus' => ?_
  by_cases hid : 0 < r.id
  · obtain rfl : id = r.id := hpos hid
    have hstored : t.find? r.ref = some r := by
      rw [hfleet.find?_eq, Store.find?_save hs hu, Record.withId_self]
      exact if_pos rfl
    obtain ⟨rfl, hsame⟩ := Store.sameUnranked_save ht hu' (by rw [hstored]; rfl)
    exact hsame.reaches ht hus' (hfleet.reaches hreach)
  · have hzero : r.id = 0 := by omega
    obtain rfl : id = s.nextId := hneg (by omega)
    cases r with
    | server r => exact Store.reaches_new_server hs ht hu hfleet hu' hreach
    | node r =>
        obtain rfl := Store.eq_of_reaches_node hreach
        exact absurd (.created hzero hmem) hn
    | cluster r | serverGroup r | reverseProxy r | origin r =>
        have hnamed := hx.reaches_of_reaches hs hus (by simp [Record.kind]) (by simp [Record.kind])
          le_rfl hreach
        refine Store.reaches_next_new hs ht hzero.le hu hfleet hu' (by_contra fun hnone => hn ?_)
        exact .named hzero (by simp [Record.kind]) hnamed hnone hmem

theorem raised_saveRecord_twice (hs : s.Sound) {r : Record} {o : Except Failure Outcome}
    (h : (saveRecord r).run.Strained s failed o t) (hn : ¬ Mutation.Loses s failed (.save r) n)
    (hne : (on (fetch ⟨.node, n⟩) s).1 ≠ (on (fetch ⟨.node, n⟩) t).1) :
    (s.version n).version < (t.version n).version ∨ (saveRecord r).run.Raises t n := by
  have ht := h.sound hs
  rcases strained_saveRecord hs h with rfl | ⟨id, u, hnonneg, hu, hfleet, hraised⟩
  · exact absurd rfl hne
  have hus := hs.save hu
  have hx := Store.changedAt_save hs hu
  rw [← hfleet.fetch_eq hus ht n] at hne
  rw [← Store.version_save hu]
  have hconcerns := (Store.touched_of_fetch_ne hs hus hne).reaches hs hus hx
  rcases Store.Concerns.reaches_or_left hs hu hconcerns with
    hreach | ⟨b, a, rfl, rfl, ha, hpos, hmoved, hleft⟩
  · by_cases hmem : n ∈ failed
    · exact .inr (raises_saveRecord_again hs ht hnonneg hu hfleet hreach hmem hn)
    · exact .inl (hraised n hconcerns hmem (.inl hreach))
  · have hmem : n ∉ failed := fun hmem => hn (.left ha hpos hmoved hleft hmem)
    refine .inl (hraised n hconcerns hmem (.inr fun m hm hreach => hn ?_))
    have hb : u.find? ⟨.server, b.id⟩ = some (.server b) := by
      rw [Store.find?_save hs hu]
      exact if_pos rfl
    obtain ⟨-, -, hnew⟩ := (Store.reaches_server_iff hus hb).1 hreach
    rw [hx.mem_enabledNodes_iff hs hus (by simp [Record.kind])] at hnew
    exact .skipped ha hpos hmoved hleft hnew hm

/-- The nodes of a new record that are lost are marked by neither attempt. -/
theorem Mutation.version_eq_of_loses_new (hs : s.Sound) {r : Record} (hserver : r.kind ≠ .server)
    {o : Except Failure Report} (h₁ : (Mutation.save r).action.run.Strained s failed o t)
    {report : Report} (h₂ : on (Mutation.save r).action t = (.ok report, u))
    (hn : Mutation.Loses s failed (.save r) n) : (u.version n).version = (s.version n).version := by
  obtain ⟨hzero, hmem⟩ : r.id = 0 ∧ n ∈ failed := by
    cases hn with
    | created hzero hmem => exact ⟨hzero, hmem⟩
    | named hzero _ _ _ hmem => exact ⟨hzero, hmem⟩
    | left | skipped => exact absurd rfl hserver
  have hnonempty : failed ≠ [] := List.ne_nil_of_mem hmem
  obtain ⟨o, h₁⟩ := strained_map h₁
  obtain ⟨o', h₂, -⟩ := of_on_map h₂
  rw [saveRecord_eq, writeRecord_of_ne_server hserver] at h₁ h₂
  rcases strained_check h₁ with ⟨-, hnil⟩ | ⟨_, -, h₁⟩
  · exact absurd hnil hnonempty
  rcases strained_save h₁ with ⟨-, hnil⟩ | ⟨id, v, hv, h₁⟩
  · exact absurd hnil hnonempty
  have hvs := hs.save hv
  have ht := h₁.sound hvs
  have hfleet := h₁.sameFleet (makes_notifyOf _)
  obtain ⟨rfl, hnext⟩ := Store.nextId_save_new hzero.le hv
  -- The first attempt marks each node once, and this mark has failed.
  have hfirst : t.version n = v.version n := by
    obtain ⟨_, hnotify, -⟩ := notify_of_notifyOf h₁
    exact (strained_notify hvs hs.nextId_pos hnotify).2.2.1 n fun _ => hmem
  obtain ⟨_, w, hw, h₂⟩ := on_bind_eq_ok h₂
  obtain ⟨-, rfl⟩ := of_on_check hw
  obtain ⟨id', w, hw, h₂⟩ := on_bind_eq_ok h₂
  have hw := on_save_ok hw
  have hws := ht.save hw
  obtain ⟨rfl, -⟩ := Store.nextId_save_new hzero.le hw
  obtain ⟨report, w', hnotify, ho'⟩ := on_bind_eq_ok h₂
  cases ho'
  obtain ⟨hmarked, -, hraised⟩ := notify_spec hws hnotify
  have hnext' : t.nextId = s.nextId + 1 := hfleet.nextId_eq.trans hnext
  -- The second one marks what the next id reaches.
  have hsecond : ¬ w.Reaches ⟨r.kind, t.nextId⟩ n := by
    intro hreach
    cases hn with
    | created =>
        have heq := Store.eq_of_reaches_node hreach
        omega
    | named _ _ hfree hagain =>
        by_cases hnode : r.kind = .node
        · rw [hnode] at hfree hreach
          have hfree := Store.eq_of_reaches_node hfree
          have hreach := Store.eq_of_reaches_node hreach
          omega
        · have hbefore := (Store.changedAt_save ht hw).reaches_of_reaches ht hws hserver hnode le_rfl
            hreach
          rw [hnext'] at hbefore
          exact hagain ((Store.changedAt_save hs hv).reaches_of_reaches hs hvs hserver hnode le_rfl
            (hfleet.symm.reaches hbefore))
    | left | skipped => exact absurd rfl hserver
  rw [hraised.kept n fun h => hsecond ((hmarked n).1 h), Store.version_save hw, hfirst,
    Store.version_save hv]

/-! ## States -/

theorem strained_setState {x : EntityRef} {enabled : Bool} {o : Except Failure Outcome}
    (h : (setState x enabled).run.Strained s failed o t) :
    s.SameFleet t ∨ ∃ r, s.find? x = some r ∧
      (s.updateState x (.ofBool enabled)).2.SameFleet t := by
  rcases strained_check h with ⟨rfl, -⟩ | ⟨_, -, h⟩
  · exact .inl (.refl s)
  rw [run_ask_bind] at h
  cases h with
  | call h =>
      have hfleet : (s.updateState x (.ofBool enabled)).2.SameFleet t := by
        refine h.sameFleet ?_
        simp only [Store.answer]
        cases (s.updateState x (.ofBool enabled)).1 with
        | false => trivial
        | true => exact makes_notifyOf x
      cases hr : s.find? x with
      | none =>
          have hsame : (s.updateState x (.ofBool enabled)).2 = s := by
            rw [Store.updateState_of_find?_eq_none hr]
          rw [hsame] at hfleet
          exact .inl hfleet
      | some r => exact .inr ⟨r, rfl, hfleet⟩

/-- A state that is there already is set without a change. -/
theorem raises_setState (hs : s.Sound) {x : EntityRef} {enabled : Bool} {r : Record}
    (hr : s.find? x = some (r.withState (.ofBool enabled))) (h : s.Reaches x n) :
    (setState x enabled).run.Raises s n := by
  have hsame : s.SameUnranked (s.updateState x (.ofBool enabled)).2 := by
    intro y
    rw [Store.find?_updateState]
    split
    · rename_i hy
      subst hy
      rw [hr]
      cases r <;> rfl
    · rfl
  refine raises_bind_right fun _ u hu => ?_
  obtain ⟨-, rfl⟩ := of_on_check hu
  refine raises_bind_right fun found u hu => ?_
  obtain rfl : (s.updateState x (.ofBool enabled)).2 = u := congrArg Prod.snd hu
  cases found with
  | false => exact fun _ _ h => nomatch h
  | true => exact raises_notifyOf (hs.updateState x _) (hsame.reaches hs (hs.updateState x _) h)

theorem raises_setState_again (hs : s.Sound) {x : EntityRef} {enabled : Bool}
    {o : Except Failure Outcome} (h : (setState x enabled).run.Strained s failed o t)
    (hne : (on (fetch ⟨.node, n⟩) s).1 ≠ (on (fetch ⟨.node, n⟩) t).1) :
    (setState x enabled).run.Raises t n := by
  have ht := h.sound hs
  rcases strained_setState h with hfleet | ⟨r, hr, hfleet⟩
  · exact absurd (hfleet.fetch_eq hs ht n) hne
  have hus : (s.updateState x (.ofBool enabled)).2.Sound := hs.updateState x _
  rw [← hfleet.fetch_eq hus ht n] at hne
  have hfound : (s.updateState x (.ofBool enabled)).1 = true := by simp [Store.updateState, hr]
  have hset : t.find? x = some (r.withState (.ofBool enabled)) := by
    rw [hfleet.find?_eq, Store.find?_updateState, if_pos rfl, hr]
    rfl
  refine raises_setState ht hset (hfleet.reaches ?_)
  rcases (Store.touched_of_fetch_ne hs hus hne).reaches hs hus
    (Store.changedAt_updateState hfound) with hreach | ⟨k, -, hleft, -⟩
  · exact hreach
  · exact (Store.not_left_updateState hleft).elim

/-! ## The proxy of a group -/

theorem strained_setGroupProxy (hs : s.Sound) {id : Int} {p : Protocol}
    {r : Option ReverseProxyRef} {o : Except Failure Outcome}
    (h : (setGroupProxy id p r).run.Strained s failed o t) :
    s.SameFleet t ∨ ∃ (g : ServerGroup) (text : RefText) (u : Store), g.id = id ∧
      s.find? ⟨.serverGroup, id⟩ = some (.serverGroup g) ∧ proxyText r = .ok text ∧
      s.save (.serverGroup (g.withSlot p text)) = .ok (id, u) ∧ u.SameFleet t := by
  rcases strained_check h with ⟨rfl, -⟩ | ⟨_, -, h⟩
  · exact .inl (.refl s)
  rcases strained_reads ((makes_requireServerGroup id).imp fun _ h => h.walks) h with
    ⟨⟨rfl, -⟩, -⟩ | ⟨g, hg, h⟩
  · exact .inl (.refl s)
  obtain ⟨-, hgid, hg⟩ := requireServerGroup_spec hs hg
  rcases strained_check h with ⟨rfl, -⟩ | ⟨text, htext, h⟩
  · exact .inl (.refl s)
  rcases strained_save h with ⟨rfl, -⟩ | ⟨id', u, hu, h⟩
  · exact .inl (.refl s)
  have hpositive : 0 < id := hs.positive hg
  have hwid : (Record.serverGroup (g.withSlot p text)).id = id := (id_withSlot ..).trans hgid
  obtain ⟨_, -, -, -, -, -, hpos, -⟩ := Store.save_cases hs hu
  obtain rfl : id = id' := by rw [hpos (by rw [hwid]; exact hpositive), hwid]
  exact .inr ⟨g, text, u, hgid, hg, htext, hu, h.sameFleet (makes_notifyOf _)⟩

/-- A slot that is there already is set without a change. -/
theorem raises_setGroupProxy (hs : s.Sound) {id : Int} {p : Protocol} {r : Option ReverseProxyRef}
    {g : ServerGroup} {text : RefText} (htext : proxyText r = .ok text)
    (hg : s.find? ⟨.serverGroup, id⟩ = some (.serverGroup (g.withSlot p text)))
    (h : s.Reaches ⟨.serverGroup, id⟩ n) : (setGroupProxy id p r).run.Raises s n := by
  refine raises_bind_right fun _ u hu => ?_
  obtain ⟨-, rfl⟩ := of_on_check hu
  refine raises_bind_right fun g' u hu => ?_
  obtain ⟨rfl, hgid, hg'⟩ := requireServerGroup_spec hs hu
  obtain rfl : g.withSlot p text = g' := by
    rw [hg] at hg'
    cases hg'
    rfl
  refine raises_bind_right fun text' u hu => ?_
  obtain ⟨htext', rfl⟩ := of_on_check hu
  rw [htext] at htext'
  cases htext'
  have hagain : (g.withSlot p text).withSlot p text = g.withSlot p text := by cases p <;> rfl
  rw [hagain]
  refine raises_bind_right fun id' u hu => ?_
  have hu := on_save_ok hu
  have hstored : s.find? (Record.serverGroup (g.withSlot p text)).ref
      = some (.serverGroup (g.withSlot p text)) := by
    rw [hs.own hg, hg]
  obtain ⟨-, hsame⟩ := Store.sameUnranked_save hs hu (by rw [hstored]; rfl)
  exact raises_notifyOf (hs.save hu) (hsame.reaches hs (hs.save hu) h)

/-- Only servers leave clusters. -/
theorem Store.Left.kind_eq (hs : s.Sound) {x : EntityRef} {k : Int} (h : s.Left t x k) :
    x.kind = .server := by
  obtain ⟨a, b, ha, -⟩ := h
  exact (congrArg EntityRef.kind (hs.own ha)).symm

theorem raises_setGroupProxy_again (hs : s.Sound) {id : Int} {p : Protocol}
    {r : Option ReverseProxyRef} {o : Except Failure Outcome}
    (h : (setGroupProxy id p r).run.Strained s failed o t)
    (hne : (on (fetch ⟨.node, n⟩) s).1 ≠ (on (fetch ⟨.node, n⟩) t).1) :
    (setGroupProxy id p r).run.Raises t n := by
  have ht := h.sound hs
  rcases strained_setGroupProxy hs h with hfleet | ⟨g, text, u, rfl, -, htext, hu, hfleet⟩
  · exact absurd (hfleet.fetch_eq hs ht n) hne
  have hus := hs.save hu
  rw [← hfleet.fetch_eq hus ht n] at hne
  have hset : t.find? ⟨.serverGroup, g.id⟩ = some (.serverGroup (g.withSlot p text)) := by
    rw [hfleet.find?_eq, Store.find?_save hs hu]
    cases p <;> exact if_pos rfl
  refine raises_setGroupProxy ht htext hset (hfleet.reaches ?_)
  rcases (Store.touched_of_fetch_ne hs hus hne).reaches hs hus
    (Store.changedAt_save hs hu) with hreach | ⟨k, -, hleft, -⟩
  · exact hreach
  · cases hleft.kind_eq hs

/-! ## The order of groups -/

/-- The group is stored, but for its order. -/
def Store.HasGroup (s : Store) (g : ServerGroup) : Prop :=
  (s.find? ⟨.serverGroup, g.id⟩).map Record.unranked = some (Record.serverGroup g).unranked

theorem Store.SameUnranked.hasGroup {g : ServerGroup} (h : s.SameUnranked t) (hg : s.HasGroup g) :
    t.HasGroup g := (h _).trans hg

theorem Store.save_ranked (hs : s.Sound) {g : ServerGroup} {order id : Int} (hg : s.HasGroup g)
    (h : s.save (.serverGroup { g with order }) = .ok (id, t)) : id = g.id ∧ s.SameUnranked t :=
  sameUnranked_save hs h hg

/-- A strained ranking changes nothing but orders, and what it touched stands above its groups. -/
theorem strained_rankGroups (hs : s.Sound) {groups : List ServerGroup} {report : Report}
    {o : Except Failure Report} (h : (rankGroups groups report).run.Strained s failed o t)
    (hstored : ∀ g ∈ groups, s.HasGroup g) :
    s.SameUnranked t ∧ ∀ n, (on (fetch ⟨.node, n⟩) s).1 ≠ (on (fetch ⟨.node, n⟩) t).1 →
      ∃ g ∈ groups, t.Reaches ⟨.serverGroup, g.id⟩ n := by
  induction groups generalizing s report failed with
  | nil =>
      cases h
      exact ⟨.refl _, fun n hne => absurd rfl hne⟩
  | cons g groups ih =>
      have ht := h.sound hs
      rcases strained_save h with ⟨rfl, -⟩ | ⟨id, u, hu, h⟩
      · exact ⟨.refl s, fun n hne => absurd rfl hne⟩
      obtain ⟨rfl, hsu⟩ := Store.save_ranked hs (hstored g (by simp)) hu
      have hus := hs.save hu
      -- The first write touches what the group reaches, whatever follows.
      have hfirst (hut : u.SameUnranked t) {n : Int}
          (hne : (on (fetch ⟨.node, n⟩) s).1 ≠ (on (fetch ⟨.node, n⟩) u).1) :
          t.Reaches ⟨.serverGroup, g.id⟩ n := by
        refine hut.reaches hus ht ?_
        rcases (Store.touched_of_fetch_ne hs hus hne).reaches hs hus
          (Store.changedAt_save hs hu) with hreach | ⟨k, -, hleft, -⟩
        · exact hreach
        · cases hleft.kind_eq hs
      rcases strained_bind h with ⟨e, h, -⟩ | ⟨propagated, v, before, after, rfl, hv, h⟩
      · have hfleet : u.SameFleet t := h.sameFleet (makes_notify _)
        refine ⟨hsu.trans hfleet.sameUnranked, fun n hne => ⟨g, by simp, ?_⟩⟩
        rw [← hfleet.fetch_eq hus ht n] at hne
        exact hfirst hfleet.sameUnranked hne
      · have hfleet : u.SameFleet v := hv.sameFleet (makes_notify _)
        have hvs := hv.sound hus
        have hsv := hsu.trans hfleet.sameUnranked
        obtain ⟨hvt, hrest⟩ := ih hvs h fun g' hg' =>
          hsv.hasGroup (hstored g' (List.mem_cons_of_mem _ hg'))
        refine ⟨hsv.trans hvt, fun n hne => ?_⟩
        by_cases hsame : (on (fetch ⟨.node, n⟩) s).1 = (on (fetch ⟨.node, n⟩) u).1
        · rw [hsame, hfleet.fetch_eq hus hvs n] at hne
          obtain ⟨g', hg', hreach⟩ := hrest n hne
          exact ⟨g', List.mem_cons_of_mem _ hg', hreach⟩
        · exact ⟨g, by simp, hfirst (hfleet.sameUnranked.trans hvt) hsame⟩

theorem raises_rankGroups (hs : s.Sound) {groups : List ServerGroup} {report : Report}
    (hstored : ∀ g ∈ groups, s.HasGroup g)
    (h : ∃ g ∈ groups, s.Reaches ⟨.serverGroup, g.id⟩ n) :
    (rankGroups groups report).run.Raises s n := by
  induction groups generalizing s report with
  | nil =>
      obtain ⟨g, hg, -⟩ := h
      cases hg
  | cons g groups ih =>
      refine raises_bind_right fun id u hu => ?_
      have hu := on_save_ok hu
      obtain ⟨rfl, hsu⟩ := Store.save_ranked hs (hstored g (by simp)) hu
      have hus := hs.save hu
      obtain ⟨g', hg', hreach⟩ := h
      rcases List.mem_cons.1 hg' with rfl | hg'
      · exact raises_bind (raises_notify hus (hsu.reaches hs hus hreach))
      · refine raises_bind_right fun propagated v hv => ?_
        have hvs := sound_of_on hus hv
        have hsv := hsu.trans (notify_spec hus hv).2.1.sameUnranked
        exact ih hvs (fun g hg => hsv.hasGroup (hstored g (List.mem_cons_of_mem _ hg)))
          ⟨g', hg', hsv.reaches hs hvs hreach⟩

theorem readGroups_spec (hs : s.Sound) {earlier ids : List Int} {groups : List ServerGroup}
    (h : on (readGroups earlier ids) s = (.ok groups, t)) :
    groups.map (·.id) = ids ∧ ∀ g ∈ groups, s.HasGroup g := by
  induction ids generalizing earlier groups with
  | nil =>
      cases h
      exact ⟨rfl, fun _ hg => nomatch hg⟩
  | cons id ids ih =>
      obtain ⟨_, u, hu, h⟩ := on_bind_eq_ok h
      obtain ⟨-, rfl⟩ := of_on_check hu
      split at h
      · cases h
      · obtain ⟨g, u, hu, h⟩ := on_bind_eq_ok h
        obtain ⟨rfl, rfl, hg⟩ := requireServerGroup_spec hs hu
        obtain ⟨rest, u, hu, h⟩ := on_bind_eq_ok h
        cases h
        obtain ⟨hids, hrest⟩ := ih hu
        refine ⟨by rw [List.map_cons, hids], fun g' hg' => ?_⟩
        rcases List.mem_cons.1 hg' with rfl | hg'
        · rw [Store.HasGroup, hg]
          rfl
        · exact hrest g' hg'

theorem raises_orderGroups_again (hs : s.Sound) {ids : List Int} {o : Except Failure Report}
    (h : (orderGroups ids).run.Strained s failed o t)
    (hne : (on (fetch ⟨.node, n⟩) s).1 ≠ (on (fetch ⟨.node, n⟩) t).1) :
    (orderGroups ids).run.Raises t n := by
  have ht := h.sound hs
  by_cases hlen : ids.length ≤ 2147483647
  · rw [orderGroups_eq hlen] at h ⊢
    rcases strained_reads ((makes_readGroups _ _).imp fun _ h => h.walks) h with
      ⟨⟨rfl, -⟩, -⟩ | ⟨groups, hread, h⟩
    · exact absurd rfl hne
    obtain ⟨hids, hstored⟩ := readGroups_spec hs hread
    obtain ⟨-, hreach⟩ := strained_rankGroups hs h hstored
    obtain ⟨g, hg, hreach⟩ := hreach n hne
    refine raises_bind_right fun groups' u hread' => ?_
    obtain rfl := store_of_finds (makes_readGroups _ _) hread'
    obtain ⟨hids', hstored'⟩ := readGroups_spec ht hread'
    have hg' : g.id ∈ groups'.map (·.id) := by
      rw [hids', ← hids]
      exact List.mem_map_of_mem hg
    obtain ⟨g', hg', hid⟩ := List.mem_map.1 hg'
    exact raises_rankGroups ht hstored' ⟨g', hg', by rwa [hid]⟩
  · rw [orderGroups, if_pos (by omega)] at h
    cases h
    exact absurd rfl hne

/-! ## Every mutation -/

theorem raises_map {α β : Type} {f : α → β} {a : Action α} (h : a.run.Raises s n) :
    (f <$> a).run.Raises s n := by
  rw [← bind_pure_comp]
  exact raises_bind h

/-- A node whose config the first attempt has changed is raised by this attempt, or by the next one if
that ends well. -/
theorem Mutation.raised_twice (m : Mutation) (hs : s.Sound) {o : Except Failure Report}
    (h : m.action.run.Strained s failed o t) (hn : ¬ Mutation.Loses s failed m n)
    (hne : (on (fetch ⟨.node, n⟩) s).1 ≠ (on (fetch ⟨.node, n⟩) t).1) :
    (s.version n).version < (t.version n).version ∨ m.action.run.Raises t n := by
  cases m with
  | save r =>
      obtain ⟨o, h⟩ := strained_map h
      exact (raised_saveRecord_twice hs h hn hne).imp_right raises_map
  | setGroupProxy id p r =>
      obtain ⟨o, h⟩ := strained_map h
      exact .inr (raises_map (raises_setGroupProxy_again hs h hne))
  | orderGroups ids => exact .inr (raises_orderGroups_again hs h hne)
  | setState x enabled =>
      obtain ⟨o, h⟩ := strained_map h
      exact .inr (raises_map (raises_setState_again hs h hne))

/-- A mutation that was stopped by failing marks is repaired by making it again: whatever had failed,
if the second attempt ends well, then one of the two attempts has raised the version of every node whose
config is not what it was before the first, but for those that are lost. -/
theorem Mutation.repaired_by_repeating (hs : s.Reachable) (m : Mutation) {o : Except Failure Report}
    (h₁ : m.action.run.Strained s failed o t) {report : Report}
    (h₂ : on m.action t = (.ok report, u)) (hn : ¬ Mutation.Loses s failed m n)
    (hne : (on (fetch ⟨.node, n⟩) s).1 ≠ (on (fetch ⟨.node, n⟩) u).1) :
    (s.version n).version < (t.version n).version ∨
      (t.version n).version < (u.version n).version := by
  have ht := h₁.sound hs.sound
  by_cases hstep : (on (fetch ⟨.node, n⟩) s).1 = (on (fetch ⟨.node, n⟩) t).1
  · rw [hstep] at hne
    exact .inr ((m.covered ht).raises ht h₂ hne)
  · exact (m.raised_twice hs.sound h₁ hn hstep).imp_right fun h => h report u h₂

/-! ## What happens on a store whose marks fail -/

/-- The outcome of the first attempt and the store after it, when the marks of `failing` fail. -/
def Mutation.attempt (m : Mutation) (failing : List Int) (s : Store) : Except Failure Report × Store :=
  let (outcome, t) := m.action.run.run FaultyStore.host { store := s, faults := { marks := failing } }
  (outcome, t.store)

theorem Mutation.strained_attempt (m : Mutation) (failing : List Int) (s : Store) :
    ∃ failed, (∀ n ∈ failed, n ∈ failing) ∧
      m.action.run.Strained s failed (m.attempt failing s).1 (m.attempt failing s).2 :=
  Program.strained_of_faulty (s := { store := s, faults := { marks := failing } }) rfl

/-- Two nodes in one cluster and one in another, and a server in the first. -/
def pairAndOne : Store :=
  (Store.empty.loadSeed {
    clusters := [{ id := 1 }, { id := 2 }]
    nodes := [{ id := 10, clusterId := 1 }, { id := 11, clusterId := 2 }, { id := 12, clusterId := 1 }]
    servers := [{ id := 5, clusterId := 1 }] }).2

/-- The second attempt ends well, the config of the node has changed and it is not lost, and one of the
attempts has raised its version. -/
def Mutation.Repaired (m : Mutation) (failing : List Int) (s : Store) (n : Int) : Prop :=
  ∃ failed t report u, m.action.run.Strained s failed (m.attempt failing s).1 t ∧
    on m.action t = (.ok report, u) ∧ ¬ m.Loses s failed n ∧
    (on (fetch ⟨.node, n⟩) s).1 ≠ (on (fetch ⟨.node, n⟩) u).1 ∧
    ((s.version n).version < (t.version n).version ∨ (t.version n).version < (u.version n).version)

def Mutation.takeDown : Mutation := .setState ⟨.server, 5⟩ false

def Mutation.moveOver : Mutation := .save (.server { id := 5, clusterId := 2 })

/-- While node 10 cannot be marked, the server is disabled, or moved to the other cluster. The second
attempt to disable it marks the node. Node 12, which the server leaves as well, was marked by the first
attempt to move it. -/
theorem Mutation.repaired_by_repeating_disabled_moved :
    pairAndOne.Reachable ∧ (takeDown.attempt [10] pairAndOne).1.isOk = false ∧
      takeDown.Repaired [10] pairAndOne 10 ∧ (moveOver.attempt [10] pairAndOne).1.isOk = false ∧
        moveOver.Repaired [10] pairAndOne 12 := by
  have hs : pairAndOne.Reachable := .seed _ .empty
  refine ⟨hs, by decide +kernel, ?disabled, by decide +kernel, ?moved⟩
  case disabled =>
    obtain ⟨failed, -, h₁⟩ := takeDown.strained_attempt [10] pairAndOne
    have hn : ¬ takeDown.Loses pairAndOne failed 10 := nofun
    have hne : (on (fetch ⟨.node, 10⟩) pairAndOne).1 ≠
        (on (fetch ⟨.node, 10⟩) (on takeDown.action (takeDown.attempt [10] pairAndOne).2).2).1 := by
      decide +kernel
    exact ⟨failed, _, _, _, h₁, rfl, hn, hne, Mutation.repaired_by_repeating hs _ h₁ rfl hn hne⟩
  case moved =>
    obtain ⟨failed, hfailed, h₁⟩ := moveOver.strained_attempt [10] pairAndOne
    have hn : ¬ moveOver.Loses pairAndOne failed 12 := by
      intro h
      cases h with
      | named _ hkind => exact hkind rfl
      | left _ _ _ _ hmem => exact absurd (hfailed _ hmem) (by decide)
      | skipped _ _ _ _ hnew hmem =>
          obtain rfl := List.mem_singleton.1 (hfailed _ hmem)
          revert hnew
          decide +kernel
    have hne : (on (fetch ⟨.node, 12⟩) pairAndOne).1 ≠
        (on (fetch ⟨.node, 12⟩) (on moveOver.action (moveOver.attempt [10] pairAndOne).2).2).1 := by
      decide +kernel
    exact ⟨failed, _, _, _, h₁, rfl, hn, hne, Mutation.repaired_by_repeating hs _ h₁ rfl hn hne⟩

/-- Two clusters with a node each, and a server in the first. -/
def twoClusters : Store :=
  (Store.empty.loadSeed {
    clusters := [{ id := 1 }, { id := 2 }]
    nodes := [{ id := 10, clusterId := 1 }, { id := 11, clusterId := 2 }]
    servers := [{ id := 5, clusterId := 1 }] }).2

theorem reachable_twoClusters : twoClusters.Reachable := .seed _ .empty

/-- The first attempt fails, the second ends well, and the config of the node has changed while its
version has not. -/
def Mutation.Unrepaired (m : Mutation) (failing : List Int) (s : Store) (n : Int) : Prop :=
  (m.attempt failing s).1.isOk = false ∧ (on m.action (m.attempt failing s).2).1.isOk = true ∧
    (on (fetch ⟨.node, n⟩) s).1 ≠
      (on (fetch ⟨.node, n⟩) (on m.action (m.attempt failing s).2).2).1 ∧
    ((on m.action (m.attempt failing s).2).2.version n).version = (s.version n).version

instance (m : Mutation) (failing : List Int) (s : Store) (n : Int) :
    Decidable (m.Unrepaired failing s n) := inferInstanceAs (Decidable (_ ∧ _ ∧ _ ∧ _))

/-- A server on a node, with a proxy to an origin that is not stored: its id is the next one. -/
def awaitedOrigin : Store :=
  (Store.empty.loadSeed {
    clusters := [{ id := 1 }]
    nodes := [{ id := 10, clusterId := 1 }]
    servers := [{
      id := 5
      clusterId := 1
      httpReverseProxy := ⟨"\x7b\"reverseProxyId\":3\x7d"⟩ }]
    reverseProxies := [{ id := 3, primaryOrigins := ⟨"[\x7b\"originId\":11\x7d]"⟩ }] }).2

/-- A node is made twice, and only the second one is marked. An origin that is awaited is made twice,
and nothing names the second one. A server moves, and the second attempt does not know the cluster
that it left. -/
theorem Mutation.unrepaired_created_named_left :
    (Store.empty.Reachable ∧ (Mutation.save (.node {})).Unrepaired [1] .empty 1) ∧
      (awaitedOrigin.Reachable ∧ (Mutation.save (.origin {})).Unrepaired [10] awaitedOrigin 10) ∧
        twoClusters.Reachable ∧
          (Mutation.save (.server { id := 5, clusterId := 2 })).Unrepaired [11] twoClusters 10 := by
  refine ⟨⟨.empty, ?created⟩, ⟨.seed _ .empty, ?named⟩, reachable_twoClusters, ?left⟩
  case created => decide +kernel
  case named => decide +kernel
  case left => decide +kernel

end Fleet
