import Fleet.Proofs.Store.Edges
import Fleet.Store.Call
import Fleet.Store.Seed

/-!
# Sound stores

What holds of a store however it came about: records stand under their own references, ids leave
room for new ones, the index links the edges of the stored records, and no node applied a version
that it was not given. Every call keeps a store sound.
-/

namespace Fleet

/-! ## Records -/

namespace Record

@[simp] theorem ref_kind (r : Record) : r.ref.kind = r.kind := rfl

@[simp] theorem ref_id (r : Record) : r.ref.id = r.id := rfl

@[simp] theorem ref_withState (s : EntityState) (r : Record) : (r.withState s).ref = r.ref := by
  cases r <;> rfl

theorem withId_self (r : Record) : r.withId r.id = r := by cases r <;> rfl

/-! A record of a known kind is one of that kind. -/

theorem node?_eq_some_iff {r : Record} {n : Node} : r.node? = some n ↔ r = .node n := by
  cases r <;> simp [node?]

theorem server?_eq_some_iff {r : Record} {s : Server} : r.server? = some s ↔ r = .server s := by
  cases r <;> simp [server?]

theorem exists_server {r : Record} (h : r.kind = .server) : ∃ a, r = .server a := by
  cases r <;> simp_all [kind]

end Record

namespace Store

variable {s t : Store}

/-! ## What the writes do to lookups -/

theorem find?_put (s : Store) (r : Record) (x : EntityRef) :
    (s.put r).find? x = if x = r.ref then some r else s.find? x := by
  by_cases h : x = r.ref
  · subst h
    simp [find?, put]
  · simp [find?, put, OrdMap.find?_insert_of_ne _ _ h, h]

theorem find?_put_cases {r r' : Record} {x : EntityRef} (h : (s.put r).find? x = some r') :
    x = r.ref ∧ r' = r ∨ s.find? x = some r' := by
  rw [find?_put] at h
  split at h
  · rename_i hx
    cases h
    exact .inl ⟨hx, rfl⟩
  · exact .inr h

theorem find?_updateState (s : Store) (x y : EntityRef) (state : EntityState) :
    (s.updateState x state).2.find? y
      = if y = x then (s.find? x).map (Record.withState state) else s.find? y := by
  unfold updateState
  split
  · rename_i r hr
    by_cases h : y = x
    · subst h
      simp [find?] at hr ⊢
      simp [hr]
    · simp [find?, OrdMap.find?_insert_of_ne _ _ h, h]
  · rename_i hn
    by_cases h : y = x
    · subst h
      simp [hn]
    · simp [h]

/-- Where a record stands after a change of state, one with the same reference stood before. -/
theorem exists_of_find?_updateState {x y : EntityRef} {state : EntityState} {r : Record}
    (h : (s.updateState x state).2.find? y = some r) :
    ∃ r', s.find? y = some r' ∧ r.ref = r'.ref := by
  rw [find?_updateState] at h
  split at h
  · rename_i hy
    subst hy
    obtain ⟨r', hr', rfl⟩ := Option.map_eq_some_iff.1 h
    exact ⟨r', hr', by simp⟩
  · exact ⟨r, h, rfl⟩

@[simp] theorem index_updateState (s : Store) (x : EntityRef) (state : EntityState) :
    (s.updateState x state).2.index = s.index := by
  unfold updateState
  split <;> rfl

@[simp] theorem nextId_updateState (s : Store) (x : EntityRef) (state : EntityState) :
    (s.updateState x state).2.nextId = s.nextId := by
  unfold updateState
  split <;> rfl

@[simp] theorem version_updateState (s : Store) (x : EntityRef) (state : EntityState) (n : Int) :
    (s.updateState x state).2.version n = s.version n := by
  unfold updateState
  split <;> rfl

theorem updateState_of_find?_eq_none {x : EntityRef} {state : EntityState} (h : s.find? x = none) :
    s.updateState x state = (false, s) := by
  rw [updateState, h]

theorem updateState_of_find?_eq_some {x : EntityRef} {state : EntityState} {r : Record}
    (h : s.find? x = some r) : (s.updateState x state).1 = true := by
  rw [updateState, h]

theorem version_setVersion (s : Store) (n m : Int) (v : NodeVersion) :
    (s.setVersion n v).version m = if m = n then v else s.version m := by
  by_cases h : m = n
  · subst h
    simp [version, setVersion]
  · simp [version, setVersion, OrdMap.find?_insert_of_ne _ _ h, h]

theorem version_mark (s : Store) (n m : Int) :
    (s.mark n).version m = if m = n then (s.version n).mark else s.version m :=
  version_setVersion ..

theorem version_ack (s : Store) (n : Int) (v : Nat) (m : Int) :
    (s.ack n v).version m = if m = n then (s.version n).ack v else s.version m :=
  version_setVersion ..

@[simp] theorem find?_mark (s : Store) (n : Int) (x : EntityRef) :
    (s.mark n).find? x = s.find? x := rfl

@[simp] theorem find?_ack (s : Store) (n : Int) (v : Nat) (x : EntityRef) :
    (s.ack n v).find? x = s.find? x := rfl

/-! ## Soundness -/

/-- What holds of a store however it came about. -/
structure Sound (s : Store) : Prop where
  /-- Every record stands under its own reference. -/
  own : ∀ {x r}, s.find? x = some r → r.ref = x
  positive : ∀ {x r}, s.find? x = some r → 0 < x.id
  fresh : ∀ {x r}, s.find? x = some r → x.id < s.nextId
  nextId_pos : 0 < s.nextId
  nextId_le : s.nextId ≤ Text.maxInt64
  /-- The owners' edges in the index are those of their records. -/
  declared : ∀ x, s.index.edgesOf x = ((s.find? x).map Record.edges).getD []
  exact : s.index.Exact
  applied_le : ∀ n, (s.version n).applied ≤ (s.version n).version

theorem sound_empty : empty.Sound where
  own h := by simp [empty, find?, OrdMap.find?_empty] at h
  positive h := by simp [empty, find?, OrdMap.find?_empty] at h
  fresh h := by simp [empty, find?, OrdMap.find?_empty] at h
  nextId_pos := by decide
  nextId_le := by decide
  declared x := by simp [empty, find?, OrdMap.find?_empty, EdgeIndex.edgesOf]
  exact := EdgeIndex.exact_empty
  applied_le n := by simp [empty, version, OrdMap.find?_empty]

/-- No two records declare the same edge. -/
theorem Sound.owner_eq (hs : s.Sound) {x : EntityRef} {e : Edge} (he : e ∈ s.index.edgesOf x) :
    x = e.owner := by
  rw [hs.declared] at he
  cases hx : s.find? x with
  | none => simp [hx] at he
  | some r =>
      simp only [hx, Option.map_some, Option.getD_some] at he
      rw [Record.owner_of_mem_edges he, hs.own hx]

theorem Sound.put (hs : s.Sound) {r : Record} {next : Int} (hpos : 0 < r.id) (hlt : r.id < next)
    (hnext : s.nextId ≤ next) (hle : next ≤ Text.maxInt64) :
    ({ s with nextId := next }.put r).Sound where
  own h := by
    rcases find?_put_cases h with ⟨rfl, rfl⟩ | h
    · rfl
    · exact hs.own h
  positive h := by
    rcases find?_put_cases h with ⟨rfl, -⟩ | h
    · exact hpos
    · exact hs.positive h
  fresh h := by
    rcases find?_put_cases h with ⟨rfl, -⟩ | h
    · exact hlt
    · exact lt_of_lt_of_le (hs.fresh h) hnext
  nextId_pos := lt_of_lt_of_le hs.nextId_pos hnext
  nextId_le := hle
  declared x := by
    rw [find?_put]
    change (s.index.replace r.ref r.edges).edgesOf x = _
    rw [EdgeIndex.edgesOf_replace]
    split
    · rfl
    · exact hs.declared x
  exact := by
    refine hs.exact.replace _ _ fun e he o ho => ?_
    rw [hs.owner_eq he, hs.owner_eq ho]
  applied_le := hs.applied_le

/-- A save puts the record under its own id or under the next free one. -/
theorem save_cases (hs : s.Sound) {r : Record} {id : Int} (h : s.save r = .ok (id, t)) :
    ∃ next, 0 < id ∧ id < next ∧ s.nextId ≤ next ∧ next ≤ Text.maxInt64 ∧
      t = { s with nextId := next }.put (r.withId id) ∧ (0 < r.id → id = r.id) ∧
      (r.id ≤ 0 → id = s.nextId) := by
  have hpos := hs.nextId_pos
  have hmax := hs.nextId_le
  unfold save at h
  split at h
  · split at h
    · cases h
      exact ⟨s.nextId + 1, by omega, by omega, by omega, by omega, rfl, by omega, fun _ => rfl⟩
    · cases h
  · split at h
    · cases h
      refine ⟨max s.nextId (r.id + 1), by omega, by omega, by omega, by omega, ?_, fun _ => rfl,
        by omega⟩
      rw [Record.withId_self]
    · cases h

theorem find?_save (hs : s.Sound) {r : Record} {id : Int} (h : s.save r = .ok (id, t))
    (y : EntityRef) : t.find? y = if y = ⟨r.kind, id⟩ then some (r.withId id) else s.find? y := by
  obtain ⟨next, -, -, -, -, rfl, -⟩ := save_cases hs h
  rw [find?_put]
  have href : (r.withId id).ref = ⟨r.kind, id⟩ := by simp [Record.ref]
  rw [href]
  rfl

theorem Sound.save (hs : s.Sound) {r : Record} {id : Int} (h : s.save r = .ok (id, t)) :
    t.Sound := by
  obtain ⟨next, hpos, hlt, hnext, hle, rfl, -⟩ := save_cases hs h
  exact hs.put (by simpa using hpos) (by simpa using hlt) hnext hle

/-- A record in the place of a stored one is saved under its own id. -/
theorem Sound.save_stored (hs : s.Sound) {r old : Record} (h : s.find? r.ref = some old) :
    s.save r = .ok (r.id, s.put r) := by
  have hpos : 0 < r.id := hs.positive h
  have hlt : r.id < s.nextId := hs.fresh h
  have hle := hs.nextId_le
  have hnext : max s.nextId (r.id + 1) = s.nextId := max_eq_left (by omega)
  rw [Store.save, if_neg (by omega), if_pos (by omega), hnext]

theorem Sound.updateState (hs : s.Sound) (x : EntityRef) (state : EntityState) :
    (s.updateState x state).2.Sound where
  own h := by
    obtain ⟨r', hr', href⟩ := exists_of_find?_updateState h
    rw [href, hs.own hr']
  positive h := by
    obtain ⟨r', hr', -⟩ := exists_of_find?_updateState h
    exact hs.positive hr'
  fresh h := by
    obtain ⟨r', hr', -⟩ := exists_of_find?_updateState h
    rw [nextId_updateState]
    exact hs.fresh hr'
  nextId_pos := by
    rw [nextId_updateState]
    exact hs.nextId_pos
  nextId_le := by
    rw [nextId_updateState]
    exact hs.nextId_le
  declared y := by
    rw [index_updateState, hs.declared, find?_updateState]
    split
    · rename_i hy
      subst hy
      cases s.find? y <;> simp [Record.edges_withState]
    · rfl
  exact := by
    rw [index_updateState]
    exact hs.exact
  applied_le n := by
    rw [version_updateState]
    exact hs.applied_le n

theorem Sound.setVersion (hs : s.Sound) (n : Int) {v : NodeVersion} (hv : v.applied ≤ v.version) :
    (s.setVersion n v).Sound :=
  { hs with
    applied_le := fun m => by
      rw [version_setVersion]
      split
      · exact hv
      · exact hs.applied_le m }

theorem Sound.mark (hs : s.Sound) (n : Int) : (s.mark n).Sound := by
  refine hs.setVersion n ?_
  have := hs.applied_le n
  simp only [NodeVersion.mark]
  omega

theorem Sound.ack (hs : s.Sound) (n : Int) (v : Nat) : (s.ack n v).Sound := by
  refine hs.setVersion n ?_
  have := hs.applied_le n
  simp only [NodeVersion.ack]
  omega

theorem Sound.answer (hs : s.Sound) (c : Call) : (s.answer c).2.Sound := by
  cases c with
  | save r =>
      simp only [Store.answer]
      split
      · rename_i h
        exact hs.save h
      · exact hs
  | updateState x state => exact hs.updateState x state
  | mark n => exact hs.mark n
  | ack n v => exact hs.ack n v
  | _ => exact hs

theorem Sound.saveAll (hs : s.Sound) (rs : List Record) : (s.saveAll rs).2.Sound := by
  induction rs generalizing s with
  | nil => exact hs
  | cons r rs ih =>
      unfold Store.saveAll
      split
      · rename_i h
        exact ih (hs.save h)
      · exact hs

/-! ## Reading a sound store -/

/-- Some stored record declares the edge. -/
def Declares (s : Store) (e : Edge) : Prop := ∃ x r, s.find? x = some r ∧ e ∈ r.edges

theorem Sound.mem_index (hs : s.Sound) {child parent : EntityRef} :
    parent ∈ s.index.parentsOf child ↔ s.Declares ⟨child, parent⟩ := by
  rw [EdgeIndex.mem_parentsOf, hs.exact]
  refine exists_congr fun x => ?_
  rw [hs.declared]
  cases s.find? x <;> simp

theorem mem_parentsOf (hs : s.Sound) {child parent : EntityRef} :
    parent ∈ s.parentsOf child ↔ s.Declares ⟨child, parent⟩ ∧ s.isEnabled parent = true := by
  rw [parentsOf, List.mem_filter, hs.mem_index]

theorem Sound.find?_nextId (hs : s.Sound) (k : Kind) : s.find? ⟨k, s.nextId⟩ = none := by
  cases h : s.find? ⟨k, s.nextId⟩ with
  | none => rfl
  | some r => exact absurd (hs.fresh h) (lt_irrefl _)

theorem Sound.find?_node (hs : s.Sound) {n : Int} {r : Record} (h : s.find? ⟨.node, n⟩ = some r) :
    ∃ a, r = .node a := by
  have hk : r.kind = .node := congrArg EntityRef.kind (hs.own h)
  cases r <;> simp_all [Record.kind]

theorem Sound.find?_server (hs : s.Sound) {n : Int} {r : Record}
    (h : s.find? ⟨.server, n⟩ = some r) : ∃ a, r = .server a :=
  Record.exists_server (congrArg EntityRef.kind (hs.own h))

theorem isEnabled_iff {x : EntityRef} :
    s.isEnabled x = true ↔ ∃ r, s.find? x = some r ∧ r.isEnabled = true := by
  rw [isEnabled, Option.any_eq_true]

/-- A selection of the stored records, with what stands for each. -/
theorem mem_selection (hs : s.Sound) {α : Type} {f : Record → Option α} {p : α → Bool}
    {id : α → Int} {n : Int} :
    n ∈ (s.records.values.filterMap f).filterMap (fun a => if p a then some (id a) else none) ↔
      ∃ r a, s.find? r.ref = some r ∧ f r = some a ∧ p a = true ∧ id a = n := by
  simp only [List.mem_filterMap, OrdMap.mem_values_iff, Option.ite_none_right_eq_some,
    Option.some.injEq]
  constructor
  · rintro ⟨a, ⟨r, ⟨x, hx⟩, hr⟩, hp, rfl⟩
    refine ⟨r, a, ?_, hr, hp, rfl⟩
    rw [hs.own (x := x) hx]
    exact hx
  · rintro ⟨r, a, hr, hf, hp, rfl⟩
    exact ⟨a, ⟨r, ⟨_, hr⟩, hf⟩, hp, rfl⟩

theorem mem_enabledNodes (hs : s.Sound) {cluster n : Int} :
    n ∈ s.enabledNodes cluster ↔
      ∃ r, s.find? ⟨.node, n⟩ = some (.node r) ∧ r.clusterId = cluster ∧
        r.state.isEnabled = true := by
  rw [enabledNodes, mem_selection hs]
  simp only [Bool.and_eq_true, decide_eq_true_eq, Record.node?_eq_some_iff]
  constructor
  · rintro ⟨_, r, hr, rfl, ⟨hc, he⟩, rfl⟩
    exact ⟨r, hr, hc, he⟩
  · rintro ⟨r, hr, hc, he⟩
    exact ⟨_, r, by rw [hs.own hr]; exact hr, rfl, ⟨hc, he⟩, congrArg EntityRef.id (hs.own hr)⟩

theorem mem_enabledServers (hs : s.Sound) {cluster n : Int} :
    n ∈ s.enabledServers cluster ↔
      ∃ r, s.find? ⟨.server, n⟩ = some (.server r) ∧ r.clusterId = cluster ∧
        r.state.isEnabled = true := by
  rw [enabledServers, mem_selection hs]
  simp only [Bool.and_eq_true, decide_eq_true_eq, Record.server?_eq_some_iff]
  constructor
  · rintro ⟨_, r, hr, rfl, ⟨hc, he⟩, rfl⟩
    exact ⟨r, hr, hc, he⟩
  · rintro ⟨r, hr, hc, he⟩
    exact ⟨_, r, by rw [hs.own hr]; exact hr, rfl, ⟨hc, he⟩, congrArg EntityRef.id (hs.own hr)⟩

end Store

end Fleet
