import Fleet.Proofs.Store.Linked

/-!
# The last save of a record

What a store keeps of its past: of every record the version that was saved last, and nothing of the
versions before it or of the order in which the records came. In particular the index is told by the
stored records alone.
-/

namespace Fleet

open Text

variable {s t u : Store} {rs rs' : List Record}

/-! ## The last record of an entity -/

namespace Record

/-- The last of the records that are one of the entity. -/
def lastOf (rs : List Record) (x : EntityRef) : Option Record := rs.reverse.find? (x = ·.ref)

theorem lastOf_cons (r : Record) (rs : List Record) (x : EntityRef) :
    lastOf (r :: rs) x = (lastOf rs x).or (if x = r.ref then some r else none) := by
  rw [lastOf, List.reverse_cons, List.find?_append, List.find?_singleton, lastOf]
  simp only [decide_eq_true_eq]

theorem mem_of_lastOf {x : EntityRef} {r : Record} (h : lastOf rs x = some r) :
    r ∈ rs ∧ x = r.ref :=
  ⟨List.mem_reverse.1 (List.mem_of_find?_eq_some h), by simpa using List.find?_some h⟩

theorem exists_lastOf {r : Record} (h : r ∈ rs) : ∃ r', lastOf rs r.ref = some r' := by
  rw [← Option.isSome_iff_exists, lastOf, List.find?_isSome]
  exact ⟨r, List.mem_reverse.2 h, by simp⟩

/-- Whether all ids are below a bound is told by the last records. -/
theorem forall_id_lt_iff {n : Int} :
    (∀ r ∈ rs, r.id < n) ↔ ∀ x r, lastOf rs x = some r → r.id < n := by
  constructor
  · intro h x r hr
    exact h r (mem_of_lastOf hr).1
  · intro h r hr
    obtain ⟨r', hlast⟩ := exists_lastOf hr
    obtain ⟨-, href⟩ := mem_of_lastOf hlast
    have hid : r.id = r'.id := congrArg EntityRef.id href
    rw [hid]
    exact h _ r' hlast

end Record

open Record

namespace Store

/-! ## Tidy indexes -/

theorem tidy_save {r : Record} {id : Int} (h : s.index.Tidy) (hr : s.save r = .ok (id, t)) :
    t.index.Tidy := by
  unfold save at hr
  split at hr
  · split at hr
    · cases hr
      exact h.replace _ _
    · cases hr
  · split at hr
    · cases hr
      exact h.replace _ _
    · cases hr

theorem tidy_saveAll (h : s.index.Tidy) (rs : List Record) : (s.saveAll rs).2.index.Tidy := by
  induction rs generalizing s with
  | nil => exact h
  | cons r rs ih =>
      unfold saveAll
      split
      · rename_i hr
        exact ih (tidy_save h hr)
      · exact h

theorem tidy_answer (h : s.index.Tidy) (c : Call) : (s.answer c).2.index.Tidy := by
  cases c with
  | save r =>
      simp only [answer]
      split
      · rename_i hr
        exact tidy_save h hr
      · exact h
  | updateState x state =>
      rw [answer, index_updateState]
      exact h
  | _ => exact h

theorem Reachable.tidy (h : s.Reachable) : s.index.Tidy := by
  induction h with
  | empty => exact EdgeIndex.tidy_empty
  | seed seed _ ih => exact tidy_saveAll ih seed.records
  | call c _ ih => exact tidy_answer ih c
  | mutation m _ ih =>
      exact m.action.run.run_invariant (P := fun s => s.index.Tidy) (fun c _ h => tidy_answer h c) ih

/-- Stores whose records declare the same edges have the same index, however they came about. -/
theorem Sound.index_eq (hs : s.Sound) (ht : t.Sound) (htidy : s.index.Tidy) (htidy' : t.index.Tidy)
    (h : ∀ x, (s.find? x).map Record.edges = (t.find? x).map Record.edges) : s.index = t.index := by
  refine EdgeIndex.ext_edgesOf hs.exact ht.exact htidy htidy' fun x => ?_
  rw [hs.declared, ht.declared, h]

/-! ## Saves of records with ids -/

/-- What a store is after saves of records that have ids. -/
structure Saved (s t : Store) (rs : List Record) : Prop where
  find?_eq : ∀ x, t.find? x = (lastOf rs x).or (s.find? x)
  nextId_le_iff : ∀ n, t.nextId ≤ n ↔ s.nextId ≤ n ∧ ∀ r ∈ rs, r.id < n
  versions_eq : t.versions = s.versions

theorem saved_nil (s : Store) : s.Saved s [] where
  find?_eq _ := rfl
  nextId_le_iff n := by simp
  versions_eq := rfl

theorem Saved.cons {r : Record}
    (h : ({ s with nextId := max s.nextId (r.id + 1) }.put r).Saved t rs) : s.Saved t (r :: rs) where
  find?_eq x := by
    rw [h.find?_eq, find?_put, lastOf_cons, Option.or_assoc]
    split <;> rfl
  nextId_le_iff n := by
    have hmax : max s.nextId (r.id + 1) ≤ n ↔ s.nextId ≤ n ∧ r.id < n := max_le_iff
    rw [h.nextId_le_iff, List.forall_mem_cons, ← and_assoc]
    exact and_congr_left' hmax
  versions_eq := h.versions_eq

theorem saveAll_of_ids (hids : ∀ r ∈ rs, 0 < r.id ∧ r.id < maxInt64) :
    ∃ t, s.saveAll rs = (.ok (), t) ∧ s.Saved t rs := by
  induction rs generalizing s with
  | nil => exact ⟨s, rfl, saved_nil s⟩
  | cons r rs ih =>
      obtain ⟨⟨hpos, hmax⟩, hids⟩ := List.forall_mem_cons.1 hids
      obtain ⟨t, ht, hsaved⟩ := ih (s := { s with nextId := max s.nextId (r.id + 1) }.put r) hids
      refine ⟨t, ?_, hsaved.cons⟩
      rw [saveAll, save, if_neg (not_le.2 hpos), if_pos hmax]
      exact ht

/-- What is saved tells the records, the counter and the versions apart only by the last records. -/
theorem Saved.eq (ht : s.Saved t rs) (hu : s.Saved u rs') (hlast : ∀ x, lastOf rs x = lastOf rs' x)
    (hindex : t.index = u.index) : t = u := by
  have hrecords : t.records = u.records := OrdMap.ext_find? fun x => by
    have hfind : t.find? x = u.find? x := by rw [ht.find?_eq, hu.find?_eq, hlast]
    exact hfind
  have hnext : t.nextId = u.nextId := by
    refine eq_of_forall_ge_iff fun n => ?_
    rw [ht.nextId_le_iff, hu.nextId_le_iff, forall_id_lt_iff, forall_id_lt_iff]
    simp only [hlast]
  have hversions : t.versions = u.versions := ht.versions_eq.trans hu.versions_eq.symm
  cases t
  cases u
  cases hrecords
  cases hnext
  cases hversions
  cases hindex
  rfl

/-- Only the last save of each record counts: two lists of saves after which the same records were saved
last leave one and the same store, in whatever order they come and whatever versions they overwrite. No
save fails, and each record stands as it was saved last. -/
theorem saveAll_eq_of_lastOf_eq (h : s.Reachable) (hids : ∀ r ∈ rs, 0 < r.id ∧ r.id < maxInt64)
    (hids' : ∀ r ∈ rs', 0 < r.id ∧ r.id < maxInt64) (hlast : ∀ x, lastOf rs x = lastOf rs' x) :
    ∃ t, s.saveAll rs = (.ok (), t) ∧ s.saveAll rs' = (.ok (), t) ∧
      ∀ x, t.find? x = (lastOf rs x).or (s.find? x) := by
  obtain ⟨t, ht, hsaved⟩ := saveAll_of_ids (s := s) hids
  obtain ⟨u, hu, hsaved'⟩ := saveAll_of_ids (s := s) hids'
  have hafter : (s.saveAll rs).2 = t := by rw [ht]
  have hafter' : (s.saveAll rs').2 = u := by rw [hu]
  have hindex : t.index = u.index := by
    rw [← hafter, ← hafter']
    refine (h.sound.saveAll rs).index_eq (h.sound.saveAll rs') (tidy_saveAll h.tidy rs)
      (tidy_saveAll h.tidy rs') fun x => ?_
    rw [hafter, hafter', hsaved.find?_eq, hsaved'.find?_eq, hlast]
  obtain rfl : t = u := hsaved.eq hsaved' hlast hindex
  exact ⟨t, ht, hu, hsaved.find?_eq⟩

/-- A server in its first cluster and with two slots of one proxy, then in its last cluster. -/
def serverMoves : List Record :=
  let proxy : RefText := ⟨"\x7b\"reverseProxyId\":3\x7d"⟩
  [.server { id := 5, clusterId := 1, httpReverseProxy := proxy, tcpReverseProxy := proxy },
    .cluster { id := 2 }, .server { id := 5, clusterId := 2, httpReverseProxy := proxy }]

/-- The same server as it is in the end, then its cluster under another name and as it is in the end. -/
def serverArrives : List Record :=
  [.server { id := 5, clusterId := 2, httpReverseProxy := ⟨"\x7b\"reverseProxyId\":3\x7d"⟩ },
    .cluster { id := 2, name := "a" }, .cluster { id := 2 }]

theorem saveAll_eq_of_lastOf_eq_moves :
    (∀ x, lastOf serverMoves x = lastOf serverArrives x) ∧
      ∃ t, empty.saveAll serverMoves = (.ok (), t) ∧ empty.saveAll serverArrives = (.ok (), t) ∧
        t.edgeCount = 2 ∧ t.nextId = 6 := by
  have hids : ∀ r ∈ serverMoves, 0 < r.id ∧ r.id < maxInt64 := by decide
  have hids' : ∀ r ∈ serverArrives, 0 < r.id ∧ r.id < maxInt64 := by decide
  have hlast (x : EntityRef) : lastOf serverMoves x = lastOf serverArrives x := by
    by_cases hserver : x = ⟨.server, 5⟩
    · subst hserver
      rfl
    · by_cases hcluster : x = ⟨.cluster, 2⟩
      · subst hcluster
        rfl
      · simp [lastOf, serverMoves, serverArrives, Record.ref, Record.kind, Record.id, hserver,
          hcluster]
  obtain ⟨t, ht, ht', -⟩ := saveAll_eq_of_lastOf_eq .empty hids hids' hlast
  obtain rfl : (empty.saveAll serverMoves).2 = t := congrArg Prod.snd ht
  exact ⟨hlast, _, ht, ht', by decide +kernel, by decide +kernel⟩

end Store

end Fleet
