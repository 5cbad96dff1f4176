import Fleet.Proofs.Store.Linked

/-!
# Loading a seed

A seed is saved record after record, each under its own id or under the next free one. No id is assigned
that an earlier record has, but a later record may carry an id that was assigned before: it takes the
place of the record that was stored there.
-/

namespace Fleet

open Text

variable {s t : Store} {r : Record} {rs : List Record} {next : Int}

/-! ## The ids of a load -/

namespace Seed

/-- The records with the ids under which they are saved when `next` is the next free one. -/
def number : Int → List Record → List (Record × Int)
  | _, [] => []
  | next, r :: rest =>
    if r.id ≤ 0 then (r, next) :: number (next + 1) rest
    else (r, r.id) :: number (max next (r.id + 1)) rest

/-- The records of a seed with the ids under which an empty store takes them. -/
def numbered (seed : Seed) : List (Record × Int) := number 1 seed.records

/-- Where a record with an id is stored. -/
def place (p : Record × Int) : EntityRef := ⟨p.1.kind, p.2⟩

theorem map_fst_number (next : Int) (rs : List Record) : (number next rs).map (·.1) = rs := by
  induction rs generalizing next with
  | nil => rfl
  | cons r rs ih =>
      unfold number
      split
      · rw [List.map_cons, ih]
      · rw [List.map_cons, ih]

/-- A record keeps its own id; one without gets an id that is free. -/
theorem id_of_mem_number {p : Record × Int} (hp : p ∈ number next rs) :
    (0 < p.1.id → p.2 = p.1.id) ∧ (p.1.id ≤ 0 → next ≤ p.2) := by
  induction rs generalizing next with
  | nil => cases hp
  | cons r rs ih =>
      unfold number at hp
      split at hp
      · rename_i hid
        rcases List.mem_cons.1 hp with rfl | hp
        · exact ⟨fun hpos => absurd hpos (not_lt.2 hid), fun _ => le_rfl⟩
        · obtain ⟨hown, hfree⟩ := ih hp
          exact ⟨hown, fun hid => (Int.lt_succ next).le.trans (hfree hid)⟩
      · rename_i hid
        rcases List.mem_cons.1 hp with rfl | hp
        · exact ⟨fun _ => rfl, fun hle => absurd hle hid⟩
        · obtain ⟨hown, hfree⟩ := ih hp
          exact ⟨hown, fun hid => (le_max_left _ _).trans (hfree hid)⟩

/-- An id that is assigned is greater than the ids before it. -/
theorem number_pairwise (next : Int) (rs : List Record) :
    (number next rs).Pairwise fun p q => q.1.id ≤ 0 → p.2 < q.2 := by
  induction rs generalizing next with
  | nil => exact .nil
  | cons r rs ih =>
      unfold number
      split
      · refine List.pairwise_cons.2 ⟨fun q hq hid => ?_, ih _⟩
        exact lt_of_lt_of_le (Int.lt_succ next) ((id_of_mem_number hq).2 hid)
      · refine List.pairwise_cons.2 ⟨fun q hq hid => ?_, ih _⟩
        exact lt_of_lt_of_le (Int.lt_succ r.id)
          ((le_max_right _ _).trans ((id_of_mem_number hq).2 hid))

end Seed

open Seed

/-! ## Saving all records -/

namespace Store

/-- Where the counter has room, a save succeeds, and its id is the one of the numbering. -/
theorem exists_save_number {m : Int} (hnext : s.nextId ≤ m) (hid : r.id < m) (hroom : m < maxInt64) :
    ∃ id t, s.save r = .ok (id, t) ∧ t.nextId ≤ m + 1 ∧
      ∀ rest, number s.nextId (r :: rest) = (r, id) :: number t.nextId rest := by
  by_cases hneg : r.id ≤ 0
  · refine ⟨s.nextId, { s with nextId := s.nextId + 1 }.put (r.withId s.nextId), ?_, ?_, fun rest => ?_⟩
    · rw [save, if_pos hneg, if_pos (lt_of_le_of_lt hnext hroom)]
    · exact Int.add_le_add_right hnext 1
    · rw [number, if_pos hneg]
      rfl
  · refine ⟨r.id, { s with nextId := max s.nextId (r.id + 1) }.put r, ?_, ?_, fun rest => ?_⟩
    · rw [save, if_neg hneg, if_pos (hid.trans hroom)]
    · exact max_le (hnext.trans (Int.lt_succ m).le) (Int.add_le_add_right hid.le 1)
    · rw [number, if_neg hneg]
      rfl

/-- What records leave that are saved under the ids beside them: each stands at its place, if none of the
later ones has the same. -/
structure Filled (s t : Store) (ps : List (Record × Int)) : Prop where
  stored : ∀ y, (t.find? y).isSome ↔ (s.find? y).isSome ∨ y ∈ ps.map place
  kept : ∀ y, y ∉ ps.map place → t.find? y = s.find? y
  last : ∀ before p after, ps = before ++ p :: after → place p ∉ after.map place →
    t.find? (place p) = some (p.1.withId p.2)

theorem filled_nil (s : Store) : s.Filled s [] where
  stored y := by simp
  kept _ _ := rfl
  last before p after h := absurd h.symm (by simp)

theorem Filled.cons (hs : s.Sound) {u : Store} {id : Int} {ps : List (Record × Int)}
    (hu : s.save r = .ok (id, u)) (h : u.Filled t ps) : s.Filled t ((r, id) :: ps) where
  stored y := by
    have hfind : u.find? y = if y = place (r, id) then some (r.withId id) else s.find? y :=
      find?_save hs hu y
    rw [h.stored, hfind, List.map_cons, List.mem_cons]
    by_cases hy : y = place (r, id) <;> simp [hy]
  kept y hy := by
    rw [List.map_cons, List.mem_cons, not_or] at hy
    rw [h.kept y hy.2, find?_save hs hu]
    exact if_neg hy.1
  last before p after hsplit hafter := by
    cases before with
    | nil =>
        obtain ⟨rfl, rfl⟩ := List.cons.inj hsplit
        rw [h.kept _ hafter, find?_save hs hu]
        exact if_pos rfl
    | cons p' before => exact h.last before p after (List.cons.inj hsplit).2 hafter

/-- Where the counter has room, all records are saved. -/
theorem saveAll_number (hs : s.Sound) {m : Int} (hnext : s.nextId ≤ m) (hids : ∀ r ∈ rs, r.id < m)
    (hroom : m + rs.length ≤ maxInt64) :
    ∃ t, s.saveAll rs = (.ok (), t) ∧ s.Filled t (number s.nextId rs) := by
  induction rs generalizing s m with
  | nil => exact ⟨s, rfl, filled_nil s⟩
  | cons r rs ih =>
      rw [List.length_cons, Nat.cast_succ] at hroom
      obtain ⟨id, u, hu, hnextu, hnumber⟩ := exists_save_number hnext (hids r (by simp)) (by omega)
      obtain ⟨t, ht, hfilled⟩ := ih (hs.save hu) hnextu
        (fun r' hr' => (hids r' (List.mem_cons_of_mem _ hr')).trans (Int.lt_succ m)) (by omega)
      refine ⟨t, by rw [saveAll, hu]; exact ht, ?_⟩
      rw [hnumber]
      exact hfilled.cons hs hu

/-! ## Tables -/

/-- How many records of a kind are stored. -/
def tableSize (s : Store) (k : Kind) : Nat := (s.records.keys.filter (·.kind = k)).length

/-- From an empty store, a table has as many records as were saved in it if their places differ. -/
theorem Filled.tableSize_eq_iff {ps : List (Record × Int)} (h : empty.Filled t ps) (k : Kind) :
    t.tableSize k = ((ps.map place).filter (·.kind = k)).length ↔
      ((ps.map place).filter (·.kind = k)).Nodup := by
  have hsame : (t.records.keys.filter (·.kind = k)).toFinset
      = ((ps.map place).filter (·.kind = k)).toFinset := by
    ext y
    have hy := h.stored y
    rw [Option.isSome_iff_exists] at hy
    rw [List.mem_toFinset, List.mem_toFinset, List.mem_filter, List.mem_filter, OrdMap.mem_keys_iff]
    change (∃ r, t.find? y = some r) ∧ _ ↔ _
    rw [hy]
    simp [empty, find?, OrdMap.find?_empty]
  have hkeys : (t.records.keys.filter (·.kind = k)).Nodup := (OrdMap.keys_nodup _).filter _
  rw [tableSize, ← List.toFinset_card_of_nodup hkeys, hsame]
  exact Multiset.toFinset_card_eq_card_iff_nodup

end Store

namespace Seed

/-- How many records of a kind the seed lists. -/
def listed (seed : Seed) (k : Kind) : Nat := (seed.records.filter (·.kind = k)).length

/-- Among the records of a kind, none carries the id that an earlier one was assigned. -/
def Apart (seed : Seed) (k : Kind) : Prop :=
  seed.numbered.Pairwise fun p q => p.1.kind = k → q.1.kind = k → p.1.id ≤ 0 → q.1.id ≠ p.2

instance (seed : Seed) (k : Kind) : Decidable (seed.Apart k) :=
  inferInstanceAs (Decidable (List.Pairwise _ _))

theorem listed_eq (seed : Seed) (k : Kind) :
    seed.listed k = ((seed.numbered.map place).filter (·.kind = k)).length := by
  rw [listed, ← map_fst_number 1 seed.records, List.filter_map, List.filter_map, List.length_map,
    List.length_map]
  rfl

/-- Two records of a kind get the same id only if the earlier one was assigned it and the later one
carries it, provided that the ids which the records carry differ. -/
theorem places_pairwise {seed : Seed}
    (hdistinct : seed.records.Pairwise fun a b => 0 < a.id → a.ref ≠ b.ref) :
    seed.numbered.Pairwise fun p q => place p = place q ↔
      p.1.kind = q.1.kind ∧ p.1.id ≤ 0 ∧ q.1.id = p.2 := by
  have hrefs : seed.numbered.Pairwise fun p q => 0 < p.1.id → p.1.ref ≠ q.1.ref := by
    rw [← map_fst_number 1 seed.records, List.pairwise_map] at hdistinct
    exact hdistinct
  refine (hrefs.and (number_pairwise 1 seed.records)).imp_of_mem ?_
  rintro ⟨r, i⟩ ⟨r', j⟩ hp hq ⟨href, hlt⟩
  obtain ⟨hown, hfree⟩ := id_of_mem_number hp
  obtain ⟨hown', -⟩ := id_of_mem_number hq
  dsimp only at hown hfree hown' href hlt ⊢
  simp only [place, EntityRef.mk.injEq]
  constructor
  · rintro ⟨hkind, rfl⟩
    have hpos' : 0 < r'.id := by
      by_contra hneg
      exact lt_irrefl _ (hlt (not_lt.1 hneg))
    have hneg : r.id ≤ 0 := by
      by_contra hpos
      rw [not_le] at hpos
      refine href hpos ?_
      rw [Record.ref, Record.ref, hkind, ← hown hpos, hown' hpos']
    exact ⟨hkind, hneg, (hown' hpos').symm⟩
  · rintro ⟨hkind, hneg, rfl⟩
    have := hfree hneg
    exact ⟨hkind, (hown' (by omega)).symm⟩

theorem nodup_places_iff {seed : Seed}
    (hdistinct : seed.records.Pairwise fun a b => 0 < a.id → a.ref ≠ b.ref) (k : Kind) :
    ((seed.numbered.map place).filter (·.kind = k)).Nodup ↔ seed.Apart k := by
  rw [List.Nodup, List.pairwise_filter, List.pairwise_map, Apart]
  have hplaces := places_pairwise hdistinct
  constructor
  · intro h
    refine (h.and hplaces).imp fun {p q} hpq hk hk' hneg hid => ?_
    exact hpq.1 (decide_eq_true hk) (decide_eq_true hk')
      (hpq.2.2 ⟨hk.trans hk'.symm, hneg, hid⟩)
  · intro h
    refine (h.and hplaces).imp fun {p q} hpq hk hk' hplace => ?_
    obtain ⟨-, hneg, hid⟩ := hpq.2.1 hplace
    exact hpq.1 (of_decide_eq_true hk) (of_decide_eq_true hk') hneg hid

end Seed

/-- A seed whose records carry different ids, as far as they carry any, is loaded without a failure into
an empty store. Each record is stored under its own id, or under the one that it was assigned, unless a
later record of its kind carries the assigned one; and a table holds as many records as are listed for
it exactly if this never happens in it. -/
theorem Store.loadSeed_complete_iff {seed : Seed} (hlength : seed.records.length < 2 ^ 61)
    (hids : ∀ r ∈ seed.records, r.id < 2 ^ 61)
    (hdistinct : seed.records.Pairwise fun a b => 0 < a.id → a.ref ≠ b.ref) :
    ∃ t, empty.loadSeed seed = (.ok (), t) ∧
      (∀ before r id after, seed.numbered = before ++ (r, id) :: after →
        (r.id ≤ 0 → ∀ q ∈ after, q.1.kind = r.kind → q.1.id ≠ id) →
          t.find? ⟨r.kind, id⟩ = some (r.withId id)) ∧
      ∀ k, t.tableSize k = seed.listed k ↔ seed.Apart k := by
  have hroom : (2 ^ 61 : Int) + seed.records.length ≤ maxInt64 := by
    have : (seed.records.length : Int) < 2 ^ 61 := by exact_mod_cast hlength
    unfold maxInt64
    omega
  obtain ⟨t, ht, hfilled⟩ := saveAll_number sound_empty (m := 2 ^ 61) (by decide) hids hroom
  change empty.Filled t seed.numbered at hfilled
  refine ⟨t, ht, fun before r id after hsplit hlater => ?_, fun k => ?_⟩
  · refine hfilled.last before (r, id) after hsplit fun hmem => ?_
    obtain ⟨q, hq, hplace⟩ := List.mem_map.1 hmem
    have hplaces := Seed.places_pairwise hdistinct
    rw [hsplit] at hplaces
    have hfollows := (List.pairwise_cons.1 (List.pairwise_append.1 hplaces).2.1).1 q hq
    obtain ⟨hkind, hneg, hid⟩ := hfollows.1 hplace.symm
    exact hlater hneg q hq hkind.symm hid
  · rw [seed.listed_eq, hfilled.tableSize_eq_iff, Seed.nodup_places_iff hdistinct]

/-- The first cluster is assigned the id of the second; the second server is assigned the one after the
first. -/
def Seed.mixed : Seed where
  clusters := [{ name := "a" }, { id := 1, name := "b" }]
  servers := [{ id := 5 }, { name := "c" }, { id := 3 }]

theorem Store.loadSeed_complete_iff_mixed :
    Seed.mixed.records.length < 2 ^ 61 ∧ (∀ r ∈ Seed.mixed.records, r.id < 2 ^ 61) ∧
      Seed.mixed.records.Pairwise (fun a b => 0 < a.id → a.ref ≠ b.ref) ∧
      ∃ t, empty.loadSeed .mixed = (.ok (), t) ∧
        t.find? ⟨.server, 6⟩ = some (.server { id := 6, name := "c" }) ∧
        t.tableSize .server = 3 ∧ t.tableSize .cluster ≠ 2 := by
  have hlength : Seed.mixed.records.length < 2 ^ 61 := by decide
  have hids : ∀ r ∈ Seed.mixed.records, r.id < 2 ^ 61 := by decide
  have hdistinct : Seed.mixed.records.Pairwise fun a b => 0 < a.id → a.ref ≠ b.ref := by decide
  obtain ⟨t, ht, hstored, hsize⟩ := loadSeed_complete_iff hlength hids hdistinct
  refine ⟨hlength, hids, hdistinct, t, ht, ?_, (hsize .server).2 (by decide), fun h => ?_⟩
  · exact hstored (Seed.mixed.numbered.take 3) (.server { name := "c" }) 6 (Seed.mixed.numbered.drop 4)
      (by decide) (fun _ => by decide)
  · exact absurd ((hsize .cluster).1 h) (by decide)

/-- The first server is assigned the id that the second one carries. -/
def Seed.crossing : Seed where
  clusters := [{ id := 1 }]
  servers := [{ clusterId := 1, name := "a" }, { id := 2, clusterId := 1, name := "b" }]

/-- One of two servers is lost, without a failure. -/
theorem Store.loadSeed_crossing_loses_server :
    Seed.crossing.records.length < 2 ^ 61 ∧ (∀ r ∈ Seed.crossing.records, r.id < 2 ^ 61) ∧
      Seed.crossing.records.Pairwise (fun a b => 0 < a.id → a.ref ≠ b.ref) ∧
      (empty.loadSeed .crossing).1 = .ok () ∧ Seed.crossing.listed .server = 2 ∧
      (empty.loadSeed .crossing).2.tableSize .server = 1 := by
  refine ⟨?_, ?_, ?_, ?_, ?_, ?_⟩ <;> decide +kernel

end Fleet
