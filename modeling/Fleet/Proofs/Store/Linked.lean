import Fleet.Proofs.Mutation.Basic
import Mathlib.Data.Set.Card

/-!
# The index of a reachable store

The index as one list of edges. In every reachable store it links the edges that the stored records
declare, counts each of them once, and yields the enabled parents in the order of references.
-/

namespace Fleet

open Std

/-! ## The order of references -/

/-- The order of references: by kind, then by id. -/
def EntityRef.Before (a b : EntityRef) : Prop :=
  a.kind.rank < b.kind.rank ∨ a.kind = b.kind ∧ a.id < b.id

theorem EntityRef.before_of_compare {a b : EntityRef} (h : compare a b = .lt) : a.Before b := by
  have h : (compare a.kind.rank b.kind.rank).then (compare a.id b.id) = .lt := h
  rw [Ordering.then_eq_lt] at h
  rcases h with h | ⟨h, hid⟩
  · exact .inl (Nat.compare_eq_lt.1 h)
  · exact .inr ⟨Kind.rank_injective (Nat.compare_eq_eq.1 h), compare_lt_iff_lt.1 hid⟩

/-! ## The edges of an index -/

namespace EdgeIndex

variable {i : EdgeIndex}

/-- The edges that the index links, by child and then by parent. -/
def edges (i : EdgeIndex) : List Edge :=
  i.parents.entries.flatMap fun e => e.2.toList.map (Edge.mk e.1)

theorem mem_edges {e : Edge} : e ∈ i.edges ↔ Links i.parents e := by
  obtain ⟨child, parent⟩ := e
  simp only [edges, List.mem_flatMap, List.mem_map, Edge.mk.injEq, Links]
  constructor
  · rintro ⟨⟨c, set⟩, hc, p, hp, rfl, rfl⟩
    rw [OrdMap.find?_eq_some_iff.2 hc]
    exact hp
  · intro hp
    cases hc : i.parents.find? child with
    | none => simp [hc] at hp
    | some set =>
        rw [hc] at hp
        exact ⟨(child, set), OrdMap.find?_eq_some_iff.1 hc, parent, hp, rfl, rfl⟩

theorem nodup_edges : i.edges.Nodup := by
  rw [edges, List.nodup_flatMap]
  constructor
  · intro e _
    exact (OrdMap.keys_nodup e.2).map fun p q h => (Edge.mk.inj h).2
  · refine i.parents.ascending.imp fun {a b} h => ?_
    -- Two entries have different children, so no edge stands under both.
    intro e ha hb
    obtain ⟨p, -, rfl⟩ := List.mem_map.1 ha
    obtain ⟨q, -, hq⟩ := List.mem_map.1 hb
    exact OrdMap.ne_of_compare_lt h (Edge.mk.inj hq).1.symm

theorem length_edges : i.edges.length = i.edgeCount := by
  unfold edges edgeCount OrdMap.values
  induction i.parents.entries with
  | nil => rfl
  | cons e entries ih =>
      rw [List.flatMap_cons, List.length_append, ih, List.map_cons, List.foldr_cons]
      simp [OrdSet.toList, OrdMap.keys, OrdMap.size]

theorem encard_links (i : EdgeIndex) : {e | Links i.parents e}.encard = i.edgeCount := by
  have hset : {e | Links i.parents e} = i.edges.toFinset := by
    ext e
    rw [Set.mem_ofPred_eq, List.coe_toFinset, Set.mem_ofPred_eq, mem_edges]
  rw [hset, Set.encard_coe_eq_coe_finsetCard, List.toFinset_card_of_nodup nodup_edges, length_edges]

end EdgeIndex

/-! ## The index and the records -/

namespace Store

variable {s : Store}

theorem Sound.encard_declares (hs : s.Sound) : {e | s.Declares e}.encard = s.edgeCount := by
  simp only [← hs.mem_index, EdgeIndex.mem_parentsOf]
  exact EdgeIndex.encard_links s.index

theorem parentsOf_before (s : Store) (child : EntityRef) :
    (s.parentsOf child).Pairwise EntityRef.Before :=
  ((OrdMap.keys_ascending _).imp EntityRef.before_of_compare).filter _

/-- The records stand in the order of their references, so those of one kind in the order of their ids. -/
theorem Sound.values_before (hs : s.Sound) :
    s.records.values.Pairwise fun a b => a.ref.Before b.ref := by
  rw [OrdMap.values, List.pairwise_map]
  have hown {e : EntityRef × Record} (he : e ∈ s.records.entries) : e.2.ref = e.1 :=
    hs.own (OrdMap.find?_eq_some_iff.2 he)
  refine s.records.ascending.imp_of_mem fun {a b} ha hb h => ?_
  rw [hown ha, hown hb]
  exact EntityRef.before_of_compare h

theorem Sound.enabledNodes_ascending (hs : s.Sound) (cluster : Int) :
    (s.enabledNodes cluster).Pairwise (· < ·) := by
  rw [enabledNodes, List.pairwise_filterMap, List.pairwise_filterMap]
  refine hs.values_before.imp fun {r r'} h a ha a' ha' n hn n' hn' => ?_
  obtain rfl := Record.node?_eq_some_iff.1 ha
  obtain rfl := Record.node?_eq_some_iff.1 ha'
  rw [Option.ite_none_right_eq_some] at hn hn'
  rw [← Option.some.inj hn.2, ← Option.some.inj hn'.2]
  rcases h with h | ⟨-, h⟩
  · exact absurd h (Nat.lt_irrefl _)
  · exact h

/-- The index is what the stored records declare: it links a pair exactly if a record declares it,
it counts each pair once, and asked for parents the store names the linked ones that are stored and
enabled, each once and in order. -/
theorem index_eq_declared (h : s.Reachable) :
    (∀ child parent, parent ∈ s.index.parentsOf child ↔ s.Declares ⟨child, parent⟩) ∧
      {e | s.Declares e}.encard = s.edgeCount ∧
      ∀ child, ∃ parents, s.answer (.parents child) = (.ok parents, s) ∧
        (∀ p, p ∈ parents ↔
          p ∈ s.index.parentsOf child ∧ ∃ r, s.find? p = some r ∧ r.isEnabled = true) ∧
        parents.Pairwise EntityRef.Before := by
  have hs := h.sound
  refine ⟨fun child parent => hs.mem_index, hs.encard_declares, fun child => ?_⟩
  refine ⟨s.parentsOf child, rfl, fun p => ?_, s.parentsOf_before child⟩
  rw [parentsOf, List.mem_filter, isEnabled_iff]

/-- A server that was saved twice: at first in another cluster, and with one proxy in two slots. -/
def resaved : Store :=
  let proxy : RefText := ⟨"\x7b\"reverseProxyId\":3\x7d"⟩
  let first : Server := { id := 5, clusterId := 1, httpReverseProxy := proxy, tcpReverseProxy := proxy }
  let second : Server := { id := 5, clusterId := 2, httpReverseProxy := proxy }
  ((empty.answer (.save (.server first))).2.answer (.save (.server second))).2

theorem index_eq_declared_resaved :
    resaved.Reachable ∧ ¬ resaved.Declares ⟨⟨.server, 5⟩, ⟨.cluster, 1⟩⟩ ∧
      {e | resaved.Declares e}.encard = 2 := by
  have hr : resaved.Reachable := .call _ (.call _ .empty)
  obtain ⟨hlinks, hcount, -⟩ := index_eq_declared hr
  have htwo : resaved.edgeCount = 2 := by decide +kernel
  refine ⟨hr, fun h => ?_, by rw [hcount, htwo]; rfl⟩
  have hgone : ⟨.cluster, 1⟩ ∉ resaved.index.parentsOf ⟨.server, 5⟩ := by decide +kernel
  exact hgone ((hlinks _ _).2 h)

end Store

end Fleet
