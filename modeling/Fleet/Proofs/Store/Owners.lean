import Fleet.Proofs.Store.Linked
import Mathlib.Data.List.Infix

/-!
# What owners declared last

The index over any run of replacements. It is told by the list that each owner declared last, whatever
the lists hold, as long as no edge stands in the lists of two owners at one time.
-/

namespace Fleet

/-- An owner declares edges in the place of those that it declared before. -/
structure Replacement where
  owner : EntityRef
  edges : List Edge
deriving DecidableEq, Repr

variable {rs done : List Replacement} {owner : EntityRef} {e : Edge}

/-! ## Latest lists -/

namespace Replacement

/-- The list that the owner declared last. -/
def latest (rs : List Replacement) (owner : EntityRef) : List Edge :=
  ((rs.reverse.find? (·.owner = owner)).map (·.edges)).getD []

theorem latest_concat (rs : List Replacement) (r : Replacement) (owner : EntityRef) :
    latest (rs ++ [r]) owner = if owner = r.owner then r.edges else latest rs owner := by
  rw [latest, List.reverse_concat, List.find?_cons]
  by_cases h : owner = r.owner
  · simp [h]
  · simp [latest, h, Ne.symm h]

theorem exists_of_mem_latest (h : e ∈ latest rs owner) : ∃ r ∈ rs, r.owner = owner := by
  cases hfind : rs.reverse.find? (·.owner = owner) with
  | none => simp [latest, hfind] at h
  | some r =>
      have hmem : r ∈ rs := List.mem_reverse.1 (List.mem_of_find?_eq_some hfind)
      exact ⟨r, hmem, by simpa using List.find?_some hfind⟩

/-- At no time does an edge stand in the lists of two owners. -/
def Unshared (rs : List Replacement) : Prop :=
  ∀ done, done <+: rs →
    ∀ owner owner' e, e ∈ latest done owner → e ∈ latest done owner' → owner = owner'

theorem Unshared.of_prefix (h : Unshared rs) (hdone : done <+: rs) : Unshared done :=
  fun before hbefore => h before (hbefore.trans hdone)

/-- Only those who declared something need to be compared. -/
theorem unshared_iff : Unshared rs ↔
    ∀ done ∈ rs.inits, ∀ r ∈ done, ∀ r' ∈ done,
      ∀ e ∈ latest done r.owner, e ∈ latest done r'.owner → r.owner = r'.owner := by
  constructor
  · intro h done hdone r _ r' _ e he he'
    exact h done ((List.mem_inits done rs).1 hdone) r.owner r'.owner e he he'
  · intro h done hdone owner owner' e he he'
    obtain ⟨r, hr, rfl⟩ := exists_of_mem_latest he
    obtain ⟨r', hr', rfl⟩ := exists_of_mem_latest he'
    exact h done ((List.mem_inits done rs).2 hdone) r hr r' hr' e he he'

instance (rs : List Replacement) : Decidable (Unshared rs) := decidable_of_iff _ unshared_iff.symm

end Replacement

open Replacement

/-! ## Runs -/

namespace EdgeIndex

/-- The index after replacements. -/
def after (i : EdgeIndex) (rs : List Replacement) : EdgeIndex :=
  rs.foldl (fun i r => i.replace r.owner r.edges) i

theorem after_concat (i : EdgeIndex) (rs : List Replacement) (r : Replacement) :
    i.after (rs ++ [r]) = (i.after rs).replace r.owner r.edges :=
  List.foldl_concat ..

theorem edgesOf_after (rs : List Replacement) (owner : EntityRef) :
    (empty.after rs).edgesOf owner = latest rs owner := by
  induction rs using List.reverseRecOn with
  | nil => rfl
  | append_singleton rs r ih => rw [after_concat, edgesOf_replace, latest_concat, ih]

/-- Before each replacement no owner but the one that replaces has the edges that go. -/
theorem exact_after (h : Unshared rs) : (empty.after rs).Exact := by
  induction rs using List.reverseRecOn with
  | nil => exact exact_empty
  | append_singleton rs r ih =>
      have hbefore : Unshared rs := h.of_prefix (List.prefix_append rs [r])
      rw [after_concat]
      refine (ih hbefore).replace r.owner r.edges fun e he owner howner => ?_
      rw [edgesOf_after] at he howner
      exact hbefore rs List.prefix_rfl owner r.owner e howner he

theorem tidy_after (rs : List Replacement) : (empty.after rs).Tidy := by
  induction rs using List.reverseRecOn with
  | nil => exact tidy_empty
  | append_singleton rs r ih =>
      rw [after_concat]
      exact ih.replace r.owner r.edges

theorem links_after (h : Unshared rs) :
    Links (empty.after rs).parents e ↔ ∃ owner, e ∈ latest rs owner := by
  simp only [exact_after h e, edgesOf_after]

/-- After each of any replacements, if no edge is ever in the lists of two owners at one time: the parents
of a child are those that it has in the latest lists, each once and in order, no child is kept without
parents, and the number of edges is that of the different ones in the latest lists. -/
theorem after_holds_latest (h : Unshared rs) (hdone : done <+: rs) :
    (∀ child, ((empty.after done).parentsOf child).Pairwise EntityRef.Before ∧
      ∀ parent, parent ∈ (empty.after done).parentsOf child ↔
        ∃ owner, ⟨child, parent⟩ ∈ latest done owner) ∧
      (∀ child parents, (empty.after done).parents.find? child = some parents →
        OrdSet.toList parents ≠ []) ∧
      {e | ∃ owner, e ∈ latest done owner}.encard = (empty.after done).edgeCount := by
  have hunshared : Unshared done := h.of_prefix hdone
  refine ⟨fun child => ⟨?_, fun parent => ?_⟩, fun child parents hparents hnil => ?_, ?_⟩
  · exact (OrdMap.keys_ascending _).imp EntityRef.before_of_compare
  · rw [mem_parentsOf, links_after hunshared]
  · refine (tidy_after done).parents child (hparents.trans (congrArg some (OrdMap.ext ?_)))
    exact List.map_eq_nil_iff.1 hnil
  · simp only [← links_after hunshared]
    exact encard_links _

/-- Two groups share a proxy. One names it twice, and also declares an edge between others and one to
itself; then it names another proxy, and in the end the second group names none. -/
def groupsMove : List Replacement :=
  let first : EntityRef := ⟨.serverGroup, 1⟩
  let second : EntityRef := ⟨.serverGroup, 2⟩
  let proxy : EntityRef := ⟨.reverseProxy, 7⟩
  [⟨first, [⟨proxy, first⟩, ⟨proxy, first⟩, ⟨⟨.origin, 3⟩, proxy⟩, ⟨first, first⟩]⟩,
    ⟨second, [⟨proxy, second⟩]⟩, ⟨first, [⟨⟨.reverseProxy, 8⟩, first⟩]⟩, ⟨second, []⟩]

theorem after_holds_latest_groups :
    Unshared groupsMove ∧ groupsMove.take 2 <+: groupsMove ∧
      (empty.after (groupsMove.take 2)).parentsOf ⟨.reverseProxy, 7⟩
        = [⟨.serverGroup, 1⟩, ⟨.serverGroup, 2⟩] ∧
      {e | ∃ owner, e ∈ latest (groupsMove.take 2) owner}.encard = 4 ∧
      {e | ∃ owner, e ∈ latest groupsMove owner}.encard = 1 := by
  have hunshared : Unshared groupsMove := by decide +kernel
  have htwo : groupsMove.take 2 <+: groupsMove := List.take_prefix 2 groupsMove
  obtain ⟨-, -, hfour⟩ := after_holds_latest hunshared htwo
  obtain ⟨-, -, hone⟩ := after_holds_latest hunshared List.prefix_rfl
  have hcount : (empty.after (groupsMove.take 2)).edgeCount = 4 := by decide +kernel
  have hcount' : (empty.after groupsMove).edgeCount = 1 := by decide +kernel
  exact ⟨hunshared, htwo, by decide +kernel, by rw [hfour, hcount]; rfl, by rw [hone, hcount']; rfl⟩

/-- Of an edge that two owners share, nothing is left when the first of them gives it up. -/
example :
    let e : Edge := ⟨⟨.reverseProxy, 7⟩, ⟨.serverGroup, 1⟩⟩
    let shared : List Replacement :=
      [⟨⟨.serverGroup, 1⟩, [e]⟩, ⟨⟨.server, 5⟩, [e]⟩, ⟨⟨.serverGroup, 1⟩, []⟩]
    e ∈ latest shared ⟨.server, 5⟩ ∧ (empty.after shared).edgeCount = 0 := by
  decide +kernel

end EdgeIndex

end Fleet
