import Fleet.Proofs.Ordered
import Fleet.Store.Basic

/-!
# Edges and their index

An edge tells which record declares it, and leads to a kind further up. The index links exactly the
edges that stand in the latest list of some owner, as long as no two owners share an edge.
-/

namespace Fleet

/-! ## The edges of a record -/

/-- How many visits a walk from an entity of this kind takes at most. -/
def Kind.height : Kind → Nat
  | .cluster | .node => 1
  | .server => 2
  | .serverGroup => 3
  | .reverseProxy => 4
  | .origin => 5

/-- The entity whose record declares the edge: a server names its cluster, every other edge is
declared by the parent. -/
def Edge.owner (e : Edge) : EntityRef := if e.parent.kind = .cluster then e.child else e.parent

theorem mem_edgesTo {e : Edge} {parent : EntityRef} {kind : Kind} {ids : List Int} :
    e ∈ edgesTo parent kind ids ↔
      e.parent = parent ∧ e.child.kind = kind ∧ 0 < e.child.id ∧ e.child.id ∈ ids := by
  obtain ⟨⟨k, i⟩, p⟩ := e
  simp only [edgesTo, List.mem_map, List.mem_filter, decide_eq_true_eq, Edge.mk.injEq,
    EntityRef.mk.injEq]
  constructor
  · rintro ⟨_, ⟨hi, hpos⟩, ⟨rfl, rfl⟩, rfl⟩
    exact ⟨rfl, rfl, hpos, hi⟩
  · rintro ⟨rfl, rfl, hpos, hi⟩
    exact ⟨i, ⟨hi, hpos⟩, ⟨rfl, rfl⟩, rfl⟩

namespace Record

/-- The kinds at both ends of an edge, and the end that is the record itself. -/
theorem edge_cases {r : Record} {e : Edge} (h : e ∈ r.edges) :
    (e.child = r.ref ∧ r.kind = .server ∧ e.parent.kind = .cluster) ∨
      (e.parent = r.ref ∧
        ((r.kind = .server ∧ (e.child.kind = .serverGroup ∨ e.child.kind = .reverseProxy)) ∨
          (r.kind = .serverGroup ∧ e.child.kind = .reverseProxy) ∨
          (r.kind = .reverseProxy ∧ e.child.kind = .origin))) := by
  cases r with
  | cluster _ | node _ | origin _ => cases h
  | server s =>
      simp only [edges, Server.edges, List.mem_append, mem_edgesTo] at h
      rcases h with (h | ⟨hp, hc, _⟩) | ⟨hp, hc, _⟩
      · split at h
        · rw [List.mem_singleton.1 h]
          exact .inl ⟨rfl, rfl, rfl⟩
        · cases h
      · exact .inr ⟨hp, .inl ⟨rfl, .inl hc⟩⟩
      · exact .inr ⟨hp, .inl ⟨rfl, .inr hc⟩⟩
  | serverGroup g =>
      obtain ⟨hp, hc, _⟩ := mem_edgesTo.1 h
      exact .inr ⟨hp, .inr (.inl ⟨rfl, hc⟩)⟩
  | reverseProxy p =>
      obtain ⟨hp, hc, _⟩ := mem_edgesTo.1 h
      exact .inr ⟨hp, .inr (.inr ⟨rfl, hc⟩)⟩

theorem owner_of_mem_edges {r : Record} {e : Edge} (h : e ∈ r.edges) : e.owner = r.ref := by
  rcases edge_cases h with ⟨hc, _, hk⟩ | ⟨hp, hk⟩
  · rw [Edge.owner, if_pos hk, hc]
  · rw [Edge.owner, if_neg, hp]
    rw [hp]
    rcases hk with ⟨hk, _⟩ | ⟨hk, _⟩ | ⟨hk, _⟩ <;> simp [ref, hk]

theorem height_lt_of_mem_edges {r : Record} {e : Edge} (h : e ∈ r.edges) :
    e.parent.kind.height < e.child.kind.height := by
  rcases edge_cases h with ⟨hc, hk, hp⟩ | ⟨hp, hk⟩
  · rw [hc, hp]
    simp [ref, hk, Kind.height]
  · rw [hp]
    rcases hk with ⟨hk, hc | hc⟩ | ⟨hk, hc⟩ | ⟨hk, hc⟩ <;> simp [ref, hk, hc, Kind.height]

theorem edges_withState (s : EntityState) (r : Record) : (r.withState s).edges = r.edges := by
  cases r <;> rfl

end Record

/-! ## The index -/

namespace EdgeIndex

/-- The parents by child hold the edge. -/
def Links (parents : OrdMap EntityRef (OrdSet EntityRef)) (e : Edge) : Prop :=
  e.parent ∈ (parents.find? e.child).getD .empty

theorem mem_parentsOf {i : EdgeIndex} {child parent : EntityRef} :
    parent ∈ i.parentsOf child ↔ Links i.parents ⟨child, parent⟩ := Iff.rfl

theorem links_addParent {parents : OrdMap EntityRef (OrdSet EntityRef)} {a e : Edge} :
    Links (addParent parents a) e ↔ e = a ∨ Links parents e := by
  obtain ⟨c, p⟩ := e
  obtain ⟨c', p'⟩ := a
  by_cases hc : c = c'
  · subst hc
    simp [Links, addParent]
  · simp [Links, addParent, OrdMap.find?_insert_of_ne _ _ hc, hc]

theorem find?_dropParent_of_ne {parents : OrdMap EntityRef (OrdSet EntityRef)} {d : Edge}
    {c : EntityRef} (h : c ≠ d.child) : (dropParent parents d).find? c = parents.find? c := by
  unfold dropParent
  split
  · rfl
  · dsimp only
    split
    · exact OrdMap.find?_erase_of_ne _ h
    · exact OrdMap.find?_insert_of_ne _ _ h

theorem links_dropParent {parents : OrdMap EntityRef (OrdSet EntityRef)} {d e : Edge} :
    Links (dropParent parents d) e ↔ Links parents e ∧ e ≠ d := by
  obtain ⟨c, p⟩ := e
  obtain ⟨c', p'⟩ := d
  by_cases hc : c = c'
  · subst hc
    cases hf : parents.find? c with
    | none => simp [Links, dropParent, hf]
    | some set =>
        by_cases he : OrdMap.isEmpty (OrdMap.erase set p') = true
        · -- The set is dropped as a whole, so it held nothing but the parent.
          have hp : p ∈ set → p = p' := by
            intro hp
            have := OrdSet.isEmpty_iff.1 he p
            rw [OrdSet.mem_erase] at this
            exact by_contra fun hne => this ⟨hp, hne⟩
          simpa [Links, dropParent, hf, he] using hp
        · simp [Links, dropParent, hf, he, OrdSet.mem_erase]
  · have hkeep : (dropParent parents ⟨c', p'⟩).find? c = parents.find? c := find?_dropParent_of_ne hc
    simp [Links, hkeep, hc]

theorem links_foldl_addParent {edges : List Edge} {parents : OrdMap EntityRef (OrdSet EntityRef)}
    {e : Edge} : Links (edges.foldl addParent parents) e ↔ e ∈ edges ∨ Links parents e := by
  induction edges generalizing parents with
  | nil => simp
  | cons a edges ih =>
      rw [List.foldl_cons, ih, links_addParent, List.mem_cons]
      grind

theorem links_foldl_dropParent {edges : List Edge} {parents : OrdMap EntityRef (OrdSet EntityRef)}
    {e : Edge} : Links (edges.foldl dropParent parents) e ↔ Links parents e ∧ e ∉ edges := by
  induction edges generalizing parents with
  | nil => simp
  | cons a edges ih =>
      rw [List.foldl_cons, ih, links_dropParent, List.mem_cons]
      grind

theorem edgesOf_replace (i : EdgeIndex) (owner o : EntityRef) (edges : List Edge) :
    (i.replace owner edges).edgesOf o = if o = owner then edges else i.edgesOf o := by
  unfold edgesOf replace
  cases edges with
  | nil =>
      by_cases h : o = owner
      · subst h
        simp
      · simp [h, OrdMap.find?_erase_of_ne _ h]
  | cons e edges =>
      by_cases h : o = owner
      · subst h
        simp
      · simp [h, OrdMap.find?_insert_of_ne _ _ h]

/-- The index links the edges that some owner declared last, and no others. -/
def Exact (i : EdgeIndex) : Prop := ∀ e, Links i.parents e ↔ ∃ owner, e ∈ i.edgesOf owner

theorem exact_empty : empty.Exact := by
  intro e
  simp [Links, empty, edgesOf, OrdMap.find?_empty]

/-- The removal goes by edge and not by owner, so the edges that the owner gives up must be its own. -/
theorem Exact.replace {i : EdgeIndex} (h : i.Exact) (owner : EntityRef) (edges : List Edge)
    (unshared : ∀ e ∈ i.edgesOf owner, ∀ o, e ∈ i.edgesOf o → o = owner) :
    (i.replace owner edges).Exact := by
  intro e
  have hlinks : Links (i.replace owner edges).parents e ↔
      e ∈ edges ∨ Links i.parents e ∧ e ∉ i.edgesOf owner := by
    rw [EdgeIndex.replace, links_foldl_addParent, links_foldl_dropParent]
  simp only [hlinks, h e, edgesOf_replace]
  constructor
  · rintro (he | ⟨⟨o, ho⟩, hne⟩)
    · exact ⟨owner, by simpa using he⟩
    · refine ⟨o, ?_⟩
      rwa [if_neg]
      rintro rfl
      exact hne ho
  · rintro ⟨o, ho⟩
    split at ho
    · exact .inl ho
    · rename_i hne
      exact .inr ⟨⟨o, ho⟩, fun hmem => hne (unshared e hmem o ho)⟩

/-- The index keeps no entity without parents and no owner without edges. -/
structure Tidy (i : EdgeIndex) : Prop where
  parents : i.parents.Omits .empty
  declared : i.declared.Omits []

theorem tidy_empty : empty.Tidy where
  parents _ := nofun
  declared _ := nofun

theorem omits_addParent {parents : OrdMap EntityRef (OrdSet EntityRef)} (h : parents.Omits .empty)
    (e : Edge) : (addParent parents e).Omits .empty := by
  refine h.insert e.child fun he => OrdSet.not_mem_empty e.parent ?_
  rw [← he]
  exact OrdSet.mem_add.2 (.inl rfl)

theorem omits_dropParent {parents : OrdMap EntityRef (OrdSet EntityRef)} (h : parents.Omits .empty)
    (e : Edge) : (dropParent parents e).Omits .empty := by
  unfold dropParent
  split
  · exact h
  · dsimp only
    split
    · exact h.erase e.child
    · rename_i hsome
      refine h.insert e.child fun he => hsome ?_
      rw [he]
      rfl

theorem omits_foldl {f : OrdMap EntityRef (OrdSet EntityRef) → Edge →
      OrdMap EntityRef (OrdSet EntityRef)}
    (hf : ∀ parents e, parents.Omits .empty → (f parents e).Omits .empty) (edges : List Edge)
    {parents : OrdMap EntityRef (OrdSet EntityRef)} (h : parents.Omits .empty) :
    (edges.foldl f parents).Omits .empty := by
  induction edges generalizing parents with
  | nil => exact h
  | cons e edges ih => exact ih (hf parents e h)

theorem Tidy.replace {i : EdgeIndex} (h : i.Tidy) (owner : EntityRef) (edges : List Edge) :
    (i.replace owner edges).Tidy where
  parents :=
    omits_foldl (fun _ e h => omits_addParent h e) edges
      (omits_foldl (fun _ e h => omits_dropParent h e) (i.edgesOf owner) h.parents)
  declared := by
    cases edges with
    | nil => exact h.declared.erase owner
    | cons e edges => exact h.declared.insert owner (List.cons_ne_nil e edges)

/-- A tidy index that links what the owners declare is told by what they declare. -/
theorem ext_edgesOf {i j : EdgeIndex} (hi : i.Exact) (hj : j.Exact) (hti : i.Tidy) (htj : j.Tidy)
    (h : ∀ owner, i.edgesOf owner = j.edgesOf owner) : i = j := by
  have hlinks (e : Edge) : Links i.parents e ↔ Links j.parents e := by
    rw [hi, hj]
    simp only [h]
  have hparents : i.parents = j.parents :=
    hti.parents.ext htj.parents fun child => OrdSet.ext_mem fun p => hlinks ⟨child, p⟩
  have hdeclared : i.declared = j.declared := hti.declared.ext htj.declared h
  cases i
  cases j
  cases hparents
  cases hdeclared
  rfl

end EdgeIndex

end Fleet
