/-!
# Ordered maps

A map is the list of its entries, the keys ascending and each once, so that two maps with the same
entries are the same map. The main statements say what `find?` sees after `insert` and `erase`.
-/

namespace Fleet

open Std

structure OrdMap (κ α : Type) [Ord κ] where
  entries : List (κ × α)
  ascending : entries.Pairwise (fun a b => compare a.1 b.1 = .lt)

namespace OrdMap

variable {κ α β : Type} [Ord κ]

theorem ext {m n : OrdMap κ α} (h : m.entries = n.entries) : m = n := by
  cases m; cases n; cases h; rfl

def empty : OrdMap κ α := ⟨[], .nil⟩

instance : Inhabited (OrdMap κ α) := ⟨empty⟩

instance [BEq κ] [BEq α] : BEq (OrdMap κ α) := ⟨fun m n => m.entries == n.entries⟩

def isEmpty (m : OrdMap κ α) : Bool := m.entries.isEmpty

def size (m : OrdMap κ α) : Nat := m.entries.length

/-- The keys, ascending. -/
def keys (m : OrdMap κ α) : List κ := m.entries.map (·.1)

def values (m : OrdMap κ α) : List α := m.entries.map (·.2)

/-! ## Lookup -/

/-- The value of the first entry with this key. -/
def lookup (k : κ) : List (κ × α) → Option α
  | [] => none
  | (k', a) :: rest => if compare k k' = .eq then some a else lookup k rest

def find? (m : OrdMap κ α) (k : κ) : Option α := lookup k m.entries

def contains (m : OrdMap κ α) (k : κ) : Bool := (m.find? k).isSome

theorem find?_empty (k : κ) : (empty : OrdMap κ α).find? k = none := rfl

/-! ## Insertion -/

/-- Puts an entry at its place, over one with the same key. -/
def place (k : κ) (a : α) : List (κ × α) → List (κ × α)
  | [] => [(k, a)]
  | (k', b) :: rest =>
    match compare k k' with
    | .lt => (k, a) :: (k', b) :: rest
    | .eq => (k, a) :: rest
    | .gt => (k', b) :: place k a rest

theorem mem_place {k : κ} {a : α} {e : κ × α} {l : List (κ × α)} (h : e ∈ place k a l) :
    e = (k, a) ∨ e ∈ l := by
  induction l with
  | nil => simpa [place] using h
  | cons hd tl ih =>
    obtain ⟨k', b⟩ := hd
    unfold place at h
    split at h
    · simpa using h
    · simp only [List.mem_cons] at h ⊢
      rcases h with h | h
      · exact .inl h
      · exact .inr (.inr h)
    · simp only [List.mem_cons] at h ⊢
      rcases h with h | h
      · exact .inr (.inl h)
      · rcases ih h with h | h
        · exact .inl h
        · exact .inr (.inr h)

theorem place_ascending [TransOrd κ] (k : κ) (a : α) {l : List (κ × α)}
    (h : l.Pairwise (fun a b => compare a.1 b.1 = .lt)) :
    (place k a l).Pairwise (fun a b => compare a.1 b.1 = .lt) := by
  induction l with
  | nil => simp [place]
  | cons hd tl ih =>
    obtain ⟨k', b⟩ := hd
    have htl := List.pairwise_cons.1 h
    unfold place
    split
    · rename_i hlt
      refine List.pairwise_cons.2 ⟨?_, h⟩
      intro e he
      rcases List.mem_cons.1 he with rfl | he
      · exact hlt
      · exact TransCmp.lt_trans hlt (htl.1 e he)
    · rename_i heq
      refine List.pairwise_cons.2 ⟨?_, htl.2⟩
      intro e he
      have := htl.1 e he
      simpa [TransCmp.congr_left heq] using this
    · rename_i hgt
      refine List.pairwise_cons.2 ⟨?_, ih htl.2⟩
      intro e he
      rcases mem_place he with rfl | he
      · exact OrientedCmp.lt_of_gt hgt
      · exact htl.1 e he

def insert [TransOrd κ] (m : OrdMap κ α) (k : κ) (a : α) : OrdMap κ α :=
  ⟨place k a m.entries, place_ascending k a m.ascending⟩

def ofList [TransOrd κ] (l : List (κ × α)) : OrdMap κ α :=
  l.foldl (fun m e => m.insert e.1 e.2) empty

theorem lookup_place [TransOrd κ] (k k' : κ) (a : α) (l : List (κ × α)) :
    lookup k' (place k a l) = if compare k' k = .eq then some a else lookup k' l := by
  induction l with
  | nil => simp [place, lookup]
  | cons hd tl ih =>
    obtain ⟨c, b⟩ := hd
    unfold place
    split
    · rfl
    · rename_i heq
      have : compare k' k = compare k' c := TransCmp.congr_right heq
      simp only [lookup, this]
      split <;> rfl
    · rename_i hgt
      simp only [lookup, ih]
      by_cases h1 : compare k' c = .eq
      · have h2 : compare k' k ≠ .eq := by
          intro h2
          have h3 : compare k k' = .eq := OrientedCmp.eq_symm h2
          have h4 : compare k c = .eq := TransCmp.eq_trans h3 h1
          rw [h4] at hgt
          cases hgt
        simp [h1, h2]
      · simp [h1]

@[simp] theorem find?_insert [TransOrd κ] (m : OrdMap κ α) (k k' : κ) (a : α) :
    (m.insert k a).find? k' = if compare k' k = .eq then some a else m.find? k' :=
  lookup_place k k' a m.entries

/-! ## Removal -/

def erase (m : OrdMap κ α) (k : κ) : OrdMap κ α :=
  ⟨m.entries.filter (fun e => compare k e.1 != .eq), m.ascending.filter _⟩

theorem lookup_filter [TransOrd κ] (k k' : κ) (l : List (κ × α)) :
    lookup k' (l.filter (fun e => compare k e.1 != .eq))
      = if compare k' k = .eq then none else lookup k' l := by
  induction l with
  | nil => simp [lookup]
  | cons hd tl ih =>
    obtain ⟨c, b⟩ := hd
    by_cases hc : compare k c = .eq
    · have hf : (compare k c != Ordering.eq) = false := by simp [hc]
      rw [List.filter_cons]
      simp only [hf, Bool.false_eq_true, ↓reduceIte, ih, lookup]
      have : compare k' k = compare k' c := TransCmp.congr_right hc
      rw [this]
      split <;> rfl
    · have hf : (compare k c != Ordering.eq) = true := by simp [hc]
      rw [List.filter_cons]
      simp only [hf, ↓reduceIte, lookup, ih]
      by_cases h1 : compare k' c = .eq
      · have h2 : compare k' k ≠ .eq := by
          intro h2
          exact hc (TransCmp.eq_trans (OrientedCmp.eq_symm h2) h1)
        simp [h1, h2]
      · simp [h1]

@[simp] theorem find?_erase [TransOrd κ] (m : OrdMap κ α) (k k' : κ) :
    (m.erase k).find? k' = if compare k' k = .eq then none else m.find? k' :=
  lookup_filter k k' m.entries

/-! ## Entries and lookups -/

theorem lookup_eq_some_mem [LawfulEqOrd κ] {k : κ} {a : α} {l : List (κ × α)}
    (h : lookup k l = some a) : (k, a) ∈ l := by
  induction l with
  | nil => simp [lookup] at h
  | cons hd tl ih =>
    obtain ⟨c, b⟩ := hd
    unfold lookup at h
    split at h
    · rename_i hc
      have : k = c := LawfulEqCmp.eq_of_compare hc
      simp_all
    · exact List.mem_cons_of_mem _ (ih h)

theorem lookup_of_mem [TransOrd κ] {k : κ} {a : α} {l : List (κ × α)}
    (hl : l.Pairwise (fun a b => compare a.1 b.1 = .lt)) (h : (k, a) ∈ l) : lookup k l = some a := by
  induction l with
  | nil => simp at h
  | cons hd tl ih =>
    obtain ⟨c, b⟩ := hd
    have htl := List.pairwise_cons.1 hl
    rcases List.mem_cons.1 h with h | h
    · cases h
      simp [lookup]
    · have : compare c k = .lt := htl.1 _ h
      have hne : compare k c ≠ .eq := by
        intro he
        rw [OrientedCmp.eq_symm he] at this
        cases this
      simp [lookup, hne, ih htl.2 h]

/-- Lookup and membership say the same. -/
theorem find?_eq_some_iff [TransOrd κ] [LawfulEqOrd κ] {m : OrdMap κ α} {k : κ} {a : α} :
    m.find? k = some a ↔ (k, a) ∈ m.entries :=
  ⟨lookup_eq_some_mem, lookup_of_mem m.ascending⟩

end OrdMap

/-! ## Ordered sets -/

/-- Keys without values. -/
abbrev OrdSet (κ : Type) [Ord κ] := OrdMap κ Unit

namespace OrdSet

variable {κ : Type} [Ord κ]

def toList (s : OrdSet κ) : List κ := OrdMap.keys s

def add [TransOrd κ] (s : OrdSet κ) (k : κ) : OrdSet κ := s.insert k ()

def ofList [TransOrd κ] (l : List κ) : OrdSet κ := l.foldl add OrdMap.empty

def union [TransOrd κ] (s t : OrdSet κ) : OrdSet κ := (toList t).foldl add s

end OrdSet

end Fleet
