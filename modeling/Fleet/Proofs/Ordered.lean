import Fleet.Ordered.Map
import Mathlib.Algebra.GroupWithZero.Nat
import Mathlib.Data.List.Sort

/-!
# Membership in ordered maps and sets

What an ordered set holds after each of its operations, and that an ordered map is no more than its
lookups.
-/

namespace Fleet

open Std

namespace OrdMap

variable {κ α : Type} [Ord κ] [TransOrd κ] [LawfulEqOrd κ]

theorem find?_insert_self (m : OrdMap κ α) (k : κ) (a : α) : (m.insert k a).find? k = some a := by
  simp

theorem find?_insert_of_ne (m : OrdMap κ α) {k k' : κ} (a : α) (h : k' ≠ k) :
    (m.insert k a).find? k' = m.find? k' := by
  rw [find?_insert, if_neg fun he => h (LawfulEqCmp.eq_of_compare he)]

theorem find?_erase_self (m : OrdMap κ α) (k : κ) : (m.erase k).find? k = none := by simp

theorem find?_erase_of_ne (m : OrdMap κ α) {k k' : κ} (h : k' ≠ k) :
    (m.erase k).find? k' = m.find? k' := by
  rw [find?_erase, if_neg fun he => h (LawfulEqCmp.eq_of_compare he)]

theorem mem_values_iff {m : OrdMap κ α} {a : α} : a ∈ m.values ↔ ∃ k, m.find? k = some a := by
  simp only [values, List.mem_map, find?_eq_some_iff]
  constructor
  · rintro ⟨⟨k, b⟩, he, rfl⟩
    exact ⟨k, he⟩
  · rintro ⟨k, he⟩
    exact ⟨(k, a), he, rfl⟩

theorem mem_keys_iff {m : OrdMap κ α} {k : κ} : k ∈ m.keys ↔ ∃ a, m.find? k = some a := by
  simp only [keys, List.mem_map, find?_eq_some_iff]
  constructor
  · rintro ⟨⟨k', a⟩, he, rfl⟩
    exact ⟨a, he⟩
  · rintro ⟨a, he⟩
    exact ⟨(k, a), he, rfl⟩

omit [LawfulEqOrd κ] in
theorem ne_of_compare_lt {k k' : κ} (h : compare k k' = .lt) : k ≠ k' := by
  rintro rfl
  simp [ReflCmp.compare_self] at h

omit [LawfulEqOrd κ] in
theorem nodup_entries (m : OrdMap κ α) : m.entries.Nodup :=
  m.ascending.imp fun h he => ne_of_compare_lt h (congrArg Prod.fst he)

omit [TransOrd κ] [LawfulEqOrd κ] in
theorem keys_ascending (m : OrdMap κ α) : m.keys.Pairwise (compare · · = .lt) :=
  m.ascending.map _ fun _ _ h => h

omit [LawfulEqOrd κ] in
theorem keys_nodup (m : OrdMap κ α) : m.keys.Nodup := m.keys_ascending.imp ne_of_compare_lt

/-- Maps with the same lookups are the same map. -/
theorem ext_find? {m n : OrdMap κ α} (h : ∀ k, m.find? k = n.find? k) : m = n := by
  have hmem (e : κ × α) : e ∈ m.entries ↔ e ∈ n.entries := by
    rw [← find?_eq_some_iff (k := e.1), h, find?_eq_some_iff]
  have hperm : m.entries.Perm n.entries :=
    (List.perm_ext_iff_of_nodup m.nodup_entries n.nodup_entries).2 hmem
  refine ext (hperm.eq_of_pairwise (fun a b _ _ hab hba => ?_) m.ascending n.ascending)
  rw [OrientedCmp.gt_of_lt hab] at hba
  cases hba

/-! Numbers are added up over all values. -/

def total (f : α → Nat) (m : OrdMap κ α) : Nat := (m.values.map f).sum

omit [TransOrd κ] [LawfulEqOrd κ] in
theorem total_one (m : OrdMap κ α) : m.total (fun _ => 1) = m.size := by
  rw [total, List.map_const', List.sum_replicate_nat, values, List.length_map, Nat.mul_one]
  rfl

theorem total_place (f : α → Nat) (k : κ) (a : α) {l : List (κ × α)}
    (h : l.Pairwise (fun a b => compare a.1 b.1 = .lt)) :
    ((place k a l).map fun e => f e.2).sum + ((lookup k l).map f).getD 0
      = (l.map fun e => f e.2).sum + f a := by
  induction l with
  | nil => simp [place, lookup]
  | cons e l ih =>
      obtain ⟨k', b⟩ := e
      have htl := List.pairwise_cons.1 h
      unfold place
      split
      · rename_i hlt
        -- No entry has a key that is below all of them.
        have hnone : lookup k ((k', b) :: l) = none := by
          refine Option.eq_none_iff_forall_not_mem.2 fun c hc => ?_
          rcases List.mem_cons.1 (lookup_eq_some_mem hc) with heq | hmem
          · cases heq
            exact ne_of_compare_lt hlt rfl
          · exact ne_of_compare_lt (TransCmp.lt_trans hlt (htl.1 _ hmem)) rfl
        simp only [hnone, List.map_cons, List.sum_cons, Option.map_none, Option.getD_none]
        omega
      · rename_i heq
        simp only [lookup, if_pos heq, List.map_cons, List.sum_cons, Option.map_some, Option.getD_some]
        omega
      · rename_i hgt
        have hne : compare k k' ≠ .eq := by simp [hgt]
        have hrest := ih htl.2
        simp only [lookup, if_neg hne, List.map_cons, List.sum_cons]
        omega

theorem total_insert (f : α → Nat) (m : OrdMap κ α) (k : κ) (a : α) :
    (m.insert k a).total f + ((m.find? k).map f).getD 0 = m.total f + f a := by
  unfold total values
  rw [List.map_map, List.map_map]
  exact total_place f k a m.ascending

/-! A value may stand for an entry that is not there. -/

/-- The map has no entry with this value. -/
def Omits (m : OrdMap κ α) (a : α) : Prop := ∀ k, m.find? k ≠ some a

omit [LawfulEqOrd κ] in
theorem Omits.insert {m : OrdMap κ α} {a b : α} (h : m.Omits a) (k : κ) (hb : b ≠ a) :
    (m.insert k b).Omits a := by
  intro k'
  rw [find?_insert]
  split
  · exact fun he => hb (Option.some.inj he)
  · exact h k'

omit [LawfulEqOrd κ] in
theorem Omits.erase {m : OrdMap κ α} {a : α} (h : m.Omits a) (k : κ) : (m.erase k).Omits a := by
  intro k'
  rw [find?_erase]
  split
  · exact nofun
  · exact h k'

/-- Maps without such entries are the same if it makes no difference that they are not there. -/
theorem Omits.ext {m n : OrdMap κ α} {a : α} (hm : m.Omits a) (hn : n.Omits a)
    (h : ∀ k, (m.find? k).getD a = (n.find? k).getD a) : m = n := by
  refine ext_find? fun k => ?_
  have hk := h k
  cases hb : m.find? k with
  | none =>
      cases hc : n.find? k with
      | none => rfl
      | some c =>
          rw [hb, hc] at hk
          exact absurd (hc.trans (congrArg some hk.symm)) (hn k)
  | some b =>
      cases hc : n.find? k with
      | none =>
          rw [hb, hc] at hk
          exact absurd (hb.trans (congrArg some hk)) (hm k)
      | some c =>
          rw [hb, hc] at hk
          exact congrArg some hk

end OrdMap

namespace OrdSet

variable {κ : Type} [Ord κ] [TransOrd κ] [LawfulEqOrd κ]

instance : Membership κ (OrdSet κ) := ⟨fun s k => k ∈ s.toList⟩

omit [TransOrd κ] [LawfulEqOrd κ] in
theorem mem_toList {s : OrdSet κ} {k : κ} : k ∈ s.toList ↔ k ∈ s := Iff.rfl

theorem mem_iff_find? {s : OrdSet κ} {k : κ} : k ∈ s ↔ s.find? k = some () := by
  rw [← mem_toList, toList, OrdMap.mem_keys_iff]
  exact ⟨fun ⟨(), h⟩ => h, fun h => ⟨(), h⟩⟩

theorem contains_iff {s : OrdSet κ} {k : κ} : s.contains k = true ↔ k ∈ s := by
  rw [mem_iff_find?, OrdMap.contains, Option.isSome_iff_exists]
  exact ⟨fun ⟨(), h⟩ => h, fun h => ⟨(), h⟩⟩

omit [TransOrd κ] [LawfulEqOrd κ] in
@[simp] theorem not_mem_empty (k : κ) : ¬ k ∈ (OrdMap.empty : OrdSet κ) := by
  simp [← mem_toList, toList, OrdMap.keys, OrdMap.empty]

@[simp] theorem mem_add {s : OrdSet κ} {a k : κ} : k ∈ s.add a ↔ k = a ∨ k ∈ s := by
  rw [mem_iff_find?, add]
  by_cases h : k = a
  · subst h
    simp
  · rw [OrdMap.find?_insert_of_ne s () h, mem_iff_find?]
    simp [h]

theorem size_add {s : OrdSet κ} {a : κ} (h : ¬ a ∈ s) : (s.add a).size = s.size + 1 := by
  have hfind : s.find? a = none := by
    refine Option.eq_none_iff_forall_not_mem.2 fun u hu => h (mem_iff_find?.2 ?_)
    cases u
    exact hu
  have htotal := OrdMap.total_insert (fun _ => 1) s a ()
  rwa [hfind, OrdMap.total_one, OrdMap.total_one] at htotal

theorem mem_foldl_add {l : List κ} {s : OrdSet κ} {k : κ} :
    k ∈ l.foldl add s ↔ k ∈ s ∨ k ∈ l := by
  induction l generalizing s with
  | nil => simp
  | cons a l ih =>
      rw [List.foldl_cons, ih, mem_add, List.mem_cons]
      grind

@[simp] theorem mem_ofList {l : List κ} {k : κ} : k ∈ ofList l ↔ k ∈ l := by
  rw [ofList, mem_foldl_add]
  simp

@[simp] theorem mem_union {s t : OrdSet κ} {k : κ} : k ∈ s.union t ↔ k ∈ s ∨ k ∈ t := by
  rw [union, mem_foldl_add, mem_toList]

theorem mem_erase {s : OrdSet κ} {a k : κ} :
    k ∈ (OrdMap.erase s a : OrdSet κ) ↔ k ∈ s ∧ k ≠ a := by
  rw [mem_iff_find?, mem_iff_find?]
  by_cases h : k = a
  · subst h
    simp
  · rw [OrdMap.find?_erase_of_ne s h]
    simp [h]

/-- Sets with the same members are the same set. -/
theorem ext_mem {s t : OrdSet κ} (h : ∀ k, k ∈ s ↔ k ∈ t) : s = t := by
  refine OrdMap.ext_find? fun k => Option.ext fun u => ?_
  cases u
  exact mem_iff_find?.symm.trans ((h k).trans mem_iff_find?)

omit [TransOrd κ] [LawfulEqOrd κ] in
theorem isEmpty_iff {s : OrdSet κ} : s.isEmpty = true ↔ ∀ k, ¬ k ∈ s := by
  rw [OrdMap.isEmpty, List.isEmpty_iff]
  constructor
  · intro h k hk
    rw [← mem_toList, toList, OrdMap.keys, h] at hk
    cases hk
  · intro h
    cases he : s.entries with
    | nil => rfl
    | cons e l =>
        refine absurd ?_ (h e.1)
        rw [← mem_toList, toList, OrdMap.keys, he]
        simp

end OrdSet

end Fleet
