import Fleet.Proofs.Json.Decoding

/-!
# Values of any shape

What the decoder of any value gives has ascending keys in each object, and such a value is taken back
with its numbers read again.
-/

namespace Fleet.Json

open Std

/-- The keys are ascending, so each stands once. -/
def Ascending (members : List (String × Json)) : Prop :=
  members.Pairwise fun a b => compare a.1 b.1 = .lt

mutual

/-- The keys of every object in the value are ascending. -/
def IsSorted : Json → Prop
  | .array items => ItemsSorted items
  | .object members => Ascending members ∧ MembersSorted members
  | _ => True

def ItemsSorted : List Json → Prop
  | [] => True
  | j :: rest => j.IsSorted ∧ ItemsSorted rest

def MembersSorted : List (String × Json) → Prop
  | [] => True
  | (_, j) :: rest => j.IsSorted ∧ MembersSorted rest

end

/-- A key above all others goes to the end. -/
theorem insertMember_append {key : String} {j : Json} {l : List (String × Json)}
    (h : ∀ e ∈ l, compare e.1 key = .lt) : insertMember key j l = l ++ [(key, j)] := by
  unfold insertMember
  induction l with
  | nil => rfl
  | cons e l ih =>
      simp only [List.mem_cons, forall_eq_or_imp] at h
      have hgt : compare key e.1 = .gt := OrientedCmp.gt_of_lt h.1
      simp only [OrdMap.place, hgt, List.cons_append]
      rw [ih h.2]

theorem membersSorted_iff {l : List (String × Json)} :
    MembersSorted l ↔ ∀ e ∈ l, e.2.IsSorted := by
  induction l with
  | nil => simp [MembersSorted]
  | cons e l ih => simp [MembersSorted, ih]

theorem ascending_mapMembers {f : Number → Number} {l : List (String × Json)} :
    Ascending (mapMembers f l) ↔ Ascending l := by
  rw [Ascending, mapMembers_eq_map, List.pairwise_map]
  rfl

mutual

theorem isSorted_mapNumbers {f : Number → Number} :
    (j : Json) → ((j.mapNumbers f).IsSorted ↔ j.IsSorted)
  | .null | .bool _ | .number _ | .string _ => Iff.rfl
  | .array items => itemsSorted_mapItems items
  | .object members => and_congr ascending_mapMembers (membersSorted_mapMembers members)

theorem itemsSorted_mapItems {f : Number → Number} :
    (l : List Json) → (ItemsSorted (mapItems f l) ↔ ItemsSorted l)
  | [] => Iff.rfl
  | j :: l => and_congr (isSorted_mapNumbers j) (itemsSorted_mapItems l)

theorem membersSorted_mapMembers {f : Number → Number} :
    (l : List (String × Json)) → (MembersSorted (mapMembers f l) ↔ MembersSorted l)
  | [] => Iff.rfl
  | (_, j) :: l => and_congr (isSorted_mapNumbers j) (membersSorted_mapMembers l)

end

namespace Decoder

mutual

theorem yields_any {c : Context} :
    (j : Json) → j.IsSorted → Yields (c.Allows j.depth) (any c j.toReading) j
  | .null, _ | .bool _, _ | .number _, _ | .string _, _ => .ok Context.allows_zero _
  | .array items, hs => yields_enter fun _ => (yields_anyItems items hs).bind_ok rfl
  | .object members, hs =>
    yields_enter fun _ => (yields_anyMembers members [] hs.2 hs.1).bind_ok rfl

theorem yields_anyItems {c : Context} :
    (l : List Json) → ItemsSorted l → Yields (c.Allows (depthItems l)) (anyItems c (toItems l)) l
  | [], _ => .ok Context.allows_zero []
  | j :: l, hs => by
    refine ((yields_any j hs.1).bind ?_).congr Context.allows_max
    exact (yields_anyItems l hs.2).bind_ok rfl

theorem yields_anyMembers {c : Context} :
    (l met : List (String × Json)) → MembersSorted l → Ascending (met ++ l) →
      Yields (c.Allows (depthMembers l)) (anyMembers c (toMembers l) met) (met ++ l)
  | [], met, _, _ => by
    rw [List.append_nil]
    exact .ok Context.allows_zero met
  | (key, j) :: l, met, hs, ha => by
    have hbelow : ∀ e ∈ met, compare e.1 key = .lt := fun e he =>
      (List.pairwise_append.1 ha).2.2 e he (key, j) List.mem_cons_self
    have hassoc : met ++ (key, j) :: l = (met ++ [(key, j)]) ++ l := by simp
    rw [hassoc] at ha ⊢
    refine ((yields_any j hs.1).bind ?_).congr Context.allows_max
    rw [insertMember_append hbelow]
    exact yields_anyMembers l _ hs.2 ha

end

/-! ## What was decoded -/

mutual

theorem isSorted_of_any {c : Context} {j : Json} : (r : Reading) → any c r = .ok j → j.IsSorted
  | .fault, h | .number none, h | .string none, h => nomatch h
  | .null, h | .bool _, h | .number (some _), h | .string (some _), h => by
    cases h
    trivial
  | .array items, h => by
    obtain ⟨d, _, h⟩ := of_bind_eq_ok h
    obtain ⟨l, hl, h⟩ := of_bind_eq_ok h
    cases h
    exact itemsSorted_of_anyItems items hl
  | .object members, h => by
    obtain ⟨d, _, h⟩ := of_bind_eq_ok h
    obtain ⟨l, hl, h⟩ := of_bind_eq_ok h
    cases h
    exact membersSorted_of_anyMembers members hl ⟨.nil, trivial⟩

theorem itemsSorted_of_anyItems {c : Context} {l : List Json} :
    (items : Items) → anyItems c items = .ok l → ItemsSorted l
  | .fault, h => nomatch h
  | .done, h => by
    cases h
    trivial
  | .item value rest, h => by
    obtain ⟨j, hj, h⟩ := of_bind_eq_ok h
    obtain ⟨l, hl, h⟩ := of_bind_eq_ok h
    cases h
    exact ⟨isSorted_of_any value hj, itemsSorted_of_anyItems rest hl⟩

theorem membersSorted_of_anyMembers {c : Context} {l met : List (String × Json)} :
    (members : Members) → anyMembers c members met = .ok l → Ascending met ∧ MembersSorted met →
      Ascending l ∧ MembersSorted l
  | .fault, h, _ => nomatch h
  | .member none _ _, h, _ => nomatch h
  | .done, h, hmet => by
    cases h
    exact hmet
  | .member (some key) value rest, h, hmet => by
    obtain ⟨j, hj, h⟩ := of_bind_eq_ok h
    refine membersSorted_of_anyMembers rest h ⟨OrdMap.place_ascending key j hmet.1, ?_⟩
    rw [membersSorted_iff] at hmet ⊢
    intro e he
    rcases OrdMap.mem_place he with rfl | he
    · exact isSorted_of_any value hj
    · exact hmet.2 e he

end

/-! ## Objects -/

theorem takes_anyObject {n : Nat} {members : List (String × Json)}
    (hreadable : MembersAll Number.IsReadable members)
    (hsorted : Ascending members ∧ MembersSorted members) (hdepth : depthMembers members ≤ n) :
    anyObject.Takes (n + 1) (.object members) (mapMembers Number.reread members) := by
  refine ⟨hreadable, Nat.succ_le_succ hdepth, fun c => yields_enter fun d => ?_⟩
  have hany := yields_anyMembers (c := d) (mapMembers Number.reread members) []
    ((membersSorted_mapMembers members).2 hsorted.2) (ascending_mapMembers.2 hsorted.1)
  rw [depthMembers_mapMembers] at hany
  exact hany

theorem sorted_of_anyObject {c : Context} {r : Reading} {members : List (String × Json)}
    (h : anyObject c r = .ok members) : Ascending members ∧ MembersSorted members := by
  cases r with
  | object ms =>
      obtain ⟨d, _, h⟩ := of_bind_eq_ok h
      exact membersSorted_of_anyMembers ms h ⟨.nil, trivial⟩
  | _ => cases h

end Decoder

end Fleet.Json
