import Fleet.Proofs.Json.Printed

/-!
# Values whose numbers are read again

A value is changed number by number; its shape stays. Reading the text of a value again is such a
change, and a look at numbers may be too coarse to tell a number from what its text is read as.
-/

namespace Fleet.Json

namespace Number

variable {n : Number}

/-- The text of the number is read as a number. -/
def IsReadable (n : Number) : Prop := (read? n.chars).isSome = true

/-- What the text of the number is read as. -/
def reread (n : Number) : Number := (read? n.chars).getD n

theorem IsReadable.read? (h : n.IsReadable) : read? n.chars = some n.reread := by
  obtain ⟨m, hm⟩ := Option.isSome_iff_exists.1 h
  rw [reread, hm]
  rfl

theorem isReadable_of_read? {m : Number} (h : read? n.chars = some m) :
    n.IsReadable ∧ n.reread = m := by
  refine ⟨?_, ?_⟩
  · rw [IsReadable, h]
    rfl
  · rw [reread, h]
    rfl

/-- The number at the front of a text is read without regard to what stands after it. -/
theorem IsReadable.split? (h : n.IsReadable) :
    ∃ p, split? n.chars = some (p, []) ∧ p.value? = some n.reread := by
  have hread := h.read?
  unfold Number.read? at hread
  split at hread
  · rename_i p hp
    exact ⟨p, hp, hread⟩
  · cases hread

theorem IsStable.isReadable (h : n.IsStable) : n.IsReadable := (isReadable_of_read? h).1

theorem IsStable.reread_eq (h : n.IsStable) : n.reread = n := (isReadable_of_read? h).2

/-! ## Looks at numbers -/

/-- A look at numbers that does not tell a fair number from what its text is read as. -/
structure View where
  see : Number → Number
  Fair : Number → Prop
  fair_see : ∀ n, Fair (see n) ↔ Fair n
  readable : ∀ n, Fair n → n.IsReadable
  see_reread : ∀ n, Fair n → see n.reread = see n

/-- Every number is told from every other one; those that are read as they were written are fair. -/
def View.exact : View where
  see n := n
  Fair := IsStable
  fair_see _ := Iff.rfl
  readable _ h := h.isReadable
  see_reread _ h := h.reread_eq

/-- A number in floating point without its magnitude. -/
def blurred : Number → Number
  | .int i => .int i
  | .float x => if x.magnitude.Bounded then .float ⟨x.negative, .zero⟩ else .float x

theorem bounded_blurred (n : Number) : n.blurred.Bounded ↔ n.Bounded := by
  cases n with
  | int i => exact Iff.rfl
  | float x =>
      by_cases hx : x.magnitude.Bounded
      · rw [blurred, if_pos hx]
        exact ⟨fun _ => hx, fun _ => Magnitude.bounded_zero⟩
      · rw [blurred, if_neg hx]

theorem Bounded.reread (h : n.Bounded) : n.IsReadable ∧ n.reread.blurred = n.blurred := by
  cases n with
  | int i =>
      have hstable := isStable_int h.1 h.2
      rw [hstable.reread_eq]
      exact ⟨hstable.isReadable, rfl⟩
  | float x =>
      obtain ⟨p, m, hp, hm, hfloats⟩ := split?_text h
      have hread : read? (Number.float x).chars = some m := by
        rw [Number.read?, chars, hp]
        exact hm
      obtain ⟨hreadable, hreread⟩ := isReadable_of_read? hread
      refine ⟨hreadable, ?_⟩
      rw [hreread]
      cases hfloats with
      | float hy =>
          have hx : x.magnitude.Bounded := h
          simp only [blurred, if_pos hx, if_pos hy]

/-- Numbers in floating point are told by their signs only; all that are within their width or the
format are fair. -/
def View.blurred : View where
  see := Number.blurred
  Fair := Bounded
  fair_see := bounded_blurred
  readable _ h := h.reread.1
  see_reread _ h := h.reread.2

end Number

/-! ## Changes of numbers -/

mutual

/-- Every number in the value satisfies `P`. -/
def All (P : Number → Prop) : Json → Prop
  | .number n => P n
  | .array items => ItemsAll P items
  | .object members => MembersAll P members
  | _ => True

def ItemsAll (P : Number → Prop) : List Json → Prop
  | [] => True
  | j :: rest => j.All P ∧ ItemsAll P rest

def MembersAll (P : Number → Prop) : List (String × Json) → Prop
  | [] => True
  | (_, j) :: rest => j.All P ∧ MembersAll P rest

end

mutual

/-- The value with every number changed. -/
def mapNumbers (f : Number → Number) : Json → Json
  | .number n => .number (f n)
  | .array items => .array (mapItems f items)
  | .object members => .object (mapMembers f members)
  | .null => .null
  | .bool b => .bool b
  | .string s => .string s

def mapItems (f : Number → Number) : List Json → List Json
  | [] => []
  | j :: rest => j.mapNumbers f :: mapItems f rest

def mapMembers (f : Number → Number) : List (String × Json) → List (String × Json)
  | [] => []
  | (key, j) :: rest => (key, j.mapNumbers f) :: mapMembers f rest

end

variable {P Q : Number → Prop} {f g : Number → Number}

mutual

theorem depth_mapNumbers (f : Number → Number) : (j : Json) → (j.mapNumbers f).depth = j.depth
  | .null | .bool _ | .number _ | .string _ => rfl
  | .array items => congrArg (· + 1) (depthItems_mapItems f items)
  | .object members => congrArg (· + 1) (depthMembers_mapMembers f members)

theorem depthItems_mapItems (f : Number → Number) :
    (l : List Json) → depthItems (mapItems f l) = depthItems l
  | [] => rfl
  | j :: l => by simp only [mapItems, depthItems, depth_mapNumbers f j, depthItems_mapItems f l]

theorem depthMembers_mapMembers (f : Number → Number) :
    (l : List (String × Json)) → depthMembers (mapMembers f l) = depthMembers l
  | [] => rfl
  | (_, j) :: l => by
    simp only [mapMembers, depthMembers, depth_mapNumbers f j, depthMembers_mapMembers f l]

end

mutual

theorem all_mapNumbers : (j : Json) → ((j.mapNumbers f).All P ↔ j.All fun n => P (f n))
  | .null | .bool _ | .number _ | .string _ => Iff.rfl
  | .array items => itemsAll_mapItems items
  | .object members => membersAll_mapMembers members

theorem itemsAll_mapItems : (l : List Json) → (ItemsAll P (mapItems f l) ↔ ItemsAll (fun n => P (f n)) l)
  | [] => Iff.rfl
  | j :: l => and_congr (all_mapNumbers j) (itemsAll_mapItems l)

theorem membersAll_mapMembers :
    (l : List (String × Json)) → (MembersAll P (mapMembers f l) ↔ MembersAll (fun n => P (f n)) l)
  | [] => Iff.rfl
  | (_, j) :: l => and_congr (all_mapNumbers j) (membersAll_mapMembers l)

end

mutual

theorem All.imp (h : ∀ n, P n → Q n) : (j : Json) → j.All P → j.All Q
  | .null, _ | .bool _, _ | .string _, _ => trivial
  | .number n, hn => h n hn
  | .array items, hj => ItemsAll.imp h items hj
  | .object members, hj => MembersAll.imp h members hj

theorem ItemsAll.imp (h : ∀ n, P n → Q n) : (l : List Json) → ItemsAll P l → ItemsAll Q l
  | [], _ => trivial
  | j :: l, hl => ⟨All.imp h j hl.1, ItemsAll.imp h l hl.2⟩

theorem MembersAll.imp (h : ∀ n, P n → Q n) :
    (l : List (String × Json)) → MembersAll P l → MembersAll Q l
  | [], _ => trivial
  | (_, j) :: l, hl => ⟨All.imp h j hl.1, MembersAll.imp h l hl.2⟩

end

mutual

/-- Two changes that look the same make values that look the same. -/
theorem mapNumbers_mapNumbers (h : ∀ n, P n → f (g n) = f n) :
    (j : Json) → j.All P → (j.mapNumbers g).mapNumbers f = j.mapNumbers f
  | .null, _ | .bool _, _ | .string _, _ => rfl
  | .number n, hn => congrArg Json.number (h n hn)
  | .array items, hj => congrArg Json.array (mapItems_mapItems h items hj)
  | .object members, hj => congrArg Json.object (mapMembers_mapMembers h members hj)

theorem mapItems_mapItems (h : ∀ n, P n → f (g n) = f n) :
    (l : List Json) → ItemsAll P l → mapItems f (mapItems g l) = mapItems f l
  | [], _ => rfl
  | j :: l, hl => by
    simp only [mapItems, mapNumbers_mapNumbers h j hl.1, mapItems_mapItems h l hl.2]

theorem mapMembers_mapMembers (h : ∀ n, P n → f (g n) = f n) :
    (l : List (String × Json)) → MembersAll P l → mapMembers f (mapMembers g l) = mapMembers f l
  | [], _ => rfl
  | (_, j) :: l, hl => by
    simp only [mapMembers, mapNumbers_mapNumbers h j hl.1, mapMembers_mapMembers h l hl.2]

end

mutual

theorem mapNumbers_self : (j : Json) → j.mapNumbers (fun n => n) = j
  | .null | .bool _ | .number _ | .string _ => rfl
  | .array items => congrArg Json.array (mapItems_self items)
  | .object members => congrArg Json.object (mapMembers_self members)

theorem mapItems_self : (l : List Json) → mapItems (fun n => n) l = l
  | [] => rfl
  | j :: l => by simp only [mapItems, mapNumbers_self j, mapItems_self l]

theorem mapMembers_self : (l : List (String × Json)) → mapMembers (fun n => n) l = l
  | [] => rfl
  | (_, j) :: l => by simp only [mapMembers, mapNumbers_self j, mapMembers_self l]

end

theorem mapMembers_eq_map (f : Number → Number) (l : List (String × Json)) :
    mapMembers f l = l.map fun e => (e.1, e.2.mapNumbers f) := by
  induction l with
  | nil => rfl
  | cons e l ih => simp only [mapMembers, ih, List.map_cons]

theorem mapMembers_append (f : Number → Number) (l m : List (String × Json)) :
    mapMembers f (l ++ m) = mapMembers f l ++ mapMembers f m := by
  simp only [mapMembers_eq_map, List.map_append]

theorem membersAll_iff {l : List (String × Json)} : MembersAll P l ↔ ∀ e ∈ l, e.2.All P := by
  induction l with
  | nil => simp [MembersAll]
  | cons e l ih => simp [MembersAll, ih]

theorem membersAll_append {l m : List (String × Json)} :
    MembersAll P (l ++ m) ↔ MembersAll P l ∧ MembersAll P m := by
  induction l with
  | nil => simp [MembersAll]
  | cons e l ih => simp [MembersAll, ih, and_assoc]

/-- The value that the text of the value is read as. -/
abbrev reread (j : Json) : Json := j.mapNumbers Number.reread

end Fleet.Json
