import Fleet.Proofs.Json.Any

/-!
# What decoders give

Whatever text a value was decoded from, it satisfies what its decoder asks for: numbers are within
their bounds, and the parts of composite values satisfy what their own decoders ask for. A number of
any value is within its width or the format, as no other is ever read.
-/

namespace Fleet.Json

variable {α β : Type}

/-! ## Numbers of readings -/

mutual

/-- Every number in the reading satisfies `P`. -/
def Reading.All (P : Number → Prop) : Reading → Prop
  | .number (some n) => P n
  | .array items => items.All P
  | .object members => members.All P
  | _ => True

def Items.All (P : Number → Prop) : Items → Prop
  | .item value rest => value.All P ∧ rest.All P
  | _ => True

def Members.All (P : Number → Prop) : Members → Prop
  | .member _ value rest => value.All P ∧ rest.All P
  | _ => True

end

theorem all_word {P : Number → Prop} {r : Reading} (h : r.All P) (w cs : List Char) :
    (word w r cs).1.All P := by
  unfold word
  split
  · exact h
  · trivial

mutual

theorem bounded_readValue :
    (fuel : Nat) → (cs : List Char) → (readValue fuel cs).1.All Number.Bounded
  | 0, _ => trivial
  | fuel + 1, cs => by
    rw [readValue]
    split
    · trivial
    · exact all_word (r := .null) trivial _ _
    · exact all_word (r := .bool true) trivial _ _
    · exact all_word (r := .bool false) trivial _ _
    · split <;> trivial
    · split
      · trivial
      · exact bounded_readItems fuel _
    · split
      · trivial
      · exact bounded_readMembers fuel _
    · split
      · rename_i parts _ _
        cases h : parts.value? with
        | none => trivial
        | some n => exact Number.bounded_of_value? h
      · trivial

theorem bounded_readItems :
    (fuel : Nat) → (cs : List Char) → (readItems fuel cs).1.All Number.Bounded
  | 0, _ => trivial
  | fuel + 1, cs => by
    rw [readItems]
    dsimp only
    split
    · exact ⟨bounded_readValue fuel _, trivial⟩
    · exact ⟨bounded_readValue fuel _, bounded_readItems fuel _⟩
    · exact ⟨bounded_readValue fuel _, trivial⟩

theorem bounded_readMembers :
    (fuel : Nat) → (cs : List Char) → (readMembers fuel cs).1.All Number.Bounded
  | 0, _ => trivial
  | fuel + 1, cs => by
    rw [readMembers]
    split
    · split
      · trivial
      · split
        · dsimp only
          split
          · exact ⟨bounded_readValue fuel _, trivial⟩
          · exact ⟨bounded_readValue fuel _, bounded_readMembers fuel _⟩
          · exact ⟨bounded_readValue fuel _, trivial⟩
        · exact ⟨trivial, trivial⟩
    · trivial

end

namespace Decoder

mutual

theorem all_of_any {P : Number → Prop} {c : Context} {j : Json} :
    (r : Reading) → r.All P → any c r = .ok j → j.All P
  | .fault, _, h | .number none, _, h | .string none, _, h => nomatch h
  | .null, _, h | .bool _, _, h | .string (some _), _, h => by
    cases h
    trivial
  | .number (some n), hr, h => by
    cases h
    exact hr
  | .array items, hr, h => by
    obtain ⟨d, _, h⟩ := of_bind_eq_ok h
    obtain ⟨l, hl, h⟩ := of_bind_eq_ok h
    cases h
    exact itemsAll_of_anyItems items hr hl
  | .object members, hr, h => by
    obtain ⟨d, _, h⟩ := of_bind_eq_ok h
    obtain ⟨l, hl, h⟩ := of_bind_eq_ok h
    cases h
    exact membersAll_of_anyMembers members hr hl trivial

theorem itemsAll_of_anyItems {P : Number → Prop} {c : Context} {l : List Json} :
    (items : Items) → items.All P → anyItems c items = .ok l → ItemsAll P l
  | .fault, _, h => nomatch h
  | .done, _, h => by
    cases h
    trivial
  | .item value rest, hr, h => by
    obtain ⟨j, hj, h⟩ := of_bind_eq_ok h
    obtain ⟨l, hl, h⟩ := of_bind_eq_ok h
    cases h
    exact ⟨all_of_any value hr.1 hj, itemsAll_of_anyItems rest hr.2 hl⟩

theorem membersAll_of_anyMembers {P : Number → Prop} {c : Context} {l met : List (String × Json)} :
    (members : Members) → members.All P → anyMembers c members met = .ok l → MembersAll P met →
      MembersAll P l
  | .fault, _, h, _ => nomatch h
  | .member none _ _, _, h, _ => nomatch h
  | .done, _, h, hmet => by
    cases h
    exact hmet
  | .member (some key) value rest, hr, h, hmet => by
    obtain ⟨j, hj, h⟩ := of_bind_eq_ok h
    refine membersAll_of_anyMembers rest hr.2 h ?_
    rw [membersAll_iff] at hmet ⊢
    intro e he
    rcases OrdMap.mem_place he with rfl | he
    · exact all_of_any value hr.1 hj
    · exact hmet e he

end

/-- All that the decoder gives satisfies `P`, if no number is outside its width or the format. -/
def Gives (d : Decoder α) (P : α → Prop) : Prop :=
  ∀ c r a, r.All Number.Bounded → d c r = .ok a → P a

variable {d : Decoder α} {P : α → Prop}

theorem Gives.imp {Q : α → Prop} (h : d.Gives P) (hpq : ∀ a, P a → Q a) : d.Gives Q :=
  fun c r a hr ha => hpq a (h c r a hr ha)

theorem gives_trivial : d.Gives fun _ => True := fun _ _ _ _ _ => trivial

theorem gives_intIn (low high : Int) : (intIn low high).Gives fun i => low ≤ i ∧ i ≤ high := by
  intro c r i _ h
  unfold intIn at h
  split at h
  · split at h
    · rename_i hle
      cases h
      simpa using hle
    · cases h
  · cases h

theorem gives_natTo (high : Nat) : (natTo high).Gives (· ≤ high) := by
  intro c r k hr h
  obtain ⟨i, hi, rfl⟩ := of_map_eq_ok h
  have := gives_intIn 0 high c r i hr hi
  omega

theorem Gives.option (h : d.Gives P) : (option d).Gives fun o => ∀ a ∈ o, P a := by
  intro c r o hr ho
  unfold Decoder.option at ho
  split at ho
  · cases ho
    exact fun _ ha => nomatch ha
  · obtain ⟨a, ha, rfl⟩ := of_map_eq_ok ho
    rintro b ⟨⟩
    exact h c _ a hr ha

theorem Gives.items (h : d.Gives P) {c : Context} :
    (is : Items) → {l : List α} → is.All Number.Bounded → items d c is = .ok l → ∀ a ∈ l, P a
  | .fault, _, _, hl => nomatch hl
  | .done, _, _, hl => by
    cases hl
    exact fun _ ha => nomatch ha
  | .item value rest, _, hr, hl => by
    obtain ⟨a, ha, hl⟩ := of_bind_eq_ok hl
    obtain ⟨l, hrest, hl⟩ := of_bind_eq_ok hl
    cases hl
    rintro b (_ | ⟨_, hb⟩)
    · exact h c value a hr.1 ha
    · exact h.items rest hr.2 hrest b hb

theorem Gives.list (h : d.Gives P) : (list d).Gives fun l => ∀ a ∈ l, P a := by
  intro c r l hr hl
  cases r with
  | array is =>
      obtain ⟨c', _, hl⟩ := of_bind_eq_ok hl
      exact h.items is hr hl
  | _ => cases hl

theorem Gives.decode (h : d.Gives P) {text : String} {a : α} (ha : Json.decode d text = .ok a) :
    P a := by
  unfold Json.decode at ha
  have hr : (Reading.ofText text.toList).1.All Number.Bounded := bounded_readValue _ _
  generalize Reading.ofText text.toList = read at ha hr
  obtain ⟨b, hb, ha⟩ := of_bind_eq_ok ha
  split at ha
  · cases ha
    exact h .start read.1 a hr hb
  · cases ha

theorem gives_anyObject : anyObject.Gives fun ms =>
    (Ascending ms ∧ MembersSorted ms) ∧ MembersAll Number.Bounded ms := by
  intro c r ms hr h
  refine ⟨sorted_of_anyObject h, ?_⟩
  cases r with
  | object members =>
      obtain ⟨d, _, h⟩ := of_bind_eq_ok h
      exact membersAll_of_anyMembers members hr h trivial
  | _ => cases h

end Decoder

namespace Fields

variable {f : Fields (α → β)} {x : Fields α} {P : α → Prop} {Q : β → Prop}

/-- A draft that satisfies `I` keeps to it, whichever field it takes, and then gives what satisfies
`P`. -/
structure Keeps (x : Fields α) (I : x.Draft → Prop) (P : α → Prop) : Prop where
  blank : I x.blank
  named : ∀ key take, x.named key = some take →
    ∀ c r d e, r.All Number.Bounded → take c r d = .ok e → I d → I e
  placed : ∀ i take, x.placed i = some take →
    ∀ c r d e, r.All Number.Bounded → take c r d = .ok e → I d → I e
  finish : ∀ fromArray d a, x.finish fromArray d = .ok a → I d → P a

/-- All that the fields give satisfies `P`. -/
def Gives (x : Fields α) (P : α → Prop) : Prop := ∃ I, x.Keeps I P

theorem gives_field {name : String} {d : Decoder α} {missing : Bool → Except Refusal α}
    (h : d.Gives P) (hmissing : ∀ b a, missing b = .ok a → P a) : (field name d missing).Gives P := by
  have hintake : ∀ (c : Context) (r : Reading) (o e : Option α), r.All Number.Bounded →
      intake d c r o = .ok e → (∀ a ∈ o, P a) → ∀ a ∈ e, P a := by
    intro c r o e hr he _
    cases o with
    | some a => cases he
    | none =>
        obtain ⟨a, ha, rfl⟩ := of_map_eq_ok he
        rintro b ⟨⟩
        exact h c r a hr ha
  refine ⟨fun o : Option α => ∀ a ∈ o, P a, ⟨fun _ ha => (Option.not_mem_none _ ha).elim, ?_, ?_, ?_⟩⟩
  · intro key take htake
    change (if key = name then some (intake d) else none) = some take at htake
    split at htake
    · cases htake
      exact hintake
    · cases htake
  · intro i take htake
    change (if i = 0 then some (intake d) else none) = some take at htake
    split at htake
    · cases htake
      exact hintake
    · cases htake
  · rintro fromArray (_ | b) a ha ho
    · exact hmissing fromArray a ha
    · cases ha
      exact ho b rfl

theorem gives_required {name : String} {d : Decoder α} (h : d.Gives P) :
    (required name d).Gives P := gives_field h fun _ _ hm => nomatch hm

theorem gives_defaulted {name : String} {d : Decoder α} {b : α} (h : d.Gives P) (hb : P b) :
    (defaulted name d b).Gives P := by
  refine gives_field h fun _ a ha => ?_
  cases ha
  exact hb

theorem Gives.map {g : α → β} (h : x.Gives fun a => Q (g a)) : (g <$> x).Gives Q := by
  obtain ⟨I, hI⟩ := h
  refine ⟨I, hI.blank, hI.named, hI.placed, fun fromArray d b hb hd => ?_⟩
  obtain ⟨a, ha, rfl⟩ := of_map_eq_ok hb
  exact hI.finish fromArray d a ha hd

theorem keeps_left {I : f.Draft → Prop} {J : x.Draft → Prop} {take : Intake f.Draft}
    (h : ∀ c r d e, r.All Number.Bounded → take c r d = .ok e → I d → I e) (c : Context) (r : Reading)
    (d e : f.Draft × x.Draft) (hr : r.All Number.Bounded)
    (he : (·, d.2) <$> take c r d.1 = .ok e) (hd : I d.1 ∧ J d.2) :
    I e.1 ∧ J e.2 := by
  obtain ⟨d', hd', rfl⟩ := of_map_eq_ok he
  exact ⟨h c r d.1 d' hr hd' hd.1, hd.2⟩

theorem keeps_right {I : f.Draft → Prop} {J : x.Draft → Prop} {take : Intake x.Draft}
    (h : ∀ c r d e, r.All Number.Bounded → take c r d = .ok e → J d → J e) (c : Context) (r : Reading)
    (d e : f.Draft × x.Draft) (hr : r.All Number.Bounded)
    (he : (d.1, ·) <$> take c r d.2 = .ok e) (hd : I d.1 ∧ J d.2) :
    I e.1 ∧ J e.2 := by
  obtain ⟨d', hd', rfl⟩ := of_map_eq_ok he
  exact ⟨hd.1, h c r d.2 d' hr hd' hd.2⟩

/-- What the function gives is asked for of every value that its argument may have. -/
theorem Gives.seq (hf : f.Gives fun g => ∀ a, P a → Q (g a)) (hx : x.Gives P) :
    (f <*> x).Gives Q := by
  obtain ⟨I, hI⟩ := hf
  obtain ⟨J, hJ⟩ := hx
  refine ⟨fun d : f.Draft × x.Draft => I d.1 ∧ J d.2, ⟨⟨hI.blank, hJ.blank⟩, ?_, ?_, ?_⟩⟩
  · intro key take htake
    have htake : (f.seq x).named key = some take := htake
    cases hf : f.named key with
    | some take' =>
        simp only [Fields.seq, hf] at htake
        cases htake
        exact keeps_left (hI.named key take' hf)
    | none =>
        simp only [Fields.seq, hf] at htake
        obtain ⟨take', hx, rfl⟩ := Option.map_eq_some_iff.1 htake
        exact keeps_right (hJ.named key take' hx)
  · intro i take htake
    have htake : (f.seq x).placed i = some take := htake
    simp only [Fields.seq] at htake
    split at htake
    · obtain ⟨take', hf, rfl⟩ := Option.map_eq_some_iff.1 htake
      exact keeps_left (hI.placed i take' hf)
    · obtain ⟨take', hx, rfl⟩ := Option.map_eq_some_iff.1 htake
      exact keeps_right (hJ.placed _ take' hx)
  · intro fromArray d b hb hd
    obtain ⟨g, hg, hb⟩ := of_bind_eq_ok hb
    obtain ⟨a, ha, hb⟩ := of_bind_eq_ok hb
    cases hb
    exact hI.finish fromArray d.1 g hg hd.1 a (hJ.finish fromArray d.2 a ha hd.2)

section

variable {I : x.Draft → Prop} {a : α} {other : Decoder Unit} {c : Context}

theorem Keeps.object (h : x.Keeps I P) :
    (ms : Members) → {d : x.Draft} → ms.All Number.Bounded → x.object other c ms d = .ok a → I d → P a
  | .fault, _, _, ha, _ => nomatch ha
  | .member none _ _, _, _, ha, _ => nomatch ha
  | .done, d, _, ha, hd => h.finish false d a ha hd
  | .member (some key) value rest, d, hr, ha, hd => by
    rw [Fields.object] at ha
    cases hn : x.named key with
    | none =>
        rw [hn] at ha
        obtain ⟨_, _, ha⟩ := of_bind_eq_ok ha
        exact h.object rest hr.2 ha hd
    | some take =>
        rw [hn] at ha
        obtain ⟨e, he, ha⟩ := of_bind_eq_ok ha
        exact h.object rest hr.2 ha (h.named key take hn c value d e hr.1 he hd)

theorem Keeps.array (h : x.Keeps I P) :
    (is : Items) → {i : Nat} → {d : x.Draft} → is.All Number.Bounded → x.array c i is d = .ok a →
      I d → P a
  | .fault, _, _, _, ha, _ => nomatch ha
  | .done, _, d, _, ha, hd => h.finish true d a ha hd
  | .item value rest, i, d, hr, ha, hd => by
    rw [Fields.array] at ha
    cases hp : x.placed i with
    | none =>
        rw [hp] at ha
        obtain ⟨_, _, ha⟩ := of_bind_eq_ok ha
        exact h.finish true d a ha hd
    | some take =>
        rw [hp] at ha
        obtain ⟨e, he, ha⟩ := of_bind_eq_ok ha
        exact h.array rest hr.2 ha (h.placed i take hp c value d e hr.1 he hd)

end

theorem Gives.decoder (h : x.Gives P) : x.decoder.Gives P := by
  obtain ⟨I, hI⟩ := h
  intro c r a hr ha
  cases r with
  | object ms =>
      obtain ⟨c', _, ha⟩ := of_bind_eq_ok ha
      exact hI.object ms hr ha hI.blank
  | array is =>
      obtain ⟨c', _, ha⟩ := of_bind_eq_ok ha
      exact hI.array is hr ha hI.blank
  | _ => cases ha

end Fields

end Fleet.Json
