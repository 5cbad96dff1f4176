import Fleet.Json.Fields
import Fleet.Proofs.Json.Text
import Fleet.Proofs.Ordered

/-!
# Values that a decoder takes back

A decoder takes a value back if its JSON form can be read from its text and is decoded to the value
wherever it stands, if it does not nest too deep for the place, and is refused there if it does.
Decoders of composite values take back what is made of values that their parts take back. Numbers are
those that the text is read as, so what is taken back may differ from what was written.
-/

namespace Fleet.Json

variable {α β γ : Type} {c : Context} {n : Nat}

theorem of_bind_eq_ok {ε : Type} {x : Except ε α} {f : α → Except ε β} {b : β}
    (h : x >>= f = .ok b) : ∃ a, x = .ok a ∧ f a = .ok b := by
  cases x with
  | error e => cases h
  | ok a => exact ⟨a, rfl, h⟩

theorem of_map_eq_ok {ε : Type} {x : Except ε α} {f : α → β} {b : β} (h : f <$> x = .ok b) :
    ∃ a, x = .ok a ∧ f a = b := by
  cases x with
  | error e => cases h
  | ok a =>
      cases h
      exact ⟨a, rfl, rfl⟩

/-! ## Computations that may fail -/

/-- The computation gives `a` if `p` holds, and fails if not. -/
inductive Yields {ε : Type} (p : Prop) : Except ε α → α → Prop
  | ok (h : p) (a : α) : Yields p (.ok a) a
  | error (h : ¬p) (e : ε) (a : α) : Yields p (.error e) a

namespace Yields

variable {ε : Type} {p q : Prop} {x : Except ε α} {a : α} {b : β}

theorem of_eq (hp : p) (h : x = .ok a) : Yields p x a := by
  rw [h]
  exact .ok hp a

theorem cases_eq (h : Yields p x a) : p ∧ x = .ok a ∨ ¬p ∧ ∃ e, x = .error e := by
  cases h with
  | ok hp => exact .inl ⟨hp, rfl⟩
  | error hn e => exact .inr ⟨hn, e, rfl⟩

theorem congr (h : Yields p x a) (hq : q ↔ p) : Yields q x a := by
  cases h with
  | ok hp => exact .ok (hq.2 hp) a
  | error hn e => exact .error (fun hp => hn (hq.1 hp)) e a

theorem bind {f : α → Except ε β} (h : Yields p x a) (hf : Yields q (f a) b) :
    Yields (p ∧ q) (x >>= f) b := by
  cases h with
  | ok hp => exact hf.congr (and_iff_right hp)
  | error hn e => exact .error (fun h => hn h.1) e b

/-- What follows does not fail. -/
theorem bind_ok {f : α → Except ε β} (h : Yields p x a) (hf : f a = .ok b) :
    Yields p (x >>= f) b :=
  (h.bind (.of_eq trivial hf)).congr (and_iff_left trivial).symm

theorem map (f : α → β) (h : Yields p x a) : Yields p (f <$> x) (f a) := by
  cases h with
  | ok hp => exact .ok hp (f a)
  | error hn e => exact .error hn e (f a)

end Yields

/-! ## Levels -/

/-- So many arrays and objects may still open. -/
def Context.Allows : Context → Nat → Prop
  | .live levels, n => n ≤ levels
  | _, _ => True

theorem Context.allows_zero : c.Allows 0 := by
  cases c with
  | live levels => exact Nat.zero_le levels
  | held => trivial
  | loose => trivial

theorem Context.allows_max {m : Nat} : c.Allows (max m n) ↔ c.Allows m ∧ c.Allows n := by
  cases c with
  | live levels => exact Nat.max_le
  | held => exact (and_self_iff).symm
  | loose => exact (and_self_iff).symm

/-- What is decoded inside an array or object takes one level less. -/
theorem yields_enter {f : Context → Except Refusal α} {a : α}
    (h : ∀ d : Context, Yields (d.Allows n) (f d) a) :
    Yields (c.Allows (n + 1)) (c.enter >>= f) a := by
  cases c with
  | live levels =>
      cases levels with
      | zero => exact .error (Nat.not_succ_le_zero n) _ _
      | succ levels => exact (h (.live levels)).congr Nat.succ_le_succ_iff
  | held => exact h .held
  | loose => exact h .loose

theorem depthMembers_append (l m : List (String × Json)) :
    depthMembers (l ++ m) = max (depthMembers l) (depthMembers m) := by
  induction l with
  | nil => simp [depthMembers]
  | cons e l ih => simp [depthMembers, ih, Nat.max_assoc]

theorem allows_depthMembers {l : List (String × Json)} :
    c.Allows (depthMembers l) ↔ ∀ e ∈ l, c.Allows e.2.depth := by
  induction l with
  | nil => simp [depthMembers, Context.allows_zero]
  | cons e l ih => simp [depthMembers, Context.allows_max, ih]

theorem forall_mapMembers {P : String → Prop} {f : Number → Number} {ms : List (String × Json)} :
    (∀ m ∈ mapMembers f ms, P m.1) ↔ ∀ m ∈ ms, P m.1 := by
  rw [mapMembers_eq_map, List.forall_mem_map]

/-! ## Values that are passed over -/

mutual

theorem isWhole_toReading : (j : Json) → j.toReading.isWhole = true
  | .null | .bool _ | .number _ | .string _ => rfl
  | .array items => isWhole_toItems items
  | .object members => isWhole_toMembers members

theorem isWhole_toItems : (l : List Json) → (toItems l).isWhole = true
  | [] => rfl
  | j :: l => by simp [toItems, Items.isWhole, isWhole_toReading j, isWhole_toItems l]

theorem isWhole_toMembers : (l : List (String × Json)) → (toMembers l).isWhole = true
  | [] => rfl
  | (_, j) :: l => by simp [toMembers, Members.isWhole, isWhole_toReading j, isWhole_toMembers l]

end

namespace Decoder

theorem skip_toReading (j : Json) : skip c j.toReading = .ok () := by
  cases c with
  | live levels => simp [skip, isWhole_toReading]
  | held => rfl
  | loose => rfl

mutual

theorem yields_hold {c : Context} :
    (j : Json) → Yields (c.Allows j.depth) (hold c j.toReading) ()
  | .null | .bool _ | .number _ | .string _ => .ok Context.allows_zero ()
  | .array items => yields_enter fun _ => yields_holdItems items
  | .object members => yields_enter fun _ => yields_holdMembers members

theorem yields_holdItems {c : Context} :
    (l : List Json) → Yields (c.Allows (depthItems l)) (holdItems c (toItems l)) ()
  | [] => .ok Context.allows_zero ()
  | j :: l => ((yields_hold j).bind (yields_holdItems l)).congr Context.allows_max

theorem yields_holdMembers {c : Context} :
    (l : List (String × Json)) → Yields (c.Allows (depthMembers l)) (holdMembers c (toMembers l)) ()
  | [] => .ok Context.allows_zero ()
  | (_, j) :: l => ((yields_hold j).bind (yields_holdMembers l)).congr Context.allows_max

end

/-! ## Values that are taken back -/

/-- The decoder takes a value back from a JSON form of at most `n` levels, exactly where all levels of
it may open. -/
structure Takes (d : Decoder α) (n : Nat) (j : Json) (a : α) : Prop where
  readable : j.All Number.IsReadable
  depth : j.depth ≤ n
  decodes : ∀ c : Context, Yields (c.Allows j.depth) (d c j.reread.toReading) a

variable {d : Decoder α}

theorem Takes.mono {m : Nat} {j : Json} {a : α} (h : d.Takes n j a) (hm : n ≤ m) : d.Takes m j a where
  readable := h.readable
  depth := Nat.le_trans h.depth hm
  decodes := h.decodes

theorem Takes.map {j : Json} {a : α} (f : α → β) (h : d.Takes n j a) :
    Decoder.Takes (fun c r => f <$> d c r) n j (f a) :=
  ⟨h.readable, h.depth, fun c => (h.decodes c).map f⟩

theorem takes_bool (b : Bool) : bool.Takes n (.bool b) b :=
  ⟨trivial, Nat.zero_le n, fun _ => .ok Context.allows_zero b⟩

theorem takes_string (s : String) : string.Takes n (.string s) s :=
  ⟨trivial, Nat.zero_le n, fun _ => .ok Context.allows_zero s⟩

theorem takes_intIn {low high i : Int} (hs : (Number.int i).IsStable) (hl : low ≤ i) (hh : i ≤ high) :
    (intIn low high).Takes n (.int i) i := by
  refine ⟨hs.isReadable, Nat.zero_le n, fun _ => .of_eq Context.allows_zero ?_⟩
  have hreread : (Json.int i).reread = .int i := congrArg Json.number hs.reread_eq
  rw [hreread]
  simp [Json.int, toReading, intIn, hl, hh]

theorem takes_int64 {i : Int} (hl : Text.minInt64 ≤ i) (hh : i ≤ Text.maxInt64) :
    int64.Takes n (.int i) i := by
  have hmax : Text.maxInt64 ≤ (Text.maxNat64 : Int) := by decide
  exact takes_intIn (Number.isStable_int hl (by omega)) hl hh

theorem takes_int32 {i : Int} (hl : -2147483648 ≤ i) (hh : i ≤ 2147483647) :
    int32.Takes n (.int i) i := by
  have hs : (Number.int i).IsStable :=
    Number.isStable_int (by unfold Text.minInt64; omega) (by unfold Text.maxNat64; omega)
  exact takes_intIn hs hl hh

theorem takes_natTo {high k : Nat} (hhigh : high ≤ Text.maxNat64) (h : k ≤ high) :
    (natTo high).Takes n (.nat k) k := by
  have hs : (Number.int k).IsStable :=
    Number.isStable_int (by unfold Text.minInt64; omega) (by omega)
  have hk : (intIn 0 high).Takes n (.int k) k := takes_intIn hs (by omega) (by omega)
  exact hk.map Int.toNat

theorem takes_oneOf {table : List (String × α)} {s : String} {a : α} (h : table.lookup s = some a) :
    (oneOf table).Takes n (.string s) a := by
  refine ⟨trivial, Nat.zero_le n, fun _ => .of_eq Context.allows_zero ?_⟩
  simp [mapNumbers, toReading, oneOf, h]

theorem takes_option {f : α → Json} {g : α → α} {o : Option α} (hnull : ∀ a, f a ≠ .null)
    (h : ∀ a ∈ o, d.Takes n (f a) (g a)) : (option d).Takes n (.ofOption f o) (o.map g) := by
  cases o with
  | none => exact ⟨trivial, Nat.zero_le n, fun _ => .ok Context.allows_zero none⟩
  | some a =>
      have ha := h a rfl
      refine ⟨ha.readable, ha.depth, fun c => ?_⟩
      have hne : (f a).reread.toReading ≠ .null := by
        intro he
        cases hfa : f a <;> rw [hfa] at he <;> simp [mapNumbers, toReading] at he
        exact hnull a hfa
      rw [option]
      · exact (ha.decodes c).map some
      · exact hne

/-- A value that may be missing, taken back as it is. -/
theorem takes_option_self {f : α → Json} {o : Option α} (hnull : ∀ a, f a ≠ .null)
    (h : ∀ a ∈ o, d.Takes n (f a) a) : (option d).Takes n (.ofOption f o) o := by
  have hoption := takes_option (g := id) hnull h
  rwa [Option.map_id, id] at hoption

theorem takes_list {f : α → Json} {g : α → α} {l : List α} (h : ∀ a ∈ l, d.Takes n (f a) (g a)) :
    (list d).Takes (n + 1) (.ofList f l) (l.map g) := by
  have hitems : ItemsAll Number.IsReadable (l.map f) ∧ depthItems (l.map f) ≤ n ∧
      ∀ c : Context, Yields (c.Allows (depthItems (l.map f)))
        (items d c (toItems (mapItems Number.reread (l.map f)))) (l.map g) := by
    induction l with
    | nil => exact ⟨trivial, Nat.zero_le n, fun _ => .ok Context.allows_zero []⟩
    | cons a l ih =>
        have ha := h a List.mem_cons_self
        obtain ⟨hs, hd, hdec⟩ := ih fun b hb => h b (List.mem_cons_of_mem a hb)
        refine ⟨⟨ha.readable, hs⟩, Nat.max_le.2 ⟨ha.depth, hd⟩, fun c => ?_⟩
        refine ((ha.decodes c).bind ?_).congr Context.allows_max
        exact (hdec c).bind_ok rfl
  obtain ⟨hs, hd, hdec⟩ := hitems
  exact ⟨hs, Nat.succ_le_succ hd, fun c => yields_enter hdec⟩

/-- A list of values that are taken back as they are. -/
theorem takes_list_self {f : α → Json} {l : List α} (h : ∀ a ∈ l, d.Takes n (f a) a) :
    (list d).Takes (n + 1) (.ofList f l) l := by
  have hlist := takes_list (g := id) h
  rwa [List.map_id] at hlist

end Decoder

/-! ## Records -/

namespace Fields

variable {f : Fields (α → β)} {x : Fields α} {ms ms' : List (String × Json)}

/-- Takes the members into a draft, without those of other names. -/
def collect (f : Fields α) (c : Context) : List (String × Json) → f.Draft → Except Refusal f.Draft
  | [], d => .ok d
  | (key, j) :: rest, d =>
    match f.named key with
    | some take => take c j.toReading d >>= f.collect c rest
    | none => f.collect c rest d

theorem collect_append (c : Context) (ms ms' : List (String × Json)) (d : x.Draft) :
    x.collect c (ms ++ ms') d = x.collect c ms d >>= x.collect c ms' := by
  induction ms generalizing d with
  | nil => rfl
  | cons m ms ih =>
      simp only [List.cons_append, collect]
      cases x.named m.1 with
      | none => exact ih d
      | some take =>
          dsimp only
          cases take c m.2.toReading d with
          | error e => rfl
          | ok d => exact ih d

theorem collect_of_unnamed (h : ∀ m ∈ ms, x.named m.1 = none) (d : x.Draft) :
    x.collect c ms d = .ok d := by
  induction ms with
  | nil => rfl
  | cons m ms ih =>
      simp only [List.mem_cons, forall_eq_or_imp] at h
      simp only [collect, h.1]
      exact ih h.2

/-- An object whose other members are passed over is its own members, if those can be passed over. -/
theorem yields_object {p : Prop} {q : Json → Prop} {other : Decoder Unit} {a : α} {d e : x.Draft}
    (h : ∀ m ∈ ms, x.named m.1 = none → Yields (q m.2) (other c m.2.toReading) ())
    (hcollect : Yields p (x.collect c ms d) e) (ha : x.finish false e = .ok a) :
    Yields (p ∧ ∀ m ∈ ms, x.named m.1 = none → q m.2) (x.object other c (toMembers ms) d) a := by
  induction ms generalizing d with
  | nil =>
      cases hcollect with
      | ok hp => exact .of_eq ⟨hp, fun _ hm => nomatch hm⟩ ha
  | cons m ms ih =>
      simp only [List.mem_cons, forall_eq_or_imp] at h ⊢
      simp only [toMembers, object]
      rw [collect] at hcollect
      cases hn : x.named m.1 with
      | none =>
          rw [hn] at hcollect
          refine ((h.1 hn).bind (ih h.2 hcollect)).congr ?_
          simp only [true_imp_iff]
          exact and_left_comm
      | some take =>
          rw [hn] at hcollect
          simp only [reduceCtorEq, false_imp_iff, true_and]
          dsimp only at hcollect ⊢
          cases ht : take c m.2.toReading d with
          | error e' =>
              rw [ht] at hcollect
              cases hcollect with
              | error hp => exact .error (fun h => hp h.1) e' a
          | ok d' =>
              rw [ht] at hcollect
              exact ih h.2 hcollect

theorem collect_seq_of_named (h : ∀ m ∈ ms, (f.named m.1).isSome = true) (d : f.Draft)
    (e : x.Draft) : (f.seq x).collect c ms (d, e) = (·, e) <$> f.collect c ms d := by
  induction ms generalizing d with
  | nil => rfl
  | cons m ms ih =>
      simp only [List.mem_cons, forall_eq_or_imp] at h
      obtain ⟨take, htake⟩ := Option.isSome_iff_exists.1 h.1
      simp only [collect, Fields.seq, htake]
      cases take c m.2.toReading d with
      | error e => rfl
      | ok d => exact ih h.2 d

theorem collect_seq_of_unnamed (h : ∀ m ∈ ms, f.named m.1 = none) (d : f.Draft) (e : x.Draft) :
    (f.seq x).collect c ms (d, e) = (d, ·) <$> x.collect c ms e := by
  induction ms generalizing e with
  | nil => rfl
  | cons m ms ih =>
      simp only [List.mem_cons, forall_eq_or_imp] at h
      simp only [collect, Fields.seq, h.1]
      cases x.named m.1 with
      | none => exact ih h.2 e
      | some take =>
          dsimp only [Option.map]
          cases take c m.2.toReading e with
          | error e => rfl
          | ok e => exact ih h.2 e

/-- The fields take the value back from the members that are theirs, of at most `n` levels. -/
structure Takes (x : Fields α) (n : Nat) (ms : List (String × Json)) (a : α) : Prop where
  readable : MembersAll Number.IsReadable ms
  depth : depthMembers ms ≤ n
  named : ∀ m ∈ ms, (x.named m.1).isSome = true
  collects : ∃ d, x.finish false d = .ok a ∧
    ∀ c : Context,
      Yields (c.Allows (depthMembers ms)) (x.collect c (mapMembers Number.reread ms) x.blank) d

theorem Takes.mono {m : Nat} {a : α} (h : x.Takes n ms a) (hm : n ≤ m) : x.Takes m ms a where
  readable := h.readable
  depth := Nat.le_trans h.depth hm
  named := h.named
  collects := h.collects

/-! ### Names -/

@[simp] theorem named_map_eq_none {g : α → β} {key : String} :
    (g <$> x).named key = none ↔ x.named key = none := Iff.rfl

@[simp] theorem named_seq_eq_none {key : String} :
    (f <*> x).named key = none ↔ f.named key = none ∧ x.named key = none := by
  change (f.seq x).named key = none ↔ _
  simp only [Fields.seq]
  cases f.named key <;> simp

@[simp] theorem named_required_eq_none {name key : String} {d : Decoder α} :
    (required name d).named key = none ↔ key ≠ name := ite_eq_right_iff.trans (by simp)

@[simp] theorem named_defaulted_eq_none {name key : String} {d : Decoder α} {a : α} :
    (defaulted name d a).named key = none ↔ key ≠ name := ite_eq_right_iff.trans (by simp)

@[simp] theorem named_optional_eq_none {name key : String} {d : Decoder α} :
    (optional name d).named key = none ↔ key ≠ name := ite_eq_right_iff.trans (by simp)

/-! ### Fields that are taken back -/

theorem takes_field {name : String} {d : Decoder α} {missing : Bool → Except Refusal α} {j : Json}
    {a : α} (h : d.Takes n j a) : (field name d missing).Takes n [(name, j)] a := by
  have hnamed : (field name d missing).named name = some (intake d) := if_pos rfl
  refine ⟨⟨h.readable, trivial⟩, Nat.max_le.2 ⟨h.depth, Nat.zero_le n⟩, ?_, some a, rfl, fun c => ?_⟩
  · rintro m hm
    cases List.mem_singleton.1 hm
    exact Option.isSome_iff_exists.2 ⟨_, hnamed⟩
  · simp only [mapMembers, collect, hnamed]
    refine (((h.decodes c).map some).bind_ok rfl).congr ?_
    rw [depthMembers, depthMembers, Nat.max_zero]

theorem takes_required {d : Decoder α} {j : Json} {a : α} (name : String) (h : d.Takes n j a) :
    (required name d).Takes n [(name, j)] a := takes_field h

theorem takes_defaulted {d : Decoder α} {j : Json} {a : α} (name : String) (b : α)
    (h : d.Takes n j a) : (defaulted name d b).Takes n [(name, j)] a := takes_field h

theorem takes_optional {d : Decoder α} {toJson : α → Json} {g : α → α} {o : Option α}
    (name : String) (hnull : ∀ a, toJson a ≠ .null) (h : ∀ a ∈ o, d.Takes n (toJson a) (g a)) :
    (optional name d).Takes n [(name, .ofOption toJson o)] (o.map g) :=
  takes_field (Decoder.takes_option hnull h)

theorem takes_optional_self {d : Decoder α} {toJson : α → Json} {o : Option α} (name : String)
    (hnull : ∀ a, toJson a ≠ .null) (h : ∀ a ∈ o, d.Takes n (toJson a) a) :
    (optional name d).Takes n [(name, .ofOption toJson o)] o :=
  takes_field (Decoder.takes_option_self hnull h)

theorem collect_map (g : α → β) (d : x.Draft) : (x.map g).collect c ms d = x.collect c ms d := by
  induction ms generalizing d with
  | nil => rfl
  | cons m ms ih =>
      simp only [collect, Fields.map]
      cases x.named m.1 with
      | none => exact ih d
      | some take =>
          dsimp only
          cases take c m.2.toReading d with
          | error e => rfl
          | ok d => exact ih d

theorem Takes.map {a : α} (g : α → β) (h : x.Takes n ms a) : (g <$> x).Takes n ms (g a) := by
  obtain ⟨d, ha, hd⟩ := h.collects
  refine ⟨h.readable, h.depth, h.named, d, ?_, fun c => ?_⟩
  · change g <$> x.finish false d = _
    rw [ha]
    rfl
  · have hmap : (x.map g).collect c (mapMembers Number.reread ms) x.blank
        = x.collect c (mapMembers Number.reread ms) x.blank := collect_map g x.blank
    exact hmap ▸ hd c

theorem Takes.seq {g : α → β} {a : α} (hf : f.Takes n ms g) (hx : x.Takes n ms' a)
    (h : ∀ m ∈ ms', f.named m.1 = none) : (f <*> x).Takes n (ms ++ ms') (g a) := by
  have hnamed : ∀ m ∈ ms ++ ms', ((f.seq x).named m.1).isSome = true := by
    intro m hm
    rcases List.mem_append.1 hm with hm | hm
    · obtain ⟨take, htake⟩ := Option.isSome_iff_exists.1 (hf.named m hm)
      simp [Fields.seq, htake]
    · simp [Fields.seq, h m hm, hx.named m hm]
  obtain ⟨d, hg, hd⟩ := hf.collects
  obtain ⟨e, ha, he⟩ := hx.collects
  refine ⟨membersAll_append.2 ⟨hf.readable, hx.readable⟩, ?_, hnamed, (d, e), ?_, fun c => ?_⟩
  · rw [depthMembers_append]
    exact Nat.max_le.2 ⟨hf.depth, hx.depth⟩
  · change (do
      let g ← f.finish false d
      return g (← x.finish false e) : Except Refusal β) = _
    rw [hg, ha]
    rfl
  · have hnamed := (forall_mapMembers (f := Number.reread)
      (P := fun key => (f.named key).isSome = true)).2 hf.named
    have hunnamed := (forall_mapMembers (f := Number.reread)
      (P := fun key => f.named key = none)).2 h
    have hfirst := collect_seq_of_named (c := c) (x := x) hnamed f.blank x.blank
    have hsecond := collect_seq_of_unnamed (c := c) (x := x) hunnamed d x.blank
    rw [mapMembers_append]
    refine (collect_append c _ _ _ : (f.seq x).collect c _ (f.seq x).blank = _) ▸ ?_
    have hbegun : Yields (c.Allows (depthMembers ms))
        ((f.seq x).collect c (mapMembers Number.reread ms) (f.blank, x.blank)) (d, x.blank) :=
      hfirst ▸ (hd c).map (·, x.blank)
    have hended : Yields (c.Allows (depthMembers ms'))
        ((f.seq x).collect c (mapMembers Number.reread ms') (d, x.blank)) (d, e) :=
      hsecond ▸ (he c).map (d, ·)
    rw [depthMembers_append]
    exact (hbegun.bind hended).congr Context.allows_max

theorem Takes.object {q : Json → Prop} {other : Decoder Unit} {a : α} (h : x.Takes n ms a)
    (hother : ∀ m ∈ ms', x.named m.1 = none → Yields (q m.2) (other c m.2.toReading) ())
    (hms : ∀ d, x.collect c ms' d = x.collect c (mapMembers Number.reread ms) d) :
    Yields (c.Allows (depthMembers ms) ∧ ∀ m ∈ ms', x.named m.1 = none → q m.2)
      (x.object other c (toMembers ms') x.blank) a := by
  obtain ⟨d, ha, hd⟩ := h.collects
  exact yields_object hother (hms x.blank ▸ hd c) ha

/-- Members of other names that can always be passed over. -/
theorem Takes.object_skip {a : α} (h : x.Takes n ms a)
    (hms : ∀ d, x.collect c ms' d = x.collect c (mapMembers Number.reread ms) d) :
    Yields (c.Allows (depthMembers ms)) (x.object Decoder.skip c (toMembers ms') x.blank) a := by
  refine (h.object (q := fun _ => True) (fun m _ _ => ?_) hms).congr ?_
  · exact .of_eq trivial (Decoder.skip_toReading m.2)
  · simp

theorem Takes.decoder {a : α} (h : x.Takes n ms a) : x.decoder.Takes (n + 1) (.object ms) a := by
  refine ⟨h.readable, Nat.succ_le_succ h.depth, fun c => yields_enter fun d => ?_⟩
  exact h.object_skip fun _ => rfl

/-- The members of the other record stand among those of its own. -/
theorem Takes.spread {own : Fields α} {inner : Fields β} {a : α} {b : β} {join : α → β → γ}
    {l m : List (String × Json)} (hown : own.Takes n (l ++ m) a) (hinner : inner.Takes n ms b)
    (hl : ∀ e ∈ l ++ m, inner.named e.1 = none) (hms : ∀ e ∈ ms, own.named e.1 = none) :
    (Fields.spread own inner join).Takes (n + 1) (.object (l ++ ms ++ m)) (join a b) := by
  obtain ⟨hreadable, hreadable'⟩ := membersAll_append.1 hown.readable
  have hd := hown.depth
  rw [depthMembers_append, Nat.max_le] at hd
  have hdepth : depthMembers (l ++ ms ++ m) ≤ n := by
    rw [depthMembers_append, depthMembers_append]
    exact Nat.max_le.2 ⟨Nat.max_le.2 ⟨hd.1, hinner.depth⟩, hd.2⟩
  have hl := (forall_mapMembers (f := Number.reread) (P := fun key => inner.named key = none)).2 hl
  have hms := (forall_mapMembers (f := Number.reread) (P := fun key => own.named key = none)).2 hms
  refine ⟨?_, Nat.succ_le_succ hdepth, fun c => yields_enter fun d => ?_⟩
  · exact membersAll_append.2 ⟨membersAll_append.2 ⟨hreadable, hinner.readable⟩, hreadable'⟩
  · have hout : Yields (d.Allows (depthMembers (l ++ ms ++ m)))
        (own.object Decoder.hold d (toMembers (mapMembers Number.reread (l ++ ms ++ m))) own.blank)
        a := by
      refine (hown.object (q := fun j => d.Allows j.depth) (fun e _ _ => ?_) fun draft => ?_).congr ?_
      · exact Decoder.yields_hold e.2
      · have hskip : own.collect d (mapMembers Number.reread ms) = Except.ok :=
          funext (collect_of_unnamed hms)
        simp only [mapMembers_append, collect_append, hskip]
        cases own.collect d (mapMembers Number.reread l) draft <;> rfl
      · rw [← depthMembers_mapMembers Number.reread (l ++ m),
          ← depthMembers_mapMembers Number.reread (l ++ ms ++ m)]
        simp only [allows_depthMembers, mapMembers_append, List.mem_append]
        constructor
        · intro h
          exact ⟨fun e he => h e (he.imp_left .inl), fun e he _ => h e he⟩
        · rintro ⟨hnamed, hunnamed⟩ e ((he | he) | he)
          · exact hnamed e (.inl he)
          · exact hunnamed e (.inl (.inr he)) (hms e he)
          · exact hnamed e (.inr he)
    have hin : Yields (Context.held.Allows (depthMembers ms))
        (inner.object Decoder.skip .held (toMembers (mapMembers Number.reread (l ++ ms ++ m)))
          inner.blank) b := by
      refine hinner.object_skip fun draft => ?_
      simp only [mapMembers_append, List.mem_append] at hl
      have hskip : inner.collect .held (mapMembers Number.reread m) = Except.ok :=
        funext (collect_of_unnamed fun e he => hl e (.inr he))
      simp only [mapMembers_append, collect_append, hskip,
        collect_of_unnamed fun e he => hl e (.inl he)]
      change inner.collect .held (mapMembers Number.reread ms) draft >>= Except.ok = _
      cases inner.collect .held (mapMembers Number.reread ms) draft <;> rfl
    refine (hout.bind ?_).congr (and_iff_left trivial).symm
    exact hin.bind_ok rfl

end Fields

end Fleet.Json
