import Fleet.Proofs.Binary64.Decimals
import Fleet.Proofs.Json.Number

/-!
# Printed numbers are read again

The text of a number within the format is a number of the grammar, and reading it never leaves the
format. A number in floating point may be read as another one; nothing else about it changes.
-/

namespace Fleet.Json.Number

open Text

variable {cs ds rest : List Char} {c : Char}

/-! ## Runs of digits -/

/-- Nothing but digits, and at least one. -/
structure Digits (ds : List Char) : Prop where
  ne_nil : ds ≠ []
  all : ∀ c ∈ ds, isDigit c = true

/-- What follows does not go on with a run of digits. -/
def Stops (rest : List Char) : Prop := ∀ c ∈ rest.head?, isDigit c = false

theorem stops_nil : Stops [] := fun _ h => nomatch h

theorem stops_point : Stops ('.' :: rest) := by
  rintro c ⟨⟩
  rfl

theorem digits_natDigits (n : Nat) : Digits (natDigits n) :=
  ⟨natDigits_ne_nil n, fun _ hc => isDigit_of_mem_natDigits hc⟩

theorem Digits.append (h : Digits ds) (hr : ∀ c ∈ rest, isDigit c = true) : Digits (ds ++ rest) := by
  refine ⟨by simp [h.ne_nil], fun c hc => ?_⟩
  rcases List.mem_append.1 hc with hc | hc
  · exact h.all c hc
  · exact hr c hc

theorem Digits.digits? (h : Digits ds) (hs : Stops rest) : digits? (ds ++ rest) = some (ds, rest) := by
  have htake : rest.takeWhile isDigit = [] ∧ rest.dropWhile isDigit = rest := by
    cases rest with
    | nil => exact ⟨rfl, rfl⟩
    | cons c rest => simp [hs c rfl]
  have hall : (ds ++ rest).takeWhile isDigit = ds := by
    rw [List.takeWhile_append_of_pos h.all, htake.1, List.append_nil]
  unfold Number.digits?
  rw [hall, List.dropWhile_append_of_pos h.all, htake.2]
  split
  · exact absurd rfl h.ne_nil
  · rfl

/-- The digits before a point: a zero at the front stands alone. -/
structure Whole (ds : List Char) : Prop extends Digits ds where
  zero : ds.head? = some '0' → ds = ['0']

theorem Whole.whole? (h : Whole ds) (hs : Stops rest) : whole? (ds ++ rest) = some (ds, rest) := by
  cases ds with
  | nil => exact absurd rfl h.ne_nil
  | cons c ds =>
      by_cases hc : c = '0'
      · subst hc
        cases h.zero rfl
        have hany : rest.head?.any isDigit = false := by
          cases rest with
          | nil => rfl
          | cons c rest => exact hs c rfl
        simp [Number.whole?, hany]
      · rw [List.cons_append, whole?_cons_of_ne hc, ← List.cons_append]
        exact h.toDigits.digits? hs

theorem fraction?_point (h : Digits ds) (hs : Stops rest) :
    fraction? ('.' :: (ds ++ rest)) = some (some ds, rest) := by
  simp [fraction?, h.digits? hs]

/-- A power of ten as it is printed, with a sign always. -/
def printedPower (i : Int) : List Char := 'e' :: ((if 0 ≤ i then ['+'] else []) ++ intDigits i)

theorem stops_printedPower (i : Int) : Stops (printedPower i) := by
  rintro c ⟨⟩
  rfl

theorem fraction?_printedPower (i : Int) : fraction? (printedPower i) = some (none, printedPower i) :=
  fraction?_cons_of_ne (by decide)

theorem power?_printedPower (i : Int) : power? (printedPower i) = some (some i, []) := by
  rw [printedPower, power?_cons (.inl rfl)]
  cases i with
  | ofNat n =>
      have hn : (0 : Int) ≤ Int.ofNat n := Int.natCast_nonneg n
      rw [if_pos hn]
      change powerDigits? false (natDigits n) = _
      simp [powerDigits?, digits?_natDigits, ofDigits_natDigits]
  | negSucc n =>
      have hn : ¬(0 ≤ Int.negSucc n) := by omega
      rw [if_neg hn]
      change powerDigits? true (natDigits (n + 1)) = _
      simp [powerDigits?, digits?_natDigits, ofDigits_natDigits, Int.negSucc_eq]

/-! ## The digits that are taken -/

theorem absorb_fst_le (ds : List Char) {n : Nat} (h : n ≤ maxNat64) : (absorb n ds).1 ≤ maxNat64 := by
  induction ds generalizing n with
  | nil => exact h
  | cons c ds ih =>
      rw [absorb]
      split
      · rename_i hfits
        exact ih hfits
      · exact h

theorem absorb_snd_length_le (n : Nat) (ds : List Char) : (absorb n ds).2.length ≤ ds.length := by
  induction ds generalizing n with
  | nil => exact le_rfl
  | cons c ds ih =>
      rw [absorb]
      split
      · exact (ih _).trans (Nat.le_succ _)
      · exact le_rfl

theorem mul_le_ofDigitChars (n : Nat) (ds : List Char) :
    n * 10 ^ ds.length ≤ Nat.ofDigitChars 10 ds n := by
  induction ds generalizing n with
  | nil => simp
  | cons c ds ih =>
      rw [Nat.ofDigitChars_cons, List.length_cons, pow_succ]
      refine le_trans ?_ (ih _)
      nlinarith [Nat.pow_pos (n := ds.length) (show 0 < 10 by decide)]

/-- The digits that are taken write a number that is not greater. -/
theorem absorb_mul_le (n : Nat) (ds : List Char) :
    (absorb n ds).1 * 10 ^ (absorb n ds).2.length ≤ Nat.ofDigitChars 10 ds n := by
  induction ds generalizing n with
  | nil => simp [absorb]
  | cons c ds ih =>
      rw [absorb]
      split
      · rw [Nat.ofDigitChars_cons]
        exact ih _
      · exact mul_le_ofDigitChars n (c :: ds)

/-! ## The value -/

/-- A number in floating point of the given sign, within the format. -/
inductive Floats (negative : Bool) : Number → Prop
  | float {x : Magnitude} (h : x.Bounded) : Floats negative (.float ⟨negative, x⟩)

theorem floats_of_float? {negative : Bool} {k : Nat} {e : Int} {n : Number}
    (h : float? negative k e = some n) : Floats negative n := by
  obtain ⟨x, hx, rfl⟩ := Option.map_eq_some_iff.1 h
  exact .float (Magnitude.bounded_ofDecimal? hx)

theorem exists_of_float? {k : Nat} {e : Int} (negative : Bool)
    (h : (Magnitude.ofDecimal? k e).isSome) :
    ∃ n, float? negative k e = some n ∧ Floats negative n := by
  obtain ⟨x, hx⟩ := Option.isSome_iff_exists.1 h
  have hfloat : float? negative k e = some (.float ⟨negative, x⟩) := by rw [float?, hx]; rfl
  exact ⟨_, hfloat, floats_of_float? hfloat⟩

theorem isSome_of_places {n : Nat} {e : Int} (hn : n ≤ maxNat64) (he : e ≤ 16) :
    (Magnitude.ofDecimal? n e).isSome := by
  refine Magnitude.isSome_ofDecimal? hn ?_
  have hcast : (n : ℚ) ≤ maxNat64 := by exact_mod_cast hn
  have hpow : (10 : ℚ) ^ e ≤ 10 ^ 16 := by
    rw [← zpow_natCast]
    exact zpow_le_zpow_right₀ (by norm_num) he
  have hroomy : maxNat64 * 10 ^ 16 ≤ Magnitude.roomy := by decide +kernel
  calc (n : ℚ) * 10 ^ e ≤ maxNat64 * 10 ^ 16 :=
        mul_le_mul hcast hpow (by positivity) (Nat.cast_nonneg _)
    _ = (maxNat64 * 10 ^ 16 : Nat) := by rw [Nat.cast_mul, Nat.cast_pow, Nat.cast_ofNat]
    _ ≤ Magnitude.roomy := Nat.cast_le.2 hroomy

/-- A number with a point and few digits before it has a value. -/
theorem value?_point {w f : List Char} (negative : Bool) (hw : w.length ≤ 16) :
    ∃ n, (⟨negative, w, some f, none⟩ : Parts).value? = some n ∧ Floats negative n := by
  refine exists_of_float? negative (isSome_of_places ?_ ?_)
  · exact absorb_fst_le f (absorb_fst_le w (Nat.zero_le _))
  · have := absorb_snd_length_le 0 w
    dsimp only [Option.getD]
    omega

/-- A number with one digit before the point has a value if it is small enough. -/
theorem value?_power {f : Option (List Char)} {p : Int} (negative : Bool) (hc : isDigit c = true)
    (h : (ofDigits (c :: f.getD []) : ℚ) * 10 ^ (p - (f.getD []).length) ≤ Magnitude.roomy) :
    ∃ n, (⟨negative, [c], f, some p⟩ : Parts).value? = some n ∧ Floats negative n := by
  have hdigit : 10 * 0 + digitValue c ≤ maxNat64 := by
    have : c.toNat ≤ 57 := by
      simp [isDigit, Char.le_def] at hc
      exact hc.2
    unfold digitValue maxNat64
    omega
  generalize hds : f.getD [] = ds at h
  have hfirst : ∀ cs, absorb 0 (c :: cs) = absorb (10 * 0 + digitValue c) cs := fun cs => by
    rw [absorb, if_pos hdigit]
  have hvalue : (⟨negative, [c], f, some p⟩ : Parts).value?
      = float? negative (absorb 0 (c :: ds)).1
          (((0 : Nat) : Int) - (ds.length - (absorb 0 (c :: ds)).2.length : Nat) + p) := by
    simp only [Parts.value?, hfirst, hds]
    rfl
  rw [hvalue]
  refine exists_of_float? negative (Magnitude.isSome_ofDecimal? ?_ ?_)
  · exact absorb_fst_le _ (Nat.zero_le _)
  · have hle : (absorb 0 (c :: ds)).2.length ≤ ds.length := by
      rw [hfirst]
      exact absorb_snd_length_le _ ds
    have hmul := absorb_mul_le 0 (c :: ds)
    change _ ≤ ofDigits (c :: ds) at hmul
    generalize absorb 0 (c :: ds) = taken at hle hmul ⊢
    obtain ⟨n, dropped⟩ := taken
    dsimp only at hle hmul ⊢
    have hexp : ((0 : Nat) : Int) - (ds.length - dropped.length : Nat) + p
        = dropped.length + (p - ds.length) := by omega
    have hcast : (n : ℚ) * 10 ^ dropped.length ≤ ofDigits (c :: ds) := by exact_mod_cast hmul
    rw [hexp, zpow_add₀ (by norm_num), zpow_natCast, ← mul_assoc]
    exact (mul_le_mul_of_nonneg_right hcast (by positivity)).trans h

/-! ## Layouts -/

variable {negative : Bool} {w f : List Char}

/-- The text is one number, which has a value. -/
def Reads (negative : Bool) (cs : List Char) : Prop :=
  ∃ p n, unsigned? negative cs = some (p, []) ∧ p.value? = some n ∧ Floats negative n

theorem reads_point (hw : Whole w) (hlen : w.length ≤ 16) (hf : Digits f) :
    Reads negative (w ++ '.' :: f) := by
  have hfraction := fraction?_point hf stops_nil
  rw [List.append_nil] at hfraction
  obtain ⟨n, hn, hfloats⟩ := value?_point (f := f) negative hlen
  refine ⟨_, n, ?_, hn, hfloats⟩
  simp only [unsigned?, hw.whole? stops_point, Option.bind_eq_bind, Option.bind_some, hfraction]
  rfl

/-- One digit, the digits after the point if there are any, and a power of ten. -/
def scientific (c : Char) (f : List Char) (i : Int) : List Char :=
  c :: ((if f = [] then [] else '.' :: f) ++ printedPower i)

theorem unsigned?_scientific (negative : Bool) (i : Int) (hw : Whole [c])
    (hf : ∀ c ∈ f, isDigit c = true) :
    unsigned? negative (scientific c f i)
      = some (⟨negative, [c], if f = [] then none else some f, some i⟩, []) := by
  have hwhole : ∀ rest, Stops rest → whole? (c :: rest) = some ([c], rest) := fun rest hs =>
    hw.whole? hs
  unfold scientific
  by_cases hnil : f = []
  · simp only [if_pos hnil, List.nil_append, unsigned?, hwhole _ (stops_printedPower i),
      Option.bind_eq_bind, Option.bind_some, fraction?_printedPower, power?_printedPower]
    rfl
  · simp only [if_neg hnil, List.cons_append, unsigned?, hwhole _ stops_point, Option.bind_eq_bind,
      Option.bind_some, fraction?_point ⟨hnil, hf⟩ (stops_printedPower i), power?_printedPower]
    rfl

theorem reads_scientific {i : Int} (hw : Whole [c]) (hf : ∀ c ∈ f, isDigit c = true)
    (h : (ofDigits (c :: f) : ℚ) * 10 ^ (i - f.length) ≤ Magnitude.roomy) :
    Reads negative (scientific c f i) := by
  have hget : (if f = [] then none else some f).getD [] = f := by
    split
    · rename_i hnil
      exact hnil.symm
    · rfl
  rw [← hget] at h
  obtain ⟨n, hn, hfloats⟩ := value?_power negative (hw.all c List.mem_cons_self) h
  exact ⟨_, n, unsigned?_scientific negative i hw hf, hn, hfloats⟩

/-! ## Magnitudes -/

theorem whole_singleton (hc : isDigit c = true) : Whole [c] where
  ne_nil := by simp
  all _ h := List.mem_singleton.1 h ▸ hc
  zero h := by
    cases h
    rfl

/-- The greatest magnitude is read back, though a greater significand would not be read. -/
theorem reads_greatest (negative : Bool) : Reads negative Magnitude.greatest.text := by
  have htext : Magnitude.greatest.text = scientific '1' (natDigits 7976931348623157) 308 := by
    decide +kernel
  rw [htext]
  refine ⟨_, .float ⟨negative, .greatest⟩, unsigned?_scientific negative 308 (whole_singleton rfl)
    (digits_natDigits _).all, ?_, .float (by decide)⟩
  cases negative <;> decide +kernel

theorem isDigit_of_mem_replicate {k : Nat} (h : c ∈ List.replicate k '0') : isDigit c = true := by
  rw [List.eq_of_mem_replicate h]
  rfl

theorem digits_replicate_append (k : Nat) (h : Digits ds) : Digits (List.replicate k '0' ++ ds) := by
  refine ⟨by simp [h.ne_nil], fun c hc => ?_⟩
  rcases List.mem_append.1 hc with hc | hc
  · exact isDigit_of_mem_replicate hc
  · exact h.all c hc

/-- Digits that are followed by so many zeros, where a zero is followed by none. -/
theorem whole_append_replicate {n k : Nat} (h : n = 0 → k = 0) :
    Whole (natDigits n ++ List.replicate k '0') where
  toDigits := (digits_natDigits n).append fun _ => isDigit_of_mem_replicate
  zero hhead := by
    rw [List.head?_append_of_ne_nil _ (natDigits_ne_nil n)] at hhead
    have hn := head?_natDigits hhead
    rw [h hn, hn]
    rfl

/-- The first digits of a number that is not zero. -/
theorem whole_take {n k : Nat} (hn : n ≠ 0) (hk : k ≠ 0) : Whole ((natDigits n).take k) where
  ne_nil := by simp [hk, natDigits_ne_nil]
  all _ hc := isDigit_of_mem_natDigits (List.mem_of_mem_take hc)
  zero hhead := by
    rw [List.head?_take, if_neg hk] at hhead
    exact absurd (head?_natDigits hhead) hn

/-- The text of a magnitude within the format is read. -/
theorem reads_text {x : Magnitude} (hx : x.Bounded) (negative : Bool) : Reads negative x.text := by
  by_cases hgreatest : x = .greatest
  · rw [hgreatest]
    exact reads_greatest negative
  unfold Magnitude.text
  split
  · exact reads_point (whole_singleton rfl) (by decide) (whole_singleton rfl).toDigits
  rename_i hzero
  have hzero : x.isZero = false := by simpa using hzero
  have hvalue := Magnitude.value_shortest_le hx hzero hgreatest
  have hexp := Magnitude.exponent_shortest hzero
  generalize x.shortest = d at hvalue hexp
  dsimp only
  split
  · rename_i hwhole
    have hwhole : 0 ≤ d.exponent ∧ (natDigits d.digits).length + d.exponent ≤ 16 := by
      simpa using hwhole
    refine reads_point (whole_append_replicate fun h => by simp [hexp h]) ?_
      (whole_singleton rfl).toDigits
    rw [List.length_append, List.length_replicate]
    omega
  rename_i hwhole
  have hwhole : 0 ≤ d.exponent → 16 < (natDigits d.digits).length + d.exponent := by
    simpa using hwhole
  split
  · rename_i hpoint
    have hpoint : 0 < (natDigits d.digits).length + d.exponent ∧
        (natDigits d.digits).length + d.exponent ≤ 16 := by simpa using hpoint
    have hdigits : d.digits ≠ 0 := fun h => by
      have := hexp h
      omega
    refine reads_point (whole_take hdigits (by omega)) ?_ ⟨?_, fun c hc => ?_⟩
    · rw [List.length_take]
      omega
    · intro hnil
      rw [List.drop_eq_nil_iff] at hnil
      omega
    · exact isDigit_of_mem_natDigits (List.mem_of_mem_drop hc)
  split
  · exact reads_point (w := ['0']) (whole_singleton rfl) (by decide)
      (digits_replicate_append _ (digits_natDigits _))
  · have hds := digits_natDigits d.digits
    have hof := ofDigits_natDigits d.digits
    unfold Decimal.value at hvalue
    rw [← hof] at hvalue
    generalize natDigits d.digits = ds at *
    have hsign : (if 0 < (ds.length : Int) + d.exponent then ['+'] else [])
        = if 0 ≤ (ds.length : Int) + d.exponent - 1 then ['+'] else [] := by
      congr 1
      rw [eq_iff_iff]
      omega
    rw [hsign]
    match ds with
    | [] => exact absurd rfl hds.ne_nil
    | c :: f =>
        have hpower : (((c :: f).length : Int) + d.exponent - 1) - f.length = d.exponent := by
          rw [List.length_cons]
          omega
        rw [← hpower] at hvalue
        have hreads : Reads negative (scientific c f (((c :: f).length : Int) + d.exponent - 1)) :=
          reads_scientific (whole_singleton (hds.all c List.mem_cons_self))
            (fun _ hc => hds.all _ (List.mem_cons_of_mem c hc)) hvalue
        cases f with
        | nil => exact hreads
        | cons c' f => exact hreads

/-! ## Numbers -/

/-- Within the width or the format that numbers are read in. -/
def Bounded : Number → Prop
  | .int i => minInt64 ≤ i ∧ i ≤ maxNat64
  | .float x => x.magnitude.Bounded

theorem Floats.bounded {n : Number} (h : Floats negative n) : n.Bounded := by
  cases h with
  | float hx => exact hx

/-- What is read is within its width or the format. -/
theorem bounded_of_value? {p : Parts} {n : Number} (h : p.value? = some n) : n.Bounded := by
  obtain ⟨neg, whole, fraction, power⟩ := p
  unfold Parts.value? at h
  dsimp only at h
  split at h
  · have hle := absorb_fst_le whole (Nat.zero_le maxNat64)
    split at h
    · exact (floats_of_float? h).bounded
    · split at h
      · cases h
        refine ⟨?_, by exact_mod_cast hle⟩
        unfold minInt64
        omega
      · split at h
        · exact (floats_of_float? h).bounded
        · rename_i hsmall
          cases h
          simp only [Bool.or_eq_true, decide_eq_true_eq, not_or, not_lt] at hsmall
          refine ⟨?_, ?_⟩
          · omega
          · omega
  · exact (floats_of_float? h).bounded

/-- The text of a number in floating point is one number, whose first character is no sign of its
own. -/
theorem split?_text {x : Binary64} (hx : x.magnitude.Bounded) :
    ∃ p n, split? x.text = some (p, []) ∧ p.value? = some n ∧ Floats x.negative n := by
  obtain ⟨p, n, hp, hn, hfloats⟩ := reads_text hx x.negative
  refine ⟨p, n, ?_, hn, hfloats⟩
  unfold Binary64.text
  split
  · rename_i hneg
    rw [hneg] at hp
    exact hp
  · rename_i hneg
    rw [Bool.not_eq_true] at hneg
    rw [hneg] at hp
    cases htext : x.magnitude.text with
    | nil =>
        rw [htext] at hp
        cases hp
    | cons c cs =>
        rw [htext] at hp
        by_cases hc : c = '-'
        · subst hc
          have hnone : unsigned? false ('-' :: cs) = none := by
            simp [unsigned?, whole?_cons_of_ne, digits?, isDigit]
          rw [hnone] at hp
          cases hp
        · rw [split?_cons_of_ne hc]
          exact hp

end Fleet.Json.Number
