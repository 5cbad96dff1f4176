import Fleet.Binary64.Shortest
import Fleet.Proofs.Binary64.Rounding

/-!
# Decimal numbers within the format

Reading a decimal number is monotone in its significand, so what is read of great numbers is known
from the greatest of each power of ten. The shortest decimal number of a magnitude is read again,
though not always as the same magnitude.
-/

namespace Fleet

/-- The number that the decimal stands for. -/
def Decimal.value (d : Decimal) : ℚ := d.digits * 10 ^ d.exponent

namespace Magnitude

variable {x y p : Magnitude}

/-! ## Arithmetic -/

theorem ofNat?_mono {n k : Nat} (h : n ≤ k) (hk : ofNat? k = some y) :
    ∃ x, ofNat? n = some x ∧ x.value ≤ y.value := by
  refine ofRatio?_mono (by decide) (by decide) ?_ hk
  have : (n : ℚ) ≤ k := by exact_mod_cast h
  simpa using this

theorem product_eq (x y : Magnitude) :
    ((unscale (x.mantissa * y.mantissa) 1 (-(x.exponent + y.exponent))).1 : ℚ)
        / (unscale (x.mantissa * y.mantissa) 1 (-(x.exponent + y.exponent))).2
      = x.value * y.value := by
  rw [unscale_eq, zpow_neg, zpow_add₀ (by norm_num)]
  unfold value
  push_cast
  field_simp

theorem isSome_mul?_mono (h : x.value ≤ y.value) (hy : (mul? y p).isSome) : (mul? x p).isSome := by
  obtain ⟨z, hz⟩ := Option.isSome_iff_exists.1 hy
  have hle := mul_le_mul_of_nonneg_right h p.value_nonneg
  rw [← product_eq x p, ← product_eq y p] at hle
  obtain ⟨w, hw, -⟩ := ofRatio?_mono (unscale_pos _ Nat.one_pos _)
    (unscale_pos _ Nat.one_pos _) hle hz
  exact Option.isSome_iff_exists.2 ⟨w, hw⟩

theorem bounded_quotient (x : Magnitude) (q : Option Magnitude) :
    (((q.bind (div? x))).getD zero).Bounded := by
  cases h : q.bind (div? x) with
  | none => exact bounded_zero
  | some y =>
      obtain ⟨p, -, hp⟩ := Option.bind_eq_some_iff.1 h
      exact bounded_ofRatio? hp

theorem bounded_divPowerOfTen (h : x.Bounded) (k : Nat) : (divPowerOfTen x k).Bounded := by
  fun_induction divPowerOfTen x k with
  | case1 => exact bounded_quotient _ _
  | case2 => exact h
  | case3 x k _ _ ih => exact ih (bounded_quotient _ _)

/-! ## Reading decimal numbers -/

theorem bounded_ofDecimal? {n : Nat} {e : Int} (h : ofDecimal? n e = some x) : x.Bounded := by
  obtain ⟨y, hy, h⟩ := Option.bind_eq_some_iff.1 h
  have hbounded : y.Bounded := bounded_ofRatio? hy
  split at h
  · cases h
    exact bounded_divPowerOfTen hbounded _
  · split at h
    · obtain ⟨p, -, hp⟩ := Option.bind_eq_some_iff.1 h
      exact bounded_ofRatio? hp
    · split at h
      · cases h
        exact hbounded
      · cases h

theorem value_eq_zero_iff (x : Magnitude) : x.value = 0 ↔ x.isZero = true := by
  simp [value, isZero, zpow_ne_zero]

theorem isSome_ofDecimal?_mono {n k : Nat} {e : Int} (h : n ≤ k) (hk : (ofDecimal? k e).isSome) :
    (ofDecimal? n e).isSome := by
  obtain ⟨z, hz⟩ := Option.isSome_iff_exists.1 hk
  obtain ⟨y, hy, hz⟩ := Option.bind_eq_some_iff.1 hz
  obtain ⟨x, hx, hle⟩ := ofNat?_mono h hy
  simp only [ofDecimal?, hx, Option.bind_some]
  split
  · rfl
  · rename_i hneg
    rw [if_neg hneg] at hz
    split
    · rename_i hsmall
      rw [if_pos hsmall] at hz
      obtain ⟨p, hp, hz⟩ := Option.bind_eq_some_iff.1 hz
      rw [hp]
      exact isSome_mul?_mono hle (Option.isSome_iff_exists.2 ⟨z, hz⟩)
    · rename_i hgreat
      rw [if_neg hgreat] at hz
      split at hz
      · rename_i hzero
        have hvalue : x.value = 0 :=
          le_antisymm (hle.trans_eq ((value_eq_zero_iff y).2 hzero)) x.value_nonneg
        rw [if_pos ((value_eq_zero_iff x).1 hvalue)]
        rfl
      · cases hz

/-- The greatest number but one has its midpoint to the greatest here. -/
@[irreducible] def roomy : Nat := 36028797018963962 * twoTo (969 : Nat)

/-- For each power of ten, the greatest number of 64 bits below the bound is read. -/
theorem isSome_ofDecimal?_greatest :
    ∀ q : Nat, q < 309 → (ofDecimal? (min Text.maxNat64 (roomy / 10 ^ q)) q).isSome := by
  decide +kernel

/-- A significand of 64 bits is read with a power of ten that leaves it below the bound. -/
theorem isSome_ofDecimal? {n : Nat} {e : Int} (hn : n ≤ Text.maxNat64)
    (h : (n : ℚ) * 10 ^ e ≤ roomy) : (ofDecimal? n e).isSome := by
  by_cases hneg : e < 0
  · obtain ⟨x, hx, -⟩ := ofNat?_mono (y := ⟨fullMantissa, 12⟩) hn (by decide +kernel)
    simp [ofDecimal?, hx, hneg]
  · obtain ⟨q, rfl⟩ := Int.eq_ofNat_of_zero_le (not_lt.1 hneg)
    have hle : n * 10 ^ q ≤ roomy := by
      rw [zpow_natCast] at h
      exact_mod_cast h
    by_cases hq : q < 309
    · refine isSome_ofDecimal?_mono (le_min hn ?_) (isSome_ofDecimal?_greatest q hq)
      exact (Nat.le_div_iff_mul_le (by positivity)).2 hle
    · have hpow : ∀ k ≤ q, tenTo k ≤ 10 ^ q := fun _ hk => Nat.pow_le_pow_right (by decide) hk
      have hlt : roomy < tenTo (309 : Nat) := by decide +kernel
      have hzero : n = 0 := by
        by_contra hne
        have hge : tenTo (309 : Nat) ≤ n * 10 ^ q :=
          (hpow 309 (not_lt.1 hq)).trans (Nat.le_mul_of_pos_left _ (Nat.pos_of_ne_zero hne))
        exact absurd (hge.trans hle) (not_le.2 hlt)
      subst hzero
      have hgreat : ¬((q : Int) ≤ 308) := by omega
      simp [ofDecimal?, ofNat?, ofRatio?, isZero, zero, hgreat, hneg]

/-! ## Shortest decimal numbers -/

theorem decimalLe_iff (a : Nat) (g : Int) (b : Nat) (p : Int) :
    decimalLe a g b p = true ↔ (a : ℚ) * 10 ^ g ≤ b * 2 ^ p := by
  rw [zpow_eq_div (b := 10) (by norm_num) g, zpow_eq_div (b := 2) (by norm_num) p, ← mul_div_assoc,
    ← mul_div_assoc, div_le_div_iff₀ (by positivity) (by positivity)]
  simp only [decimalLe, decide_eq_true_eq, ← twoTo_cast, ← tenTo_cast]
  exact_mod_cast Iff.rfl

theorem binaryLe_iff (b : Nat) (p : Int) (a : Nat) (g : Int) :
    binaryLe b p a g = true ↔ (b : ℚ) * 2 ^ p ≤ a * 10 ^ g := by
  rw [zpow_eq_div (b := 10) (by norm_num) g, zpow_eq_div (b := 2) (by norm_num) p, ← mul_div_assoc,
    ← mul_div_assoc, div_le_div_iff₀ (by positivity) (by positivity)]
  simp only [binaryLe, decide_eq_true_eq, ← twoTo_cast, ← tenTo_cast]
  exact_mod_cast Iff.rfl

variable {d : Decimal}

/-- A number that rounds to `x` is between the midpoints. -/
theorem between_of_roundsTo (h : x.roundsTo d = true) :
    ((4 * x.mantissa - x.quartersBelow : Nat) : ℚ) * 2 ^ (x.exponent - 2) ≤ d.value ∧
      d.value ≤ ((4 * x.mantissa + 2 : Nat) : ℚ) * 2 ^ (x.exponent - 2) := by
  unfold roundsTo at h
  dsimp only at h
  split at h
  · simpa [binaryLe_iff, decimalLe_iff, Decimal.value] using h
  · simp only [Bool.and_eq_true, Bool.not_eq_true', ← Bool.not_eq_true, decimalLe_iff,
      binaryLe_iff, not_le] at h
    exact ⟨h.1.le, h.2.le⟩

theorem digits_ne_zero_of_roundsTo (hx : x.isZero = false) (h : x.roundsTo d = true) :
    d.digits ≠ 0 := by
  intro hzero
  have hm : x.mantissa ≠ 0 := by simpa [isZero] using hx
  have hlow : 0 < 4 * x.mantissa - x.quartersBelow := by
    unfold quartersBelow
    split <;> omega
  have hle := (between_of_roundsTo h).1
  have hpos : (0 : ℚ) < ((4 * x.mantissa - x.quartersBelow : Nat) : ℚ) * 2 ^ (x.exponent - 2) := by
    positivity
  have hvalue : d.value = 0 := by simp [Decimal.value, hzero]
  linarith

/-- The greatest magnitude of the format. -/
def greatest : Magnitude := ⟨9007199254740991, maxExponent⟩

theorem value_le_roomy (hx : x.Bounded) (hne : x ≠ greatest) (h : x.roundsTo d = true) :
    d.value ≤ roomy := by
  have hcast : ∀ k : Nat,
      ((36028797018963962 * twoTo k : Nat) : ℚ) = 36028797018963962 * 2 ^ (k : Int) :=
    fun k => by simp [twoTo_cast]
  have hroomy : (roomy : ℚ) = 36028797018963962 * 2 ^ ((969 : Nat) : Int) := by
    unfold roomy
    exact hcast 969
  have hm : x.mantissa ≤ 9007199254740991 := Nat.le_of_lt_succ hx.mantissa
  refine (between_of_roundsTo h).2.trans ?_
  rw [hroomy]
  by_cases he : x.exponent = maxExponent
  · have hm' : x.mantissa ≠ 9007199254740991 := by
      intro hm'
      refine hne ?_
      cases x
      simp only at he hm'
      rw [he, hm']
      rfl
    have hle : 4 * x.mantissa + 2 ≤ 36028797018963962 := by omega
    have hle : ((4 * x.mantissa + 2 : Nat) : ℚ) ≤ 36028797018963962 := by exact_mod_cast hle
    rw [he]
    exact mul_le_mul_of_nonneg_right hle (by positivity)
  · have hexp : x.exponent - 2 ≤ 968 := by
      have : x.exponent ≤ 971 := hx.exponent
      have : x.exponent ≠ 971 := he
      omega
    have hle : 4 * x.mantissa + 2 ≤ 36028797018963966 := by omega
    have hle : ((4 * x.mantissa + 2 : Nat) : ℚ) ≤ 36028797018963966 := by exact_mod_cast hle
    calc ((4 * x.mantissa + 2 : Nat) : ℚ) * 2 ^ (x.exponent - 2)
        ≤ 36028797018963966 * 2 ^ (968 : Int) := by
          gcongr
          norm_num
      _ ≤ 36028797018963962 * 2 * 2 ^ (968 : Int) := by
          gcongr
          norm_num
      _ = 36028797018963962 * 2 ^ (969 : Int) := by
          rw [mul_assoc, ← zpow_one_add₀ (by norm_num)]
          norm_num

theorem roundsTo_of_onGrid? {g : Int} (h : x.onGrid? g = some d) : x.roundsTo d = true := by
  unfold onGrid? at h
  dsimp only at h
  split at h
  · rename_i hbelow habove
    cases h
    split
    · exact hbelow
    · exact habove
  · rename_i hbelow _
    cases h
    exact hbelow
  · rename_i habove
    cases h
    exact habove
  · cases h

/-- What the search finds rounds to the magnitude, if it finds anything. -/
theorem search_spec (x : Magnitude) (finer : Nat) (g : Int) :
    x.search finer g = ⟨0, 0⟩ ∨ x.roundsTo (x.search finer g) = true := by
  induction finer generalizing g with
  | zero =>
      rw [search]
      cases h : x.onGrid? g with
      | none => exact .inl rfl
      | some d => exact .inr (roundsTo_of_onGrid? h)
  | succ finer ih =>
      rw [search]
      cases h : x.onGrid? g with
      | none => exact ih (g - 1)
      | some d => exact .inr (roundsTo_of_onGrid? h)

theorem dropZeros_of_digits_eq_zero (fuel : Nat) (h : d.digits = 0) : dropZeros fuel d = d := by
  cases fuel with
  | zero => rfl
  | succ fuel => simp [dropZeros, h]

theorem dropZeros_spec (fuel : Nat) (h : d.digits ≠ 0) :
    (dropZeros fuel d).value = d.value ∧ (dropZeros fuel d).digits ≠ 0 := by
  induction fuel generalizing d with
  | zero => exact ⟨rfl, h⟩
  | succ fuel ih =>
      rw [dropZeros]
      split
      · rename_i hdrop
        have hmod : d.digits % 10 = 0 := by simpa [h] using hdrop
        have hten : d.digits = 10 * (d.digits / 10) := by omega
        obtain ⟨hvalue, hdigits⟩ := ih (d := ⟨d.digits / 10, d.exponent + 1⟩) (by dsimp only; omega)
        refine ⟨hvalue.trans ?_, hdigits⟩
        have hcast : (d.digits : ℚ) = 10 * (d.digits / 10 : Nat) := by exact_mod_cast hten
        rw [Decimal.value, Decimal.value, hcast, zpow_add_one₀ (by norm_num)]
        ring
      · exact ⟨rfl, h⟩

theorem value_shortest_le (hx : x.Bounded) (hzero : x.isZero = false) (hne : x ≠ greatest) :
    x.shortest.value ≤ roomy := by
  unfold shortest
  rcases search_spec x 17 x.leadingExponent with h | h
  · rw [h, dropZeros_of_digits_eq_zero 18 rfl]
    simp [Decimal.value]
  · rw [(dropZeros_spec 18 (digits_ne_zero_of_roundsTo hzero h)).1]
    exact value_le_roomy hx hne h

/-- No digits but a zero only where nothing was found. -/
theorem exponent_shortest (hzero : x.isZero = false) (h : x.shortest.digits = 0) :
    x.shortest.exponent = 0 := by
  unfold shortest at h ⊢
  rcases search_spec x 17 x.leadingExponent with hs | hs
  · rw [hs, dropZeros_of_digits_eq_zero 18 rfl]
  · exact absurd h (dropZeros_spec 18 (digits_ne_zero_of_roundsTo hzero hs)).2

end Magnitude

end Fleet
