import Fleet.Binary64.Basic
import Mathlib.Algebra.Order.Field.Power
import Mathlib.Data.Rat.Cast.Order
import Mathlib.Tactic.FieldSimp
import Mathlib.Tactic.Linarith
import Mathlib.Tactic.NormNum
import Mathlib.Tactic.Positivity
import Mathlib.Tactic.Ring

/-!
# Rounding is monotone

The magnitude nearest to a ratio, as a rational number: a greater ratio never has a smaller one, and
if the greater is within the format then so is the smaller.
-/

namespace Fleet.Magnitude

/-- The number that the magnitude stands for. -/
def value (x : Magnitude) : ℚ := x.mantissa * 2 ^ x.exponent

theorem value_nonneg (x : Magnitude) : 0 ≤ x.value := by
  unfold value
  positivity

/-- Within the format, whatever the length of the mantissa. -/
structure Bounded (x : Magnitude) : Prop where
  mantissa : x.mantissa < 2 * fullMantissa
  exponent : x.exponent ≤ maxExponent

instance (x : Magnitude) : Decidable x.Bounded :=
  decidable_of_iff (x.mantissa < 2 * fullMantissa ∧ x.exponent ≤ maxExponent)
    ⟨fun h => ⟨h.1, h.2⟩, fun h => ⟨h.1, h.2⟩⟩

theorem bounded_zero : zero.Bounded := ⟨by decide, by decide⟩

/-! ## The nearest whole number -/

/-- A whole number nearest to `t`, even if another one is as near. -/
structure Nearest (t : ℚ) (m : Nat) : Prop where
  low : (m : ℚ) - 1 / 2 ≤ t
  high : t ≤ m + 1 / 2
  even : t = m - 1 / 2 ∨ t = m + 1 / 2 → m % 2 = 0

theorem Nearest.mono {t t' : ℚ} {m m' : Nat} (h : Nearest t m) (h' : Nearest t' m') (ht : t ≤ t') :
    m ≤ m' := by
  by_contra hlt
  have hle : (m' : ℚ) + 1 ≤ m := by exact_mod_cast Nat.lt_of_not_le hlt
  have hlow := h.low
  have hhigh := h'.high
  -- both are ties between the same two numbers
  have heq : (m : ℚ) = m' + 1 := by linarith
  have htie : t = m - 1 / 2 := by linarith
  have htie' : t' = m' + 1 / 2 := by linarith
  have hm := h.even (.inl htie)
  have hm' := h'.even (.inr htie')
  have : m = m' + 1 := by exact_mod_cast heq
  omega

theorem nearest_roundDiv (num : Nat) {den : Nat} (h : 0 < den) :
    Nearest ((num : ℚ) / den) (roundDiv num den) := by
  have hden : (0 : ℚ) < den := by exact_mod_cast h
  have hsplit : (num : ℚ) / den = (num / den : Nat) + ((num % den : Nat) : ℚ) / den := by
    have hnum : (num : ℚ) = den * (num / den : Nat) + (num % den : Nat) := by
      exact_mod_cast (Nat.div_add_mod num den).symm
    rw [hnum]
    field_simp
  have hlt : ((num % den : Nat) : ℚ) < den := by exact_mod_cast Nat.mod_lt num h
  rw [hsplit]
  have hnonneg : (0 : ℚ) ≤ ((num % den : Nat) : ℚ) / den := by positivity
  have hone : ((num % den : Nat) : ℚ) / den < 1 := (div_lt_one hden).2 hlt
  unfold roundDiv
  dsimp only
  split
  · rename_i hup
    have hup : den < 2 * (num % den) ∨ 2 * (num % den) = den ∧ num / den % 2 = 1 := by simpa using hup
    have hhalf : (1 : ℚ) / 2 ≤ ((num % den : Nat) : ℚ) / den := by
      rw [div_le_div_iff₀ (by norm_num) hden]
      have : den ≤ 2 * (num % den) := by omega
      have : (den : ℚ) ≤ 2 * (num % den : Nat) := by exact_mod_cast this
      linarith
    refine ⟨?_, ?_, ?_⟩
    · push_cast
      linarith
    · push_cast
      linarith
    · rintro (htie | htie)
      · push_cast at htie
        have hfrac : ((num % den : Nat) : ℚ) / den = 1 / 2 := by linarith
        rw [div_eq_div_iff (by positivity) (by norm_num)] at hfrac
        have : 2 * (num % den) = den := by
          have : (2 : ℚ) * (num % den : Nat) = den := by linarith
          exact_mod_cast this
        omega
      · push_cast at htie
        linarith
  · rename_i hdown
    have hdown : 2 * (num % den) ≤ den ∧ (2 * (num % den) = den → num / den % 2 = 0) := by
      simp at hdown
      omega
    have hhalf : ((num % den : Nat) : ℚ) / den ≤ 1 / 2 := by
      rw [div_le_div_iff₀ hden (by norm_num)]
      have : (2 : ℚ) * (num % den : Nat) ≤ den := by exact_mod_cast hdown.1
      linarith
    refine ⟨by linarith, by linarith, ?_⟩
    rintro (htie | htie)
    · linarith
    · have hfrac : ((num % den : Nat) : ℚ) / den = 1 / 2 := by linarith
      rw [div_eq_div_iff (by positivity) (by norm_num)] at hfrac
      refine hdown.2 ?_
      have : (2 : ℚ) * (num % den : Nat) = den := by linarith
      exact_mod_cast this

/-! ## Scaling -/

theorem twoTo_cast (e : Int) : ((twoTo e : Nat) : ℚ) = 2 ^ (e.toNat : Int) := by
  rw [zpow_natCast]
  simp [twoTo]

theorem tenTo_cast (e : Int) : ((tenTo e : Nat) : ℚ) = 10 ^ (e.toNat : Int) := by
  rw [zpow_natCast]
  simp [tenTo]

theorem twoTo_pos (e : Int) : 0 < twoTo e := Nat.pow_pos (by decide)

theorem zpow_eq_div {b : ℚ} (hb : b ≠ 0) (e : Int) :
    b ^ e = b ^ (e.toNat : Int) / b ^ ((-e).toNat : Int) := by
  rw [← zpow_sub₀ hb]
  congr 1
  omega

theorem unscale_eq (num den : Nat) (e : Int) :
    ((unscale num den e).1 : ℚ) / (unscale num den e).2 = num / den / 2 ^ e := by
  rw [zpow_eq_div (by norm_num) e]
  simp only [unscale, Nat.cast_mul, twoTo_cast]
  field_simp

theorem unscale_pos (num : Nat) {den : Nat} (h : 0 < den) (e : Int) : 0 < (unscale num den e).2 :=
  Nat.mul_pos h (twoTo_pos e)

/-- The whole part of a ratio is below a bound if the ratio is. -/
theorem div_lt_iff {num den k : Nat} (h : 0 < den) : num / den < k ↔ (num : ℚ) / den < k := by
  rw [Nat.div_lt_iff_lt_mul h, div_lt_iff₀ (by exact_mod_cast h)]
  exact_mod_cast Iff.rfl

/-! ## Rounding before the carry -/

/-- The mantissa is nearest to `t` at the exponent, which is the least one at which the mantissa is
not too long. -/
structure Rounds (t : ℚ) (x : Magnitude) : Prop where
  nearest : Nearest (t / 2 ^ x.exponent) x.mantissa
  below : t / 2 ^ x.exponent < 2 * fullMantissa
  least : minExponent ≤ x.exponent
  full : x.exponent = minExponent ∨ (fullMantissa : ℚ) ≤ t / 2 ^ x.exponent

theorem Rounds.mantissa_le {t : ℚ} {x : Magnitude} (h : Rounds t x) :
    x.mantissa ≤ 2 * fullMantissa := by
  have hlow := h.nearest.low
  have hbelow := h.below
  have : (x.mantissa : ℚ) < (2 * fullMantissa + 1 : Nat) := by
    push_cast
    linarith
  exact Nat.le_of_lt_succ (by exact_mod_cast this)

theorem Rounds.le_mantissa {t : ℚ} {x : Magnitude} (h : Rounds t x)
    (he : x.exponent ≠ minExponent) : fullMantissa ≤ x.mantissa := by
  have hhigh := h.nearest.high
  have hfull := h.full.resolve_left he
  have : (fullMantissa : ℚ) < (x.mantissa + 1 : Nat) := by
    push_cast
    linarith
  exact Nat.le_of_lt_succ (by exact_mod_cast this)

/-- The exponents of a smaller and a greater number. -/
theorem Rounds.exponent_le {t t' : ℚ} {x y : Magnitude} (h : Rounds t x) (h' : Rounds t' y)
    (ht : t ≤ t') : x.exponent ≤ y.exponent := by
  by_contra hlt
  have hne : x.exponent ≠ minExponent := by
    have := h'.least
    omega
  have hfull := h.full.resolve_left hne
  have hbelow := h'.below
  rw [le_div_iff₀ (by positivity)] at hfull
  rw [div_lt_iff₀ (by positivity)] at hbelow
  have hstep : (2 : ℚ) * 2 ^ y.exponent ≤ 2 ^ x.exponent := by
    rw [← zpow_one_add₀ (by norm_num)]
    exact zpow_le_zpow_right₀ (by norm_num) (by omega)
  have hpos : (0 : ℚ) ≤ fullMantissa := by positivity
  have := mul_le_mul_of_nonneg_left hstep hpos
  linarith

theorem Rounds.value_le {t t' : ℚ} {x y : Magnitude} (h : Rounds t x) (h' : Rounds t' y)
    (ht : t ≤ t') : x.value ≤ y.value := by
  unfold value
  rcases (h.exponent_le h' ht).lt_or_eq with hlt | heq
  · have hne : y.exponent ≠ minExponent := by
      have := h.least
      omega
    have hx : (x.mantissa : ℚ) ≤ 2 * fullMantissa := by exact_mod_cast h.mantissa_le
    have hy : (fullMantissa : ℚ) ≤ y.mantissa := by exact_mod_cast h'.le_mantissa hne
    have hstep : (2 : ℚ) * 2 ^ x.exponent ≤ 2 ^ y.exponent := by
      rw [← zpow_one_add₀ (by norm_num)]
      exact zpow_le_zpow_right₀ (by norm_num) (by omega)
    calc (x.mantissa : ℚ) * 2 ^ x.exponent
        ≤ 2 * fullMantissa * 2 ^ x.exponent := by gcongr
      _ = fullMantissa * (2 * 2 ^ x.exponent) := by ring
      _ ≤ y.mantissa * 2 ^ y.exponent := by gcongr
  · have hdiv : t / 2 ^ x.exponent ≤ t' / 2 ^ y.exponent := by
      rw [heq]
      gcongr
    have hle : (x.mantissa : ℚ) ≤ y.mantissa := by exact_mod_cast h.nearest.mono h'.nearest hdiv
    rw [heq]
    gcongr

/-! ## The carry -/

/-- With a mantissa one bit shorter if it is too long. -/
def carried (x : Magnitude) : Magnitude :=
  if x.mantissa = 2 * fullMantissa then ⟨fullMantissa, x.exponent + 1⟩ else x

theorem value_carried (x : Magnitude) : x.carried.value = x.value := by
  unfold carried
  split
  · rename_i h
    simp only [value, h, zpow_add_one₀ (show (2 : ℚ) ≠ 0 by norm_num)]
    push_cast
    ring
  · rfl

/-- What is asked for the result of rounding `t`, but that it is within the format. -/
structure Rounded (t : ℚ) (y : Magnitude) : Prop where
  mantissa : y.mantissa < 2 * fullMantissa
  full : y.exponent ≤ maxExponent ∨ fullMantissa ≤ y.mantissa
  carried : ∃ x, Rounds t x ∧ y = x.carried

theorem Rounds.carried {t : ℚ} {x : Magnitude} (h : Rounds t x) : Rounded t x.carried := by
  have hle := h.mantissa_le
  refine ⟨?_, ?_, x, h, rfl⟩
  · unfold Magnitude.carried
    split
    · change fullMantissa < 2 * fullMantissa
      decide
    · omega
  · unfold Magnitude.carried
    split
    · exact .inr (Nat.le_refl _)
    · by_cases he : x.exponent = minExponent
      · rw [he]
        exact .inl (by decide)
      · exact .inr (h.le_mantissa he)

theorem Rounded.value_le {t t' : ℚ} {x y : Magnitude} (h : Rounded t x) (h' : Rounded t' y)
    (ht : t ≤ t') : x.value ≤ y.value := by
  obtain ⟨x, hx, rfl⟩ := h.carried
  obtain ⟨y, hy, rfl⟩ := h'.carried
  rw [value_carried, value_carried]
  exact hx.value_le hy ht

/-- The smaller number is within the format if the greater is. -/
theorem Rounded.exponent_le {t t' : ℚ} {x y : Magnitude} (h : Rounded t x) (h' : Rounded t' y)
    (ht : t ≤ t') (hy : y.exponent ≤ maxExponent) : x.exponent ≤ maxExponent := by
  by_contra hgt
  have hx : (fullMantissa : ℚ) ≤ x.mantissa := by exact_mod_cast h.full.resolve_left hgt
  have hm : (y.mantissa : ℚ) < 2 * fullMantissa := by exact_mod_cast h'.mantissa
  have hle := h.value_le h' ht
  have hstep : (2 : ℚ) * 2 ^ y.exponent ≤ 2 ^ x.exponent := by
    rw [← zpow_one_add₀ (by norm_num)]
    exact zpow_le_zpow_right₀ (by norm_num) (by omega)
  have hlt : y.value < x.value :=
    calc y.value < 2 * fullMantissa * 2 ^ y.exponent := by
          unfold value
          gcongr
      _ = fullMantissa * (2 * 2 ^ y.exponent) := by ring
      _ ≤ x.value := by
          unfold value
          gcongr
  exact absurd hle (not_le.2 hlt)

/-! ## The magnitude nearest to a ratio -/

theorem ratio_lt (num : Nat) {den : Nat} (hden : 0 < den) :
    (num : ℚ) / den < 2 ^ (roughExponent num den + 54) := by
  have hnum : (num : ℚ) < 2 ^ ((num.log2 + 1 : Nat) : Int) := by
    rw [zpow_natCast]
    exact_mod_cast Nat.lt_log2_self
  have hle : (2 : ℚ) ^ (den.log2 : Int) ≤ den := by
    rw [zpow_natCast]
    exact_mod_cast Nat.log2_self_le hden.ne'
  have hpos : (0 : ℚ) < den := by exact_mod_cast hden
  rw [div_lt_iff₀ hpos]
  have hexp : ((num.log2 + 1 : Nat) : Int) ≤ roughExponent num den + 54 + den.log2 := by
    unfold roughExponent
    push_cast
    omega
  calc (num : ℚ) < 2 ^ ((num.log2 + 1 : Nat) : Int) := hnum
    _ ≤ 2 ^ (roughExponent num den + 54 + den.log2) := zpow_le_zpow_right₀ (by norm_num) hexp
    _ = 2 ^ (roughExponent num den + 54) * 2 ^ (den.log2 : Int) := zpow_add₀ (by norm_num) _ _
    _ ≤ 2 ^ (roughExponent num den + 54) * den := by gcongr

theorem le_ratio {num den : Nat} (hnum : num ≠ 0) (hden : 0 < den)
    (h : roughExponent num den ≠ minExponent) :
    (2 : ℚ) ^ (roughExponent num den + 52) ≤ num / den := by
  have hle : (2 : ℚ) ^ (num.log2 : Int) ≤ num := by
    rw [zpow_natCast]
    exact_mod_cast Nat.log2_self_le hnum
  have hlt : (den : ℚ) ≤ 2 ^ ((den.log2 + 1 : Nat) : Int) := by
    rw [zpow_natCast]
    exact_mod_cast Nat.lt_log2_self.le
  have hpos : (0 : ℚ) < den := by exact_mod_cast hden
  rw [le_div_iff₀ hpos]
  have hexp : roughExponent num den + 52 + ((den.log2 + 1 : Nat) : Int) = num.log2 := by
    unfold roughExponent at h ⊢
    push_cast
    omega
  calc (2 : ℚ) ^ (roughExponent num den + 52) * den
      ≤ 2 ^ (roughExponent num den + 52) * 2 ^ ((den.log2 + 1 : Nat) : Int) := by gcongr
    _ = 2 ^ (num.log2 : Int) := by rw [← zpow_add₀ (by norm_num), hexp]
    _ ≤ num := hle

/-- The whole part at an exponent reaches a bound if the ratio does. -/
theorem le_unscaled_iff {num den k : Nat} {e : Int} (hden : 0 < den) :
    (unscale num den e).1 / (unscale num den e).2 ≥ k ↔ (k : ℚ) ≤ num / den / 2 ^ e := by
  rw [← unscale_eq, ge_iff_le, ← not_iff_not, not_le, not_le]
  exact div_lt_iff (unscale_pos _ hden _)

/-- The exponent at which a ratio is rounded. -/
def exponentOf (num den : Nat) : Int :=
  let e := roughExponent num den
  if (unscale num den e).1 / (unscale num den e).2 ≥ 2 * fullMantissa then e + 1 else e

/-- A ratio rounded at its exponent. -/
def rounded (num den : Nat) : Magnitude :=
  let (n, d) := unscale num den (exponentOf num den)
  ⟨roundDiv n d, exponentOf num den⟩

theorem rounds_rounded {num den : Nat} (hnum : num ≠ 0) (hden : 0 < den) :
    Rounds ((num : ℚ) / den) (rounded num den) := by
  have hlt := ratio_lt num hden
  have hle := le_ratio hnum hden
  have hleast : minExponent ≤ roughExponent num den := le_max_left _ _
  have hfull : (2 : ℚ) ^ 52 = fullMantissa := by norm_num [fullMantissa]
  have hnearest := nearest_roundDiv (unscale num den (exponentOf num den)).1
    (unscale_pos num hden (exponentOf num den))
  rw [unscale_eq] at hnearest
  refine ⟨hnearest, ?_, ?_, ?_⟩
  all_goals
    dsimp only [rounded, exponentOf]
    simp only [le_unscaled_iff hden, Nat.cast_mul, Nat.cast_ofNat]
    generalize roughExponent num den = e at *
    generalize (num : ℚ) / den = t at *
    split
  · rw [div_lt_iff₀ (by positivity), ← hfull]
    calc t < 2 ^ (e + 54) := hlt
      _ = 2 * 2 ^ 52 * 2 ^ (e + 1) := by
        rw [show e + 54 = 53 + (e + 1) by omega, zpow_add₀ (by norm_num)]
        norm_num
  · exact not_le.1 ‹_›
  · omega
  · exact hleast
  · rename_i hlong
    refine .inr ?_
    rw [le_div_iff₀ (by positivity)] at hlong ⊢
    calc (fullMantissa : ℚ) * 2 ^ (e + 1) = 2 * fullMantissa * 2 ^ e := by
          rw [zpow_add_one₀ (by norm_num)]
          ring
      _ ≤ t := hlong
  · by_cases he : e = minExponent
    · exact .inl he
    · refine .inr ?_
      rw [le_div_iff₀ (by positivity), ← hfull]
      calc (2 : ℚ) ^ 52 * 2 ^ e = 2 ^ (e + 52) := by
            rw [zpow_add₀ (by norm_num), mul_comm]
            norm_cast
        _ ≤ t := hle he

/-- The magnitude nearest to a ratio is what rounding gives, if that is within the format. -/
theorem ofRatio?_rounded (num : Nat) {den : Nat} (hden : 0 < den) :
    ∃ y, Rounded ((num : ℚ) / den) y ∧
      ofRatio? num den = if y.exponent > maxExponent then none else some y := by
  by_cases hnum : num = 0
  · subst hnum
    refine ⟨zero.carried, Rounds.carried ⟨⟨?_, ?_, fun _ => rfl⟩, ?_, le_rfl, .inl rfl⟩, rfl⟩
    · norm_num [zero]
    · norm_num [zero]
    · norm_num [fullMantissa]
  · refine ⟨_, (rounds_rounded hnum hden).carried, ?_⟩
    rw [ofRatio?, if_neg hnum]
    let p := if (rounded num den).mantissa = 2 * fullMantissa
      then (fullMantissa, (rounded num den).exponent + 1)
      else ((rounded num den).mantissa, (rounded num den).exponent)
    change (if p.2 > maxExponent then none else some (⟨p.1, p.2⟩ : Magnitude)) = _
    unfold carried p
    by_cases hcarry : (rounded num den).mantissa = 2 * fullMantissa
    · simp only [if_pos hcarry]
    · simp only [if_neg hcarry]

theorem bounded_ofRatio? {num den : Nat} {x : Magnitude} (h : ofRatio? num den = some x) :
    x.Bounded := by
  rcases Nat.eq_zero_or_pos den with rfl | hden
  · by_cases hnum : num = 0
    · subst hnum
      cases h
      exact bounded_zero
    · have hround : ∀ n, roundDiv n 0 ≤ 1 := by
        intro n
        unfold roundDiv
        dsimp only
        split <;> simp
      have hne : ∀ n, roundDiv n 0 ≠ 2 * fullMantissa := by
        intro n
        have := hround n
        unfold fullMantissa
        omega
      have hshort : ¬(0 ≥ 2 * fullMantissa) := by decide
      simp only [ofRatio?, if_neg hnum, unscale, Nat.zero_mul, Nat.div_zero, if_neg hshort,
        if_neg (hne _)] at h
      split at h
      · cases h
      · rename_i he
        cases h
        exact ⟨Nat.lt_of_le_of_lt (hround _) (by decide), not_lt.1 he⟩
  · obtain ⟨y, hy, heq⟩ := ofRatio?_rounded num hden
    rw [heq] at h
    split at h
    · cases h
    · rename_i he
      cases h
      exact ⟨hy.mantissa, not_lt.1 he⟩

/-- A smaller ratio is within the format if a greater one is, and what it is rounded to is not
greater. -/
theorem ofRatio?_mono {num den num' den' : Nat} {y : Magnitude} (hden : 0 < den) (hden' : 0 < den')
    (hle : (num : ℚ) / den ≤ num' / den') (h : ofRatio? num' den' = some y) :
    ∃ x, ofRatio? num den = some x ∧ x.value ≤ y.value := by
  obtain ⟨x, hx, heq⟩ := ofRatio?_rounded num hden
  obtain ⟨y', hy, heq'⟩ := ofRatio?_rounded num' hden'
  rw [heq'] at h
  split at h
  · cases h
  · rename_i he
    cases h
    have hexp := hx.exponent_le hy hle (not_lt.1 he)
    exact ⟨x, by rw [heq, if_neg (not_lt.2 hexp)], hx.value_le hy hle⟩

end Fleet.Magnitude
