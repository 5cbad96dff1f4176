import Fleet.Json.Number
import Fleet.Json.Printer
import Mathlib.Data.List.TakeWhile

/-!
# Numbers that are read as they were written

The text of a number ends where the digits, points and exponents end, whatever stands after it. Whole
numbers of 64 bits are read as they were written; of a number in floating point this is not known.
-/

namespace Fleet.Json

open Text

/-- What follows does not go on with a number. -/
def Ends (rest : List Char) : Prop :=
  ∀ c ∈ rest.head?, isDigit c = false ∧ c ≠ '.' ∧ c ≠ 'e' ∧ c ≠ 'E'

theorem ends_nil : Ends [] := fun _ h => nomatch h

theorem Ends.takeWhile {rest : List Char} (h : Ends rest) : rest.takeWhile isDigit = [] := by
  cases rest with
  | nil => rfl
  | cons c rest => simp [(h c rfl).1]

theorem Ends.dropWhile {rest : List Char} (h : Ends rest) : rest.dropWhile isDigit = rest := by
  cases rest with
  | nil => rfl
  | cons c rest => simp [(h c rfl).1]

theorem takeWhile_append_of_ends {rest : List Char} (h : Ends rest) (cs : List Char) :
    (cs ++ rest).takeWhile isDigit = cs.takeWhile isDigit := by
  induction cs with
  | nil => exact h.takeWhile
  | cons c cs ih => simp [List.takeWhile_cons, ih]

theorem dropWhile_append_of_ends {rest : List Char} (h : Ends rest) (cs : List Char) :
    (cs ++ rest).dropWhile isDigit = cs.dropWhile isDigit ++ rest := by
  induction cs with
  | nil => exact h.dropWhile
  | cons c cs ih =>
      by_cases hc : isDigit c = true
      · simp [hc, ih]
      · simp [hc]

namespace Number

variable {cs ds left rest : List Char} {c : Char}

/-! ## The first character of a part -/

theorem whole?_cons_of_ne (h : c ≠ '0') : whole? (c :: cs) = digits? (c :: cs) := by
  unfold whole?
  split
  · rename_i heq
    exact absurd (List.cons.inj heq).1 h
  · rfl

theorem fraction?_cons_of_ne (h : c ≠ '.') : fraction? (c :: cs) = some (none, c :: cs) := by
  unfold fraction?
  split
  · rename_i heq
    exact absurd (List.cons.inj heq).1 h
  · rfl

theorem power?_cons_of_ne (he : c ≠ 'e') (hE : c ≠ 'E') : power? (c :: cs) = some (none, c :: cs) := by
  simp [power?, he, hE]

theorem power?_cons (h : c = 'e' ∨ c = 'E') : power? (c :: cs) = signedPower? cs := by
  simp [power?, h]

theorem signedPower?_cons_of_ne (hm : c ≠ '-') (hp : c ≠ '+') :
    signedPower? (c :: cs) = powerDigits? false (c :: cs) := by
  unfold signedPower?
  split
  · rename_i heq
    exact absurd (List.cons.inj heq).1 hm
  · rename_i heq
    exact absurd (List.cons.inj heq).1 hp
  · rfl

theorem split?_cons_of_ne (h : c ≠ '-') : split? (c :: cs) = unsigned? false (c :: cs) := by
  unfold split?
  split
  · rename_i heq
    exact absurd (List.cons.inj heq).1 h
  · rfl

/-! ## The end of a number -/

theorem digits?_append (hr : Ends rest) (h : digits? cs = some (ds, left)) :
    digits? (cs ++ rest) = some (ds, left ++ rest) := by
  unfold digits? at h ⊢
  rw [takeWhile_append_of_ends hr, dropWhile_append_of_ends hr]
  split at h
  · cases h
  · cases h
    rfl

theorem whole?_append (hr : Ends rest) (h : whole? cs = some (ds, left)) :
    whole? (cs ++ rest) = some (ds, left ++ rest) := by
  cases cs with
  | nil => cases h
  | cons c cs =>
      by_cases hc : c = '0'
      · subst hc
        simp only [whole?, List.cons_append] at h ⊢
        have hhead : (cs ++ rest).head?.any isDigit = cs.head?.any isDigit := by
          cases cs with
          | nil =>
              cases rest with
              | nil => rfl
              | cons c rest => exact (hr c rfl).1
          | cons c cs => rfl
        rw [hhead]
        split at h
        · cases h
        · rename_i hany
          cases h
          rw [if_neg hany]
      · rw [whole?_cons_of_ne hc] at h
        rw [List.cons_append, whole?_cons_of_ne hc]
        exact digits?_append hr h

theorem fraction?_append {f : Option (List Char)} (hr : Ends rest)
    (h : fraction? cs = some (f, left)) : fraction? (cs ++ rest) = some (f, left ++ rest) := by
  cases cs with
  | nil =>
      cases h
      cases rest with
      | nil => rfl
      | cons c rest => exact fraction?_cons_of_ne (hr c rfl).2.1
  | cons c cs =>
      by_cases hc : c = '.'
      · subst hc
        simp only [fraction?, List.cons_append, Option.map_eq_some_iff, Prod.exists] at h ⊢
        obtain ⟨ds, left', hd, he⟩ := h
        cases he
        exact ⟨ds, _, digits?_append hr hd, rfl⟩
      · rw [fraction?_cons_of_ne hc] at h
        cases h
        exact fraction?_cons_of_ne hc

theorem powerDigits?_append {negative : Bool} {e : Option Int} (hr : Ends rest)
    (h : powerDigits? negative cs = some (e, left)) :
    powerDigits? negative (cs ++ rest) = some (e, left ++ rest) := by
  unfold powerDigits? at h ⊢
  rw [Option.map_eq_some_iff] at h
  obtain ⟨⟨ds, left'⟩, hd, he⟩ := h
  cases he
  rw [digits?_append hr hd]
  rfl

theorem signedPower?_append {e : Option Int} (hr : Ends rest) (h : signedPower? cs = some (e, left)) :
    signedPower? (cs ++ rest) = some (e, left ++ rest) := by
  cases cs with
  | nil => cases h
  | cons c cs =>
      by_cases hm : c = '-'
      · subst hm
        exact powerDigits?_append hr h
      · by_cases hp : c = '+'
        · subst hp
          exact powerDigits?_append hr h
        · rw [signedPower?_cons_of_ne hm hp] at h
          rw [List.cons_append, signedPower?_cons_of_ne hm hp]
          exact powerDigits?_append hr h

theorem power?_append {e : Option Int} (hr : Ends rest) (h : power? cs = some (e, left)) :
    power? (cs ++ rest) = some (e, left ++ rest) := by
  cases cs with
  | nil =>
      cases h
      cases rest with
      | nil => rfl
      | cons c rest => exact power?_cons_of_ne (hr c rfl).2.2.1 (hr c rfl).2.2.2
  | cons c cs =>
      by_cases hc : c = 'e' ∨ c = 'E'
      · rw [power?_cons hc] at h
        rw [List.cons_append, power?_cons hc]
        exact signedPower?_append hr h
      · have hc := not_or.1 hc
        rw [power?_cons_of_ne hc.1 hc.2] at h
        cases h
        exact power?_cons_of_ne hc.1 hc.2

theorem unsigned?_append {negative : Bool} {p : Parts} (hr : Ends rest)
    (h : unsigned? negative cs = some (p, left)) :
    unsigned? negative (cs ++ rest) = some (p, left ++ rest) := by
  simp only [unsigned?, Option.bind_eq_bind, Option.bind_eq_some_iff, Prod.exists] at h ⊢
  obtain ⟨whole, cs₁, h₁, fraction, cs₂, h₂, power, cs₃, h₃, he⟩ := h
  cases he
  exact ⟨whole, _, whole?_append hr h₁, fraction, _, fraction?_append hr h₂, power, _,
    power?_append hr h₃, rfl⟩

theorem split?_append {p : Parts} (hr : Ends rest) (h : split? cs = some (p, left)) :
    split? (cs ++ rest) = some (p, left ++ rest) := by
  cases cs with
  | nil => cases h
  | cons c cs =>
      by_cases hc : c = '-'
      · subst hc
        exact unsigned?_append hr h
      · rw [split?_cons_of_ne hc] at h
        rw [List.cons_append, split?_cons_of_ne hc]
        exact unsigned?_append hr h

/-- A number may begin with the character: it is a sign or a digit. -/
abbrev Leads (c : Char) : Prop := c = '-' ∨ isDigit c = true

theorem Leads.ne {d : Char} (h : Leads c) (hd : ¬Leads d) : c ≠ d := by
  rintro rfl
  exact hd h

theorem exists_of_split? {p : Parts} (h : split? cs = some (p, left)) :
    ∃ c rest, cs = c :: rest ∧ Leads c := by
  cases cs with
  | nil => cases h
  | cons c cs =>
      refine ⟨c, cs, rfl, ?_⟩
      by_cases hc : c = '-'
      · exact .inl hc
      · by_cases hd : isDigit c = true
        · exact .inr hd
        · rw [split?_cons_of_ne hc] at h
          have h0 : c ≠ '0' := by
            rintro rfl
            exact hd rfl
          have hdigits : digits? (c :: cs) = none := by simp [digits?, hd]
          simp [unsigned?, whole?_cons_of_ne h0, hdigits] at h

/-! ## Reading back -/

/-- The number that a whole text writes. -/
def read? (cs : List Char) : Option Number :=
  match split? cs with
  | some (parts, []) => parts.value?
  | _ => none

/-- The number is read as it was written. -/
def IsStable (n : Number) : Prop := read? n.chars = some n

instance (n : Number) : Decidable n.IsStable := inferInstanceAs (Decidable (_ = _))

theorem head?_natDigits {n : Nat} (h : (natDigits n).head? = some '0') : n = 0 := by
  induction n using Nat.strongRecOn with
  | ind n ih =>
      unfold natDigits at h
      rw [Nat.toDigits_eq_if (by decide)] at h
      split at h
      · rename_i hlt
        have hzero : n.digitChar = '0' := by simpa using h
        have := Nat.toNat_digitChar_sub_48_of_lt_ten hlt
        rw [hzero] at this
        exact this.symm
      · rename_i hle
        have hhead : (natDigits (n / 10)).head? = some '0' := by
          rw [List.head?_append] at h
          change ((natDigits (n / 10)).head?.or _) = _ at h
          cases hd : natDigits (n / 10) with
          | nil => exact absurd hd (natDigits_ne_nil _)
          | cons c cs =>
              rw [hd] at h
              exact h
        have := ih (n / 10) (by omega) hhead
        omega

theorem digits?_natDigits (n : Nat) : digits? (natDigits n) = some (natDigits n, []) := by
  have hall : ∀ c ∈ natDigits n, isDigit c = true := fun c hc => isDigit_of_mem_natDigits hc
  unfold digits?
  rw [List.takeWhile_eq_self_iff.2 hall, List.dropWhile_eq_nil_iff.2 hall]
  split
  · rename_i hnil
    exact absurd hnil (natDigits_ne_nil n)
  · rfl

theorem whole?_natDigits (n : Nat) : whole? (natDigits n) = some (natDigits n, []) := by
  have hd := digits?_natDigits n
  cases hn : natDigits n with
  | nil => exact absurd hn (natDigits_ne_nil n)
  | cons c cs =>
      by_cases hc : c = '0'
      · subst hc
        have : n = 0 := head?_natDigits (by rw [hn]; rfl)
        subst this
        cases hn
        rfl
      · rw [whole?_cons_of_ne hc, ← hn]
        exact hd

theorem unsigned?_natDigits (negative : Bool) (n : Nat) :
    unsigned? negative (natDigits n) = some (⟨negative, natDigits n, none, none⟩, []) := by
  simp only [unsigned?, whole?_natDigits]
  rfl

theorem le_ofDigitChars (ds : List Char) (n : Nat) : n ≤ Nat.ofDigitChars 10 ds n := by
  induction ds generalizing n with
  | nil => simp
  | cons c ds ih =>
      rw [Nat.ofDigitChars_cons]
      have := ih (10 * n + (c.toNat - '0'.toNat))
      omega

/-- Digits of a number that fits are all taken. -/
theorem absorb_eq {n : Nat} (h : Nat.ofDigitChars 10 ds n ≤ maxNat64) :
    absorb n ds = (Nat.ofDigitChars 10 ds n, []) := by
  induction ds generalizing n with
  | nil => simp [absorb]
  | cons c ds ih =>
      rw [Nat.ofDigitChars_cons] at h ⊢
      have hle := le_ofDigitChars ds (10 * n + (c.toNat - '0'.toNat))
      have hfits : 10 * n + digitValue c ≤ maxNat64 := Nat.le_trans hle h
      simp only [absorb, hfits, if_true]
      exact ih h

theorem absorb_natDigits {n : Nat} (h : n ≤ maxNat64) : absorb 0 (natDigits n) = (n, []) := by
  have hn : Nat.ofDigitChars 10 (natDigits n) 0 = n := ofDigits_natDigits n
  rw [absorb_eq (by omega), hn]

theorem split?_natDigits (n : Nat) :
    split? (natDigits n) = some (⟨false, natDigits n, none, none⟩, []) := by
  cases hn : natDigits n with
  | nil => exact absurd hn (natDigits_ne_nil n)
  | cons c cs =>
      have hc : c ≠ '-' := by
        rintro rfl
        have := isDigit_of_mem_natDigits (n := n) (c := '-') (by rw [hn]; exact List.mem_cons_self)
        exact absurd this (by decide)
      rw [split?_cons_of_ne hc, ← hn]
      exact unsigned?_natDigits false n

/-- A whole number is stable if it fits in 64 bits, with a sign or without. -/
theorem isStable_int {i : Int} (hlow : minInt64 ≤ i) (hhigh : i ≤ maxNat64) :
    (Number.int i).IsStable := by
  cases i with
  | ofNat n =>
      have hn : n ≤ maxNat64 := by simpa using hhigh
      simp only [IsStable, read?, chars, intDigits, split?_natDigits, Parts.value?,
        absorb_natDigits hn]
      rfl
  | negSucc n =>
      have hle : n + 1 ≤ 9223372036854775808 := by
        unfold minInt64 at hlow
        omega
      have hn : n + 1 ≤ maxNat64 := by
        unfold maxNat64
        omega
      have hsmall : ¬(((n + 1 : Nat) : Int) > -minInt64) := by
        unfold minInt64
        omega
      have hsplit : split? ('-' :: natDigits (n + 1))
          = some (⟨true, natDigits (n + 1), none, none⟩, []) := unsigned?_natDigits true _
      simp only [IsStable, read?, chars, intDigits, hsplit, Parts.value?, absorb_natDigits hn]
      rw [if_neg (by simp), if_neg (by simp), if_neg (by simpa using hsmall)]
      rfl

end Number

end Fleet.Json
