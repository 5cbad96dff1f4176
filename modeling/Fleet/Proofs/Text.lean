import Fleet.Text.Blank
import Fleet.Text.Decimal
import Fleet.Text.Percent
import Fleet.Text.Split

/-!
# Texts

Texts of ASCII characters as bytes and back, the parts of a text that was split, blanks at the ends of a
text, and which texts are numbers.
-/

namespace Fleet.Text

/-! ## Parts -/

variable {separator c : Char} {cs part : List Char}

theorem subset_of_mem_splitOn (h : part ∈ splitOn separator cs) : part ⊆ cs := by
  induction cs generalizing part with
  | nil =>
      simp only [splitOn, List.mem_singleton] at h
      simp [h]
  | cons c cs ih =>
      simp only [splitOn] at h
      split at h
      · rcases List.mem_cons.1 h with rfl | h
        · simp
        · exact List.subset_cons_of_subset c (ih h)
      · split at h
        · simp [List.mem_singleton.1 h]
        · rename_i first parts heq
          rw [heq] at ih
          rcases List.mem_cons.1 h with rfl | h
          · exact List.cons_subset_cons c (ih (List.mem_cons_self ..))
          · exact List.subset_cons_of_subset c (ih (List.mem_cons_of_mem _ h))

/-- A character that does not separate stands in one of the parts. -/
theorem exists_mem_splitOn (hc : c ∈ cs) (hne : c ≠ separator) :
    ∃ part ∈ splitOn separator cs, c ∈ part := by
  induction cs with
  | nil => simp at hc
  | cons d cs ih =>
      simp only [splitOn]
      rcases List.mem_cons.1 hc with rfl | hc
      · rw [if_neg hne]
        split
        · exact ⟨_, List.mem_cons_self .., List.mem_cons_self ..⟩
        · exact ⟨_, List.mem_cons_self .., List.mem_cons_self ..⟩
      · obtain ⟨part, hpart, hmem⟩ := ih hc
        split
        · exact ⟨part, List.mem_cons_of_mem _ hpart, hmem⟩
        · split
          · rename_i heq
            exact absurd heq (splitOn_ne_nil _ _)
          · rename_i first parts heq
            rw [heq] at hpart
            rcases List.mem_cons.1 hpart with rfl | hpart
            · exact ⟨_, List.mem_cons_self .., List.mem_cons_of_mem _ hmem⟩
            · exact ⟨part, List.mem_cons_of_mem _ hpart, hmem⟩

/-- A change of characters that keeps the separators apart changes the parts. -/
theorem splitOn_map {f : Char → Char} (h : ∀ c ∈ cs, f c = separator ↔ c = separator) :
    splitOn separator (cs.map f) = (splitOn separator cs).map (List.map f) := by
  induction cs with
  | nil => rfl
  | cons c cs ih =>
      simp only [List.mem_cons, forall_eq_or_imp] at h
      simp only [List.map_cons, splitOn, h.1, ih h.2]
      split
      · rfl
      · cases splitOn separator cs <;> rfl

theorem splitOn_of_notMem (h : separator ∉ cs) : splitOn separator cs = [cs] := by
  induction cs with
  | nil => rfl
  | cons c cs ih =>
      simp only [List.mem_cons, not_or] at h
      simp only [splitOn, if_neg (Ne.symm h.1), ih h.2]

theorem cut?_append (h : separator ∉ cs) (rest : List Char) :
    cut? separator (cs ++ separator :: rest) = some (cs, rest) := by
  induction cs with
  | nil => simp [cut?]
  | cons c cs ih =>
      simp only [List.mem_cons, not_or] at h
      simp [cut?, if_neg (Ne.symm h.1), ih h.2]

theorem cut?_of_notMem (h : separator ∉ cs) : cut? separator cs = none := by
  induction cs with
  | nil => rfl
  | cons c cs ih =>
      simp only [List.mem_cons, not_or] at h
      simp [cut?, if_neg (Ne.symm h.1), ih h.2]

/-! ## Blanks -/

variable {before after : List Char}

theorem trimStart_append (h : ∀ c ∈ before, isBlank c = true) (cs : List Char) :
    trimStart (before ++ cs) = trimStart cs :=
  List.dropWhile_append_of_pos h

theorem trimStart_of_forall (h : ∀ c ∈ cs, isBlank c = false) : trimStart cs = cs := by
  cases cs with
  | nil => rfl
  | cons c cs => exact List.dropWhile_cons_of_neg (by simp [h c (List.mem_cons_self ..)])

theorem trimEnd_eq (cs : List Char) : trimEnd cs = (trimStart cs.reverse).reverse := rfl

theorem trimEnd_append (h : ∀ c ∈ after, isBlank c = true) (cs : List Char) :
    trimEnd (cs ++ after) = trimEnd cs := by
  have hreverse : ∀ c ∈ after.reverse, isBlank c = true := fun c hc => h c (List.mem_reverse.1 hc)
  rw [trimEnd_eq, List.reverse_append, trimStart_append hreverse, trimEnd_eq]

/-- Blanks around a text are not seen. -/
theorem trim_append (hbefore : ∀ c ∈ before, isBlank c = true) (hafter : ∀ c ∈ after, isBlank c = true)
    (cs : List Char) : trim (before ++ cs ++ after) = trim cs := by
  have hstart : trimStart (cs ++ after)
      = if (trimStart cs).isEmpty then trimStart after else trimStart cs ++ after :=
    List.dropWhile_append
  rw [List.append_assoc, trim, trimStart_append hbefore, hstart, trim]
  split
  · rename_i hempty
    have hnil : trimStart after = [] := by
      rw [← List.append_nil after, trimStart_append hafter]
      rfl
    rw [hnil, List.isEmpty_iff.1 hempty]
  · exact trimEnd_append hafter _

theorem trim_of_forall (h : ∀ c ∈ cs, isBlank c = false) : trim cs = cs := by
  have hreverse : ∀ c ∈ cs.reverse, isBlank c = false := fun c hc => h c (List.mem_reverse.1 hc)
  rw [trim, trimStart_of_forall h, trimEnd_eq, trimStart_of_forall hreverse, List.reverse_reverse]

/-! ## Numbers -/

theorem isBlank_of_isDigit (h : isDigit c = true) : isBlank c = false := by
  simp only [isDigit, Bool.and_eq_true, decide_eq_true_eq] at h
  have hlow : 48 ≤ c.toNat := h.1
  have hhigh : c.toNat ≤ 57 := h.2
  simp only [isBlank, Bool.or_eq_false_iff, Bool.and_eq_false_iff, decide_eq_false_iff_not,
    beq_eq_false_iff_ne]
  omega

/-- What follows the plus sign that may stand before a number. -/
def unsigned : List Char → List Char
  | '+' :: cs => cs
  | cs => cs

theorem readUnsigned?_eq (max : Nat) (cs : List Char) :
    readUnsigned? max cs = (readNat? (unsigned cs)).filter (· ≤ max) := by
  unfold readUnsigned?
  fun_cases unsigned cs with
  | case1 cs => rfl
  | case2 cs h =>
      dsimp only
      split
      · exact absurd rfl (h _)
      · rfl

theorem mem_unsigned (h : c ∈ cs) (hc : c ≠ '+') : c ∈ unsigned cs := by
  fun_cases unsigned cs with
  | case1 cs => exact List.mem_of_ne_of_mem hc h
  | case2 cs _ => exact h

theorem unsigned_natDigits (n : Nat) : unsigned (natDigits n) = natDigits n := by
  refine unsigned.eq_2 _ fun cs h => ?_
  have hplus : isDigit '+' = true := isDigit_of_mem_natDigits (n := n) (by simp [h])
  exact absurd hplus (by decide)

theorem readUnsigned?_natDigits {max n : Nat} (h : n ≤ max) :
    readUnsigned? max (natDigits n) = some n := by
  simp [readUnsigned?_eq, unsigned_natDigits, readNat?_natDigits, h]

theorem readNat?_eq_none_iff : readNat? cs = none ↔ cs = [] ∨ ∃ c ∈ cs, isDigit c = false := by
  rw [Decidable.or_iff_not_imp_left]
  simp [readNat?]

theorem eq_of_readNat? {n : Nat} (h : readNat? cs = some n) : n = ofDigits cs := by
  unfold readNat? at h
  split at h
  · cases h
  · exact (Option.some.inj h).symm

/-- The text is no number up to `max`: it has no digits, or more than digits, or it exceeds `max`. -/
theorem readUnsigned?_eq_none_iff {max : Nat} : readUnsigned? max cs = none ↔
    unsigned cs = [] ∨ (∃ c ∈ unsigned cs, isDigit c = false) ∨ max < ofDigits (unsigned cs) := by
  rw [readUnsigned?_eq, ← or_assoc, ← readNat?_eq_none_iff]
  cases h : readNat? (unsigned cs) with
  | none => simp
  | some n => simp [eq_of_readNat? h]

/-! ## Bytes -/

namespace Utf8

theorem encode_cons (c : Char) (cs : List Char) :
    encode (c :: cs) = String.utf8EncodeChar c ++ encode cs := rfl

theorem utf8EncodeChar_of_le {c : Char} (h : c.toNat ≤ 127) :
    String.utf8EncodeChar c = [c.val.toUInt8] :=
  String.utf8EncodeChar_eq_singleton (Char.utf8Size_eq_one_iff.mpr h)

/-- A longer form leads with a byte that is not ASCII. -/
theorem toNat_le_of_utf8EncodeChar {c : Char} (h : ∀ b ∈ String.utf8EncodeChar c, b.toNat ≤ 127) :
    c.toNat ≤ 127 := by
  by_cases hc : c.val.toNat ≤ 127
  · exact hc
  simp only [String.utf8EncodeChar, hc, ↓reduceIte] at h
  split at h
  · have hlead := h _ (List.mem_cons_self ..)
    simp only [UInt8.toNat_ofNat'] at hlead
    omega
  split at h
  all_goals
    have hlead := h _ (List.mem_cons_self ..)
    simp only [UInt8.toNat_ofNat'] at hlead
    omega

/-- The bytes of a text of ASCII characters, one for each. -/
theorem encode_of_le {cs : List Char} (h : ∀ c ∈ cs, c.toNat ≤ 127) :
    encode cs = cs.map fun c => c.val.toUInt8 := by
  induction cs with
  | nil => rfl
  | cons c cs ih =>
      simp only [List.mem_cons, forall_eq_or_imp] at h
      rw [encode_cons, utf8EncodeChar_of_le h.1, ih h.2]
      rfl

theorem toNat_toUInt8 {c : Char} (h : c.toNat ≤ 127) : c.val.toUInt8.toNat = c.toNat := by
  rw [UInt32.toNat_toUInt8]
  exact Nat.mod_eq_of_lt (Nat.lt_of_le_of_lt h (by decide))

theorem front_of_le {c : Char} (h : c.toNat ≤ 127) (rest : List UInt8) :
    front c.val.toUInt8 rest = (some c, 0) := by
  unfold front
  rw [toNat_toUInt8 h, if_pos (Nat.lt_succ_of_le h), Char.ofNat_toNat]

/-- A text of ASCII characters is read back from its bytes. -/
theorem decode?_encode_of_le {cs : List Char} (h : ∀ c ∈ cs, c.toNat ≤ 127) :
    decode? (encode cs) = some cs := by
  rw [encode_of_le h, decode?]
  induction cs with
  | nil => rfl
  | cons c cs ih =>
      simp only [List.mem_cons, forall_eq_or_imp] at h
      simp only [List.map_cons, List.length_cons, pieces, front_of_le h.1, List.drop_zero,
        List.mapM_cons, ih h.2]
      rfl

end Utf8

/-- Bytes without the mark stand for themselves. -/
theorem Percent.decode_of_notMem {bytes : List UInt8} (h : 0x25 ∉ bytes) : decode bytes = bytes := by
  fun_induction decode bytes with
  | case1 => simp at h
  | case2 => simp at h
  | case3 b rest _ ih =>
      rw [ih fun hb => h (List.mem_cons_of_mem _ hb)]
  | case4 => rfl

end Fleet.Text
