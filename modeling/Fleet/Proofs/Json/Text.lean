import Fleet.Json.Decoder
import Fleet.Proofs.Json.Reread
import Mathlib.Tactic.SplitIfs

/-!
# Text that is read as the value it was printed from

A value whose numbers are read as numbers is read back whole, but for its numbers, and what stands
after its text is left alone.
-/

namespace Fleet.Json

open Text

variable {s : String} {cs rest : List Char}

/-! ## Strings -/

theorem hexValue?_hexDigit : ∀ n < 16, Percent.hexValue? (hexDigit n) = some n := by decide

theorem hex4?_low {n : Nat} (h : n < 0x20) :
    hex4? ['0', '0', hexDigit (n / 16), hexDigit (n % 16)] = some (n, []) := by
  have hzero : Percent.hexValue? '0' = some 0 := by decide
  simp only [hex4?, hzero, hexValue?_hexDigit (n / 16) (by omega),
    hexValue?_hexDigit (n % 16) (by omega), Option.bind_eq_bind, Option.bind_some]
  simp only [Option.pure_def, Option.some.injEq, Prod.mk.injEq, and_true]
  omega

/-- One piece is read before the others. -/
def Piece.before (p : Piece) : Option (List Piece × List Char) → Option (List Piece × List Char) :=
  Option.map fun (ps, rest) => (p :: ps, rest)

theorem pieces?_escaped {e c : Char} (h : escaped? e = some c) :
    pieces? ('\\' :: e :: rest) = Piece.before (.char c) (pieces? rest) := by
  have hu : e ≠ 'u' := by
    rintro rfl
    cases h
  rw [pieces?]
  · simp only [h, Option.bind_eq_bind, Option.bind_some]
    cases pieces? rest <;> rfl
  · intro _ _ _ _ _ heq
    exact absurd heq hu

theorem pieces?_unit {n : Nat} (h : n < 0x20) :
    pieces? ('\\' :: 'u' :: '0' :: '0' :: hexDigit (n / 16) :: hexDigit (n % 16) :: rest)
      = Piece.before (.unit n) (pieces? rest) := by
  rw [pieces?, hex4?_low h]
  cases pieces? rest <;> rfl

theorem pieces?_plain {c : Char} (hq : c ≠ '"') (hb : c ≠ '\\') (hc : ¬c.toNat < 0x20) :
    pieces? (c :: rest) = Piece.before (.char c) (pieces? rest) := by
  rw [pieces?]
  · rw [if_neg (by simp [hb, hc])]
    cases pieces? rest <;> rfl
  · exact fun h => hq h
  · intro _ _ _ _ _ h
    exact absurd h hb
  · intro _ _ h
    exact absurd h hb

theorem joined?_unit {n : Nat} (h : n < 0x20) (ps : List Piece) :
    joined? (.unit n :: ps) = (joined? ps).map (Char.ofNat n :: ·) := by
  have hlead : isLead n = false := by simp [isLead]; omega
  have htrail : isTrail n = false := by simp [isTrail]; omega
  rw [joined?.eq_def]
  simp [hlead, htrail]

/-- An escaped character is one piece that stands for it. -/
theorem pieces?_escape (c : Char) (rest : List Char) :
    ∃ p, pieces? (escape c ++ rest) = Piece.before p (pieces? rest) ∧
      ∀ ps, joined? (p :: ps) = (joined? ps).map (c :: ·) := by
  unfold escape
  split_ifs with h₁ h₂ h₃ h₄ h₅ h₆ h₇ h₈
  · subst h₁
    exact ⟨_, pieces?_escaped rfl, fun _ => rfl⟩
  · subst h₂
    exact ⟨_, pieces?_escaped rfl, fun _ => rfl⟩
  · subst h₃
    exact ⟨_, pieces?_escaped rfl, fun _ => rfl⟩
  · subst h₄
    exact ⟨_, pieces?_escaped rfl, fun _ => rfl⟩
  · subst h₅
    exact ⟨_, pieces?_escaped rfl, fun _ => rfl⟩
  · subst h₆
    exact ⟨_, pieces?_escaped rfl, fun _ => rfl⟩
  · subst h₇
    exact ⟨_, pieces?_escaped rfl, fun _ => rfl⟩
  · refine ⟨_, pieces?_unit h₈, fun ps => ?_⟩
    rw [joined?_unit h₈, Char.ofNat_toNat]
  · exact ⟨_, pieces?_plain h₁ h₂ h₈, fun _ => rfl⟩

theorem pieces?_flatMap (cs rest : List Char) :
    ∃ ps, pieces? (cs.flatMap escape ++ '"' :: rest) = some (ps, rest) ∧ joined? ps = some cs := by
  induction cs with
  | nil => exact ⟨[], rfl, rfl⟩
  | cons c cs ih =>
      obtain ⟨ps, hps, hjoin⟩ := ih
      obtain ⟨p, hp, hjoined⟩ := pieces?_escape c (cs.flatMap escape ++ '"' :: rest)
      refine ⟨p :: ps, ?_, ?_⟩
      · rw [List.flatMap_cons, List.append_assoc, hp, hps]
        rfl
      · rw [hjoined, hjoin]
        rfl

theorem string?_quoted (s : String) (rest : List Char) :
    string? (s.toList.flatMap escape ++ '"' :: rest) = some (some s, rest) := by
  obtain ⟨ps, hps, hjoin⟩ := pieces?_flatMap s.toList rest
  simp [string?, hps, hjoin]

/-! ## Values -/

mutual

/-- Every number in the value is read as it was written. -/
def IsStable : Json → Prop
  | .number n => n.IsStable
  | .array items => ItemsStable items
  | .object members => MembersStable members
  | _ => True

def ItemsStable : List Json → Prop
  | [] => True
  | j :: rest => j.IsStable ∧ ItemsStable rest

def MembersStable : List (String × Json) → Prop
  | [] => True
  | (_, j) :: rest => j.IsStable ∧ MembersStable rest

end

mutual

theorem isStable_iff : (j : Json) → (j.IsStable ↔ j.All Number.IsStable)
  | .null | .bool _ | .string _ | .number _ => Iff.rfl
  | .array items => itemsStable_iff items
  | .object members => membersStable_iff members

theorem itemsStable_iff : (l : List Json) → (ItemsStable l ↔ ItemsAll Number.IsStable l)
  | [] => Iff.rfl
  | j :: l => and_congr (isStable_iff j) (itemsStable_iff l)

theorem membersStable_iff :
    (l : List (String × Json)) → (MembersStable l ↔ MembersAll Number.IsStable l)
  | [] => Iff.rfl
  | (_, j) :: l => and_congr (isStable_iff j) (membersStable_iff l)

end

theorem ends_comma : Ends (',' :: rest) := by
  rintro c ⟨⟩
  decide

theorem ends_bracket : Ends (']' :: rest) := by
  rintro c ⟨⟩
  decide

theorem ends_brace : Ends ('\x7d' :: rest) := by
  rintro c ⟨⟩
  decide

theorem ends_items (l : List Json) : Ends (itemsChars l ++ ']' :: rest) := by
  cases l with
  | nil => exact ends_bracket
  | cons j l => exact ends_comma

theorem ends_members (l : List (String × Json)) : Ends (membersChars l ++ '\x7d' :: rest) := by
  cases l with
  | nil => exact ends_brace
  | cons e l => exact ends_comma

theorem skipSpaces_cons {c : Char} (h : isSpace c = false) : skipSpaces (c :: cs) = c :: cs := by
  simp [skipSpaces, h]

theorem isSpace_of_leads {c : Char} (h : Number.Leads c) : isSpace c = false := by
  have hc : c ≠ ' ' ∧ c ≠ '\t' ∧ c ≠ '\n' ∧ c ≠ '\r' :=
    ⟨h.ne (by decide), h.ne (by decide), h.ne (by decide), h.ne (by decide)⟩
  simp [isSpace, hc]

theorem exists_chars {j : Json} (h : j.All Number.IsReadable) :
    ∃ c cs, j.chars = c :: cs ∧ isSpace c = false ∧ c ≠ ']' := by
  match j with
  | .null => exact ⟨_, _, rfl, rfl, by decide⟩
  | .bool true => exact ⟨_, _, rfl, rfl, by decide⟩
  | .bool false => exact ⟨_, _, rfl, rfl, by decide⟩
  | .string _ => exact ⟨_, _, rfl, rfl, by decide⟩
  | .array [] => exact ⟨_, _, rfl, rfl, by decide⟩
  | .array (_ :: _) => exact ⟨_, _, rfl, rfl, by decide⟩
  | .object [] => exact ⟨_, _, rfl, rfl, by decide⟩
  | .object (_ :: _) => exact ⟨_, _, rfl, rfl, by decide⟩
  | .number n =>
      obtain ⟨_, hp, _⟩ := Number.IsReadable.split? h
      obtain ⟨c, cs, heq, hc⟩ := Number.exists_of_split? hp
      exact ⟨c, cs, heq, isSpace_of_leads hc, hc.ne (by decide)⟩

theorem readValue_number {c : Char} (h : Number.Leads c) (fuel : Nat) :
    readValue (fuel + 1) (c :: cs)
      = match Number.split? (c :: cs) with
        | some (parts, rest) => (.number parts.value?, rest)
        | none => (.fault, []) := by
  rw [readValue, skipSpaces_cons (isSpace_of_leads h)]
  split
  case h_1 heq => cases heq
  case h_2 heq => exact absurd (List.cons.inj heq).1 (h.ne (by decide))
  case h_3 heq => exact absurd (List.cons.inj heq).1 (h.ne (by decide))
  case h_4 heq => exact absurd (List.cons.inj heq).1 (h.ne (by decide))
  case h_5 heq => exact absurd (List.cons.inj heq).1 (h.ne (by decide))
  case h_6 heq => exact absurd (List.cons.inj heq).1 (h.ne (by decide))
  case h_7 heq => exact absurd (List.cons.inj heq).1 (h.ne (by decide))
  case h_8 => rfl

theorem readValue_array {c : Char} (hs : isSpace c = false) (hc : c ≠ ']') (fuel : Nat) :
    readValue (fuel + 1) ('[' :: c :: cs)
      = (.array (readItems fuel (c :: cs)).1, (readItems fuel (c :: cs)).2) := by
  rw [readValue, skipSpaces_cons rfl]
  simp only [skipSpaces_cons hs]
  split
  · rename_i heq
    exact absurd (List.cons.inj heq).1 hc
  · rfl

theorem readValue_object (fuel : Nat) :
    readValue (fuel + 1) ('\x7b' :: '"' :: cs)
      = (.object (readMembers fuel ('"' :: cs)).1, (readMembers fuel ('"' :: cs)).2) := by
  rw [readValue, skipSpaces_cons rfl]
  simp [skipSpaces_cons (show isSpace '"' = false from rfl)]

theorem readValue_string (s : String) (fuel : Nat) (rest : List Char) :
    readValue (fuel + 1) (quoted s ++ rest) = (.string (some s), rest) := by
  have h : quoted s ++ rest = '"' :: (s.toList.flatMap escape ++ '"' :: rest) := by simp [quoted]
  rw [h, readValue, skipSpaces_cons rfl]
  simp [string?_quoted]

variable {fuel : Nat} {v : Reading} {left : List Char}

theorem readItems_last (h : readValue fuel cs = (v, ']' :: rest)) :
    readItems (fuel + 1) cs = (.item v .done, rest) := by
  rw [readItems, h]
  simp [skipSpaces_cons (show isSpace ']' = false from rfl)]

theorem readItems_comma {items : Items} (h : readValue fuel cs = (v, ',' :: left))
    (hitems : readItems fuel left = (items, rest)) :
    readItems (fuel + 1) cs = (.item v items, rest) := by
  rw [readItems, h]
  simp [skipSpaces_cons (show isSpace ',' = false from rfl), hitems]

theorem readMembers_last (key : String) (h : readValue fuel cs = (v, '\x7d' :: rest)) :
    readMembers (fuel + 1) (quoted key ++ ':' :: cs) = (.member (some key) v .done, rest) := by
  have hq : quoted key ++ ':' :: cs = '"' :: (key.toList.flatMap escape ++ '"' :: ':' :: cs) := by
    simp [quoted]
  rw [hq, readMembers, skipSpaces_cons rfl]
  simp [string?_quoted, skipSpaces_cons (show isSpace ':' = false from rfl), h,
    skipSpaces_cons (show isSpace '\x7d' = false from rfl)]

theorem readMembers_comma (key : String) {members : Members}
    (h : readValue fuel cs = (v, ',' :: left)) (hmembers : readMembers fuel left = (members, rest)) :
    readMembers (fuel + 1) (quoted key ++ ':' :: cs) = (.member (some key) v members, rest) := by
  have hq : quoted key ++ ':' :: cs = '"' :: (key.toList.flatMap escape ++ '"' :: ':' :: cs) := by
    simp [quoted]
  rw [hq, readMembers, skipSpaces_cons rfl]
  simp [string?_quoted, skipSpaces_cons (show isSpace ':' = false from rfl), h,
    skipSpaces_cons (show isSpace ',' = false from rfl), hmembers]

/-! ## Reading back

The fuel is compared with the length of the text: each level and each item takes a character. -/

theorem exists_fuel {fuel n : Nat} (h : n < fuel) : ∃ m, fuel = m + 1 := ⟨fuel - 1, by omega⟩

mutual

theorem readValue_chars {fuel : Nat} {rest : List Char} :
    (j : Json) → j.All Number.IsReadable → Ends rest → j.chars.length < fuel →
      readValue fuel (j.chars ++ rest) = (j.reread.toReading, rest)
  | .null, _, _, hf => by
    obtain ⟨fuel, rfl⟩ := exists_fuel hf
    rfl
  | .bool true, _, _, hf => by
    obtain ⟨fuel, rfl⟩ := exists_fuel hf
    rfl
  | .bool false, _, _, hf => by
    obtain ⟨fuel, rfl⟩ := exists_fuel hf
    rfl
  | .number n, h, hr, hf => by
    obtain ⟨fuel, rfl⟩ := exists_fuel hf
    obtain ⟨p, hp, hv⟩ := Number.IsReadable.split? h
    obtain ⟨c, cs, heq, hc⟩ := Number.exists_of_split? hp
    have hsplit := Number.split?_append hr hp
    rw [heq, List.cons_append] at hsplit
    change readValue (fuel + 1) (n.chars ++ rest) = (.number (some n.reread), rest)
    rw [heq, List.cons_append, readValue_number hc, hsplit]
    simp [hv]
  | .string s, _, _, hf => by
    obtain ⟨fuel, rfl⟩ := exists_fuel hf
    exact readValue_string s fuel rest
  | .array [], _, _, hf => by
    obtain ⟨fuel, rfl⟩ := exists_fuel hf
    rfl
  | .array (j :: l), h, _, hf => by
    simp only [chars, List.length_cons, List.length_append] at hf
    obtain ⟨fuel, rfl⟩ : ∃ n, fuel = n + 2 := ⟨fuel - 2, by omega⟩
    have hj : readValue fuel (j.chars ++ (itemsChars l ++ ']' :: rest))
        = (j.reread.toReading, itemsChars l ++ ']' :: rest) :=
      readValue_chars j h.1 (ends_items l) (by omega)
    have hitems := readItems_after l h.2 (by omega) hj
    obtain ⟨c, cs, heq, hc, hne⟩ := exists_chars h.1
    have htext : (Json.array (j :: l)).chars ++ rest
        = '[' :: (j.chars ++ (itemsChars l ++ ']' :: rest)) := by simp [chars]
    rw [htext]
    rw [heq, List.cons_append] at hitems ⊢
    rw [readValue_array hc hne, hitems]
    rfl
  | .object [], _, _, hf => by
    obtain ⟨fuel, rfl⟩ := exists_fuel hf
    rfl
  | .object ((key, j) :: l), h, _, hf => by
    simp only [chars, List.length_cons, List.length_append] at hf
    obtain ⟨fuel, rfl⟩ : ∃ n, fuel = n + 2 := ⟨fuel - 2, by omega⟩
    have hj : readValue fuel (j.chars ++ (membersChars l ++ '\x7d' :: rest))
        = (j.reread.toReading, membersChars l ++ '\x7d' :: rest) :=
      readValue_chars j h.1 (ends_members l) (by omega)
    have hmembers := readMembers_after key l h.2 (by omega) hj
    have htext : (Json.object ((key, j) :: l)).chars ++ rest
        = '\x7b' :: (quoted key ++ ':' :: (j.chars ++ (membersChars l ++ '\x7d' :: rest))) := by
      simp [chars]
    rw [htext]
    rw [quoted, List.cons_append] at hmembers ⊢
    rw [readValue_object, hmembers]
    rfl

theorem readItems_after {fuel : Nat} {v : Reading} {cs rest : List Char} :
    (l : List Json) → ItemsAll Number.IsReadable l → (itemsChars l).length < fuel →
      readValue fuel cs = (v, itemsChars l ++ ']' :: rest) →
      readItems (fuel + 1) cs = (.item v (toItems (mapItems Number.reread l)), rest)
  | [], _, _, h => readItems_last h
  | j :: l, hl, hf, h => by
    simp only [itemsChars, List.length_cons, List.length_append] at hf
    obtain ⟨fuel, rfl⟩ : ∃ n, fuel = n + 1 := ⟨fuel - 1, by omega⟩
    have hj : readValue fuel (j.chars ++ (itemsChars l ++ ']' :: rest))
        = (j.reread.toReading, itemsChars l ++ ']' :: rest) :=
      readValue_chars j hl.1 (ends_items l) (by omega)
    have hrest := readItems_after l hl.2 (by omega) hj
    refine readItems_comma ?_ hrest
    rw [h, itemsChars, List.cons_append, List.append_assoc]

theorem readMembers_after {fuel : Nat} {v : Reading} {cs rest : List Char} (key : String) :
    (l : List (String × Json)) → MembersAll Number.IsReadable l → (membersChars l).length < fuel →
      readValue fuel cs = (v, membersChars l ++ '\x7d' :: rest) →
      readMembers (fuel + 1) (quoted key ++ ':' :: cs)
        = (.member (some key) v (toMembers (mapMembers Number.reread l)), rest)
  | [], _, _, h => readMembers_last key h
  | (k, j) :: l, hl, hf, h => by
    simp only [membersChars, List.length_cons, List.length_append] at hf
    obtain ⟨fuel, rfl⟩ : ∃ n, fuel = n + 1 := ⟨fuel - 1, by omega⟩
    have hj : readValue fuel (j.chars ++ (membersChars l ++ '\x7d' :: rest))
        = (j.reread.toReading, membersChars l ++ '\x7d' :: rest) :=
      readValue_chars j hl.1 (ends_members l) (by omega)
    have hrest := readMembers_after k l hl.2 (by omega) hj
    refine readMembers_comma key ?_ hrest
    rw [h, membersChars]
    simp only [List.cons_append, List.append_assoc]

end

theorem ofText_chars {j : Json} (h : j.All Number.IsReadable) :
    Reading.ofText j.chars = (j.reread.toReading, []) := by
  have hread : readValue (j.chars.length + 1) (j.chars ++ []) = (j.reread.toReading, []) :=
    readValue_chars j h ends_nil (Nat.lt_succ_self _)
  rwa [List.append_nil] at hread

/-- What is decoded from the text of a value is decoded from the value with its numbers read again. -/
theorem decode_render {α : Type} {j : Json} (h : j.All Number.IsReadable) (d : Decoder α) :
    decode d j.render = d.ofJson j.reread := by
  unfold decode Decoder.ofJson
  rw [render, String.toList_ofList, ofText_chars h]
  dsimp only
  cases d .start j.reread.toReading <;> rfl

end Fleet.Json
