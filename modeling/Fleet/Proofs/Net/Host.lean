import Mathlib.Data.List.Forall2
import Fleet.Net.Host
import Fleet.Proofs.Text

/-!
# Addresses as hosts

A host that is written as an address is that address: the four bytes between dots, any other form that
the URL standard reads as version 4, and the groups of version 6 in brackets.
-/

namespace Fleet.Net

open Text (splitOn)

/-! ## Lists of which something is read -/

theorem mapM_eq_some_iff {α β : Type} {f : α → Option β} {l : List α} {r : List β} :
    l.mapM f = some r ↔ List.Forall₂ (fun a b => f a = some b) l r := by
  constructor
  · intro h
    induction l generalizing r with
    | nil =>
        cases h
        exact .nil
    | cons a l ih =>
        rw [List.mapM_cons] at h
        obtain ⟨b, hb, h⟩ := Option.bind_eq_some_iff.1 h
        obtain ⟨bs, hbs, h⟩ := Option.bind_eq_some_iff.1 h
        cases h
        exact .cons hb (ih hbs)
  · intro h
    induction h with
    | nil => rfl
    | cons hab _ ih =>
        rw [List.mapM_cons, hab, ih]
        rfl

theorem isSome_of_mapM {α β : Type} {f : α → Option β} {l : List α} {r : List β}
    (h : l.mapM f = some r) : ∀ a ∈ l, (f a).isSome = true := by
  have hall := mapM_eq_some_iff.1 h
  clear h
  induction hall with
  | nil => simp
  | cons hab _ ih => exact List.forall_mem_cons.2 ⟨Option.isSome_of_eq_some hab, ih⟩

theorem exists_getLast?_of_mapM {α β : Type} {f : α → Option β} {l : List α} {r : List β} {b : β}
    (h : l.mapM f = some r) (hb : r.getLast? = some b) : ∃ a, l.getLast? = some a ∧ f a = some b := by
  rcases List.eq_nil_or_concat l with rfl | ⟨front, a, rfl⟩
  · cases h
    cases hb
  · rw [List.concat_eq_append, List.mapM_append] at h
    obtain ⟨xs, -, h⟩ := Option.bind_eq_some_iff.1 h
    obtain ⟨ys, hys, h⟩ := Option.bind_eq_some_iff.1 h
    obtain ⟨y, hy, h'⟩ := Option.bind_eq_some_iff.1 hys
    cases h'
    cases h
    obtain rfl : y = b := by simpa using hb
    exact ⟨a, by simp, hy⟩

theorem mapM_map_of_eq {α β : Type} {f : α → Option β} {g : α → α} {l : List α}
    (h : ∀ a ∈ l, f (g a) = f a) : (l.map g).mapM f = l.mapM f := by
  induction l with
  | nil => rfl
  | cons a l ih =>
      simp only [List.mem_cons, forall_eq_or_imp] at h
      rw [List.map_cons, List.mapM_cons, List.mapM_cons, h.1, ih h.2]

/-! ## The characters of addresses -/

/-- What an address of version 4 may be written with. -/
def numberChars : List Char := "0123456789abcdefABCDEFxX.".toList

/-- What an address of version 6 may be written with. -/
def groupChars : List Char := ':' :: numberChars

/-- What holds of characters is looked up one by one. -/
theorem forall_of_all {P : Char → Prop} [DecidablePred P] {chars : List Char}
    (h : (chars.all fun c => decide (P c)) = true) : ∀ c ∈ chars, P c :=
  fun c hc => of_decide_eq_true (List.all_eq_true.1 h c hc)

theorem mem_numberChars_of_hexValue? {c : Char} (h : (Text.Percent.hexValue? c).isSome = true) :
    c ∈ numberChars := by
  have key : ∀ n < 128, (Text.Percent.hexValue? (Char.ofNat n)).isSome = true →
      Char.ofNat n ∈ numberChars := by decide
  have hlt : c.toNat < 128 := by
    refine Nat.lt_of_not_ge fun hge => ?_
    have hgt {d : Char} (hd : d.toNat < 128) : ¬c ≤ d := fun hle =>
      have hle : c.toNat ≤ d.toNat := UInt32.le_iff_toNat_le.1 (Char.le_def.1 hle)
      Nat.not_lt.2 (Nat.le_trans hge hle) hd
    have h9 := hgt (d := '9') (by decide)
    have hf := hgt (d := 'f') (by decide)
    have hF := hgt (d := 'F') (by decide)
    simp [Text.Percent.hexValue?, h9, hf, hF] at h
  have hc := key c.toNat hlt
  rw [Char.ofNat_toNat] at hc
  exact hc h

theorem hexValue?_of_isDigit {c : Char} (h : Text.isDigit c = true) :
    Text.Percent.hexValue? c = some (Text.digitValue c) := by
  unfold Text.isDigit at h
  unfold Text.Percent.hexValue?
  rw [if_pos h]
  rfl

theorem hexValue?_toLower : ∀ c ∈ numberChars,
    Text.Percent.hexValue? c.toLower = Text.Percent.hexValue? c := forall_of_all (by decide)

theorem subset_of_mapM_hexValue? {cs : List Char} {values : List Nat}
    (h : cs.mapM Text.Percent.hexValue? = some values) : cs ⊆ numberChars :=
  fun c hc => mem_numberChars_of_hexValue? (isSome_of_mapM h c hc)

namespace Host

/-! ## Numbers -/

variable {cs part : List Char} {bytes : List Nat} {n : Nat}

theorem subset_of_digitsIn? {base : Nat} (h : digitsIn? base cs = some n) : cs ⊆ numberChars := by
  obtain ⟨values, hvalues, -⟩ := Option.bind_eq_some_iff.1 h
  intro c hc
  obtain ⟨v, hv⟩ := Option.isSome_iff_exists.1 (isSome_of_mapM hvalues c hc)
  obtain ⟨hv, -⟩ := Option.filter_eq_some_iff.1 hv
  exact mem_numberChars_of_hexValue? (Option.isSome_of_eq_some hv)

theorem subset_of_number? (h : number? part = some n) : part ⊆ numberChars := by
  unfold number? at h
  split at h
  · cases h
  · exact List.cons_subset.2 ⟨by decide, List.cons_subset.2 ⟨by decide, subset_of_digitsIn? h⟩⟩
  · exact List.cons_subset.2 ⟨by decide, List.cons_subset.2 ⟨by decide, subset_of_digitsIn? h⟩⟩
  · exact List.cons_subset.2 ⟨by decide, subset_of_digitsIn? h⟩
  · exact subset_of_digitsIn? h

theorem digitsIn?_toLower (base : Nat) (h : cs ⊆ numberChars) :
    digitsIn? base (cs.map Char.toLower) = digitsIn? base cs := by
  unfold digitsIn?
  rw [mapM_map_of_eq fun c hc => by rw [hexValue?_toLower c (h hc)]]

/-- A number of one digit, or without a zero before it, is decimal. -/
theorem number?_of_decimal (hne : part ≠ []) (h : part.length = 1 ∨ part.head? ≠ some '0') :
    number? part = digitsIn? 10 part := by
  have hcons {c : Char} {rest : List Char} : part ≠ '0' :: c :: rest := by
    rintro rfl
    simp at h
  exact number?.eq_5 part hne (fun _ => hcons) (fun _ => hcons) fun _ _ => hcons

/-- The letters of a number may be capital. -/
theorem number?_toLower (h : part ⊆ numberChars) :
    number? (part.map Char.toLower) = number? part := by
  have hzero : ∀ c ∈ numberChars, c.toLower = '0' ↔ c = '0' := forall_of_all (by decide)
  have hx : ∀ c ∈ numberChars, c.toLower = 'x' ↔ c = 'x' ∨ c = 'X' := forall_of_all (by decide)
  have hX : ∀ c ∈ numberChars, c.toLower ≠ 'X' := forall_of_all (by decide)
  by_cases hdecimal : part.length = 1 ∨ part.head? ≠ some '0'
  · by_cases hne : part = []
    · subst hne
      rfl
    · rw [number?_of_decimal hne hdecimal, ← digitsIn?_toLower 10 h]
      refine number?_of_decimal (by simpa using hne) (hdecimal.imp (by simp) fun hhead hlower => ?_)
      obtain ⟨c, hc, hc0⟩ := Option.map_eq_some_iff.1 (List.head?_map ▸ hlower)
      exact hhead (hc.trans (congrArg some ((hzero c (h (List.mem_of_head? hc))).1 hc0)))
  · obtain ⟨hlength, hhead⟩ := not_or.1 hdecimal
    obtain ⟨rest, rfl⟩ : ∃ rest, part = '0' :: rest := by
      cases part <;> simp_all
    cases rest with
    | nil => exact absurd rfl hlength
    | cons d rest =>
        have hd : d ∈ numberChars := h (by simp)
        have hdigits : (d :: rest) ⊆ numberChars := fun c hc => h (List.mem_cons_of_mem _ hc)
        by_cases hdx : d = 'x' ∨ d = 'X'
        · have hlower : d.toLower = 'x' := (hx d hd).2 hdx
          simp only [List.map_cons, hlower]
          rcases hdx with rfl | rfl
          all_goals exact digitsIn?_toLower 16 fun c hc => hdigits (List.mem_cons_of_mem _ hc)
        · obtain ⟨hdx', hdX'⟩ := not_or.1 hdx
          rw [number?.eq_4 d rest hdx' hdX', ← digitsIn?_toLower 8 hdigits]
          exact number?.eq_4 _ _ (fun hlower => hdx ((hx d hd).1 hlower)) (hX d hd)

/-! ## Parts -/

theorem subset_of_mem_parts (h : part ∈ parts cs) : part ⊆ cs := by
  unfold parts at h
  dsimp only at h
  split at h
  · exact Text.subset_of_mem_splitOn (List.dropLast_subset _ h)
  · exact Text.subset_of_mem_splitOn h

theorem exists_mem_parts {c : Char} (hc : c ∈ cs) (hne : c ≠ '.') : ∃ part ∈ parts cs, c ∈ part := by
  obtain ⟨part, hpart, hmem⟩ := Text.exists_mem_splitOn hc hne
  refine ⟨part, ?_, hmem⟩
  unfold parts
  dsimp only
  split
  · -- The part that is left out is empty.
    rename_i h
    simp only [Bool.and_eq_true, decide_eq_true_eq] at h
    obtain ⟨front, hfront⟩ := List.getLast?_eq_some_iff.1 h.1
    rw [hfront, List.mem_append, List.mem_singleton] at hpart
    rw [hfront, List.dropLast_concat]
    exact hpart.resolve_right fun hempty => by simp [hempty] at hmem
  · exact hpart

theorem parts_toLower (h : cs ⊆ numberChars) :
    parts (cs.map Char.toLower) = (parts cs).map (List.map Char.toLower) := by
  have hdot : ∀ c ∈ numberChars, c.toLower = '.' ↔ c = '.' := forall_of_all (by decide)
  unfold parts
  rw [Text.splitOn_map fun c hc => hdot c (h hc)]
  simp only [List.getLast?_map, List.length_map, Option.map_eq_some_iff, List.map_eq_nil_iff,
    exists_eq_right, ← List.map_dropLast]
  split <;> rfl

/-! ## Version 4 -/

theorem subset_of_v4? (h : v4? cs = some bytes) : cs ⊆ numberChars := by
  obtain ⟨numbers, hnumbers, -⟩ := Option.bind_eq_some_iff.1 h
  intro c hc
  by_cases hdot : c = '.'
  · subst hdot
    decide
  · obtain ⟨part, hpart, hmem⟩ := exists_mem_parts hc hdot
    obtain ⟨n, hn⟩ := Option.isSome_iff_exists.1 (isSome_of_mapM hnumbers part hpart)
    exact subset_of_number? hn hmem

theorem v4?_toLower (h : cs ⊆ numberChars) : v4? (cs.map Char.toLower) = v4? cs := by
  unfold v4?
  rw [parts_toLower h,
    mapM_map_of_eq fun part hpart => number?_toLower (List.Subset.trans (subset_of_mem_parts hpart) h)]

theorem endsInNumber_of_v4? (h : v4? cs = some bytes) : endsInNumber cs = true := by
  obtain ⟨numbers, hnumbers, h⟩ := Option.bind_eq_some_iff.1 h
  obtain ⟨last, hlast, -⟩ := Option.bind_eq_some_iff.1 h
  obtain ⟨part, hpart, hn⟩ := exists_getLast?_of_mapM hnumbers hlast
  simp [endsInNumber, hpart, hn]

/-- What is written as an address of version 4 is no other name. -/
theorem domain_of_subset (h : cs ⊆ numberChars) : Domain.ofText? cs = some (cs.map Char.toLower) := by
  have hascii : ∀ c ∈ numberChars, Domain.isAscii c = true := forall_of_all (by decide)
  have hdash : ∀ c ∈ numberChars, c.toLower ≠ '-' := forall_of_all (by decide)
  have hforbidden : ∀ c ∈ numberChars, Domain.isForbidden c.toLower = false := forall_of_all (by decide)
  have hplain : Domain.isPlain cs = true := by
    simp only [Domain.isPlain, Bool.and_eq_true, List.all_eq_true, Bool.not_eq_true']
    refine ⟨fun c hc => hascii c (h hc), fun label hlabel => Bool.eq_false_iff.2 fun hmark => ?_⟩
    have hdashes : '-' ∈ label.map Char.toLower :=
      (List.isPrefixOf_iff_prefix.1 hmark).subset (by decide)
    obtain ⟨c, hc, hlower⟩ := List.mem_map.1 hdashes
    exact hdash c (h (Text.subset_of_mem_splitOn hlabel hc)) hlower
  rw [Domain.ofText?_of_isPlain hplain, if_neg]
  simp only [List.any_map, List.any_eq_true, Function.comp_apply, not_exists, not_and]
  exact fun c hc => by simp [hforbidden c (h hc)]

theorem decode_encode_of_subset (h : cs ⊆ numberChars) :
    Text.Utf8.decode? (Text.Percent.decode (Text.Utf8.encode cs)) = some cs := by
  have hascii : ∀ c ∈ numberChars, c.toNat ≤ 127 := forall_of_all (by decide)
  have hpercent : ∀ c ∈ numberChars, c.val.toUInt8 ≠ 0x25 := forall_of_all (by decide)
  have hle : ∀ c ∈ cs, c.toNat ≤ 127 := fun c hc => hascii c (h hc)
  rw [Text.Percent.decode_of_notMem, Text.Utf8.decode?_encode_of_le hle]
  rw [Text.Utf8.encode_of_le hle]
  intro hmem
  obtain ⟨c, hc, hbyte⟩ := List.mem_map.1 hmem
  exact hpercent c (h hc) hbyte

theorem ofText?_of_v4? (h : v4? cs = some bytes) : ofText? cs = some (.address (.v4 bytes)) := by
  have hsubset := subset_of_v4? h
  have hlower : v4? (cs.map Char.toLower) = some bytes := by rw [v4?_toLower hsubset, h]
  have hne : cs ≠ [] := by
    rintro rfl
    cases h
  have hbracket (rest : List Char) : cs ≠ '[' :: rest := by
    rintro rfl
    exact absurd (hsubset (List.mem_cons_self ..)) (by decide)
  rw [ofText?.eq_2 cs hbracket, decode_encode_of_subset hsubset]
  simp [domain_of_subset hsubset, hne, endsInNumber_of_v4? hlower, hlower]

/-! ## Four bytes -/

theorem digitsIn?_of_isDigit (h : ∀ c ∈ cs, Text.isDigit c = true) :
    digitsIn? 10 cs = some (Text.ofDigits cs) := by
  have hvalue {c : Char} (hc : Text.isDigit c = true) :
      (Text.Percent.hexValue? c).filter (· < 10) = some (Text.digitValue c) := by
    have hle : c.toNat ≤ '9'.toNat := by
      simp only [Text.isDigit, Bool.and_eq_true, decide_eq_true_eq] at hc
      exact UInt32.le_iff_toNat_le.1 (Char.le_def.1 hc.2)
    have hlt : Text.digitValue c < 10 := by
      unfold Text.digitValue
      simp at hle ⊢
      omega
    simp [hexValue?_of_isDigit hc, hlt]
  have hvalues : (cs.mapM fun c => (Text.Percent.hexValue? c).filter (· < 10))
      = some (cs.map Text.digitValue) := by
    rw [mapM_eq_some_iff, List.forall₂_map_right_iff, List.forall₂_same]
    exact fun c hc => hvalue (h c hc)
  unfold digitsIn?
  rw [hvalues]
  change some _ = _
  rw [List.foldl_map]
  rfl

theorem number?_of_byte? (h : byte? part = some n) : number? part = some n ∧ n ≤ 255 := by
  unfold byte? at h
  obtain ⟨m, hm, h⟩ := Option.bind_eq_some_iff.1 h
  split at h
  · rename_i hbyte
    cases h
    simp only [Bool.and_eq_true, Bool.or_eq_true, decide_eq_true_eq] at hbyte
    unfold Text.readNat? at hm
    split at hm
    · cases hm
    · rename_i hdigits
      cases hm
      simp only [Bool.or_eq_true, List.isEmpty_iff, Bool.not_eq_true', not_or, Bool.not_eq_false,
        List.all_eq_true] at hdigits
      rw [number?_of_decimal hdigits.1 hbyte.2, digitsIn?_of_isDigit hdigits.2]
      exact ⟨rfl, hbyte.1⟩
  · cases h

/-- Four bytes between dots are the address of these bytes. -/
theorem v4?_of_bytes (h : Net.v4? cs = some bytes) : v4? cs = some bytes := by
  obtain ⟨read, hread, h⟩ := Option.bind_eq_some_iff.1 h
  split at h
  · rename_i hlength
    cases h
    obtain ⟨a, b, c, d, rfl⟩ := List.length_eq_four.1 hlength
    have hall := (mapM_eq_some_iff.1 hread).imp fun _ _ => number?_of_byte?
    unfold v4? parts
    generalize splitOn '.' cs = ps at hall
    rcases hall with _ | ⟨ha, _ | ⟨hb, _ | ⟨hc, _ | ⟨hd, ⟨⟩⟩⟩⟩⟩
    rename_i p q r s
    have hs : s ≠ [] := by
      rintro rfl
      cases hd.1
    have hlast : d % 256 = d := Nat.mod_eq_of_lt (Nat.lt_succ_of_le hd.2)
    simp [ha, hb, hc, hd, hs, bytesOf, hlast, Nat.lt_succ_of_le hd.2]
  · cases h

end Host

/-! ## Version 6 -/

variable {cs part : List Char} {groups : List Nat} {n : Nat}

theorem subset_of_group? (h : group? part = some n) : part ⊆ numberChars := by
  obtain ⟨values, hvalues, -⟩ := Option.bind_eq_some_iff.1 h
  exact subset_of_mapM_hexValue? hvalues

theorem subset_of_groups? {parts : List (List Char)} (h : groups? parts = some groups) :
    ∀ part ∈ parts, part ⊆ numberChars := by
  fun_induction groups? parts generalizing groups with
  | case1 => simp
  | case2 last a b c d hv4 =>
      simpa using Host.subset_of_v4? (Host.v4?_of_bytes hv4)
  | case3 last hv4 =>
      obtain ⟨g, hg, -⟩ := Option.map_eq_some_iff.1 h
      simpa using subset_of_group? hg
  | case4 part parts _ ih =>
      obtain ⟨g, hg, h⟩ := Option.bind_eq_some_iff.1 h
      obtain ⟨gs, hgs, -⟩ := Option.bind_eq_some_iff.1 h
      exact List.forall_mem_cons.2 ⟨subset_of_group? hg, ih hgs⟩

theorem subset_of_colonParts (h : ∀ part ∈ colonParts cs, part ⊆ numberChars) : cs ⊆ groupChars := by
  unfold colonParts at h
  split at h
  · rename_i hempty
    simp [List.isEmpty_iff.1 hempty]
  · intro c hc
    by_cases hcolon : c = ':'
    · exact hcolon ▸ List.mem_cons_self ..
    · obtain ⟨part, hpart, hmem⟩ := Text.exists_mem_splitOn hc hcolon
      exact List.mem_cons_of_mem _ (h part hpart hmem)

theorem eq_of_cutColons? {before after : List Char} (h : cutColons? cs = some (before, after)) :
    cs = before ++ ':' :: ':' :: after := by
  fun_induction cutColons? cs generalizing before with
  | case1 rest =>
      cases h
      rfl
  | case2 c rest _ ih =>
      obtain ⟨⟨b, a⟩, hcut, heq⟩ := Option.map_eq_some_iff.1 h
      cases heq
      simp [ih hcut]
  | case3 => cases h

theorem subset_of_v6? (h : v6? cs = some groups) : cs ⊆ groupChars := by
  unfold v6? at h
  split at h
  · obtain ⟨hgroups, -⟩ := Option.filter_eq_some_iff.1 h
    exact subset_of_colonParts (subset_of_groups? hgroups)
  · rename_i before after hcut
    obtain ⟨head, hhead, h⟩ := Option.bind_eq_some_iff.1 h
    obtain ⟨tail, htail, -⟩ := Option.bind_eq_some_iff.1 h
    have hbefore : before ⊆ groupChars := subset_of_colonParts fun part hpart => by
      obtain ⟨g, hg⟩ := Option.isSome_iff_exists.1 (isSome_of_mapM hhead part hpart)
      exact subset_of_group? hg
    have hafter : after ⊆ groupChars := subset_of_colonParts (subset_of_groups? htail)
    have hcolon : ':' ∈ groupChars := List.mem_cons_self ..
    rw [eq_of_cutColons? hcut]
    exact List.append_subset.2
      ⟨hbefore, List.cons_subset.2 ⟨hcolon, List.cons_subset.2 ⟨hcolon, hafter⟩⟩⟩

theorem length_of_groups? (h : groups? [part] = some groups) : groups.length ≤ 2 := by
  unfold groups? at h
  split at h
  · cases h
    simp
  · obtain ⟨g, -, rfl⟩ := Option.map_eq_some_iff.1 h
    simp

/-- An address of version 6 has a colon, so that it is not taken for one of version 4. -/
theorem colon_mem_of_v6? (h : v6? cs = some groups) : ':' ∈ cs := by
  unfold v6? at h
  split at h
  · -- Without a colon there is one part, which makes two groups at most.
    obtain ⟨hgroups, hlength⟩ := Option.filter_eq_some_iff.1 h
    refine Classical.byContradiction fun hcolon => ?_
    have hparts : colonParts cs = [] ∨ colonParts cs = [cs] := by
      unfold colonParts
      split
      · exact .inl rfl
      · exact .inr (Text.splitOn_of_notMem hcolon)
    have hle : groups.length ≤ 2 := by
      rcases hparts with hparts | hparts
      · rw [hparts] at hgroups
        cases hgroups
        decide
      · rw [hparts] at hgroups
        exact length_of_groups? hgroups
    simp at hlength
    omega
  · rename_i before after hcut
    simp [eq_of_cutColons? hcut]

/-! ## Hosts -/

/-- The text of a host is an address: of version 4, or of version 6 in brackets. -/
inductive Host.Writes : List Char → Address → Prop where
  | v4 {cs : List Char} {bytes : List Nat} (h : Host.v4? cs = some bytes) : Writes cs (.v4 bytes)
  | v6 {cs : List Char} {groups : List Nat} (h : v6? cs = some groups) :
      Writes ('[' :: (cs ++ [']'])) (.v6 groups)

/-- What the host of an address may be written with. -/
def hostChars : List Char := '[' :: ']' :: groupChars

namespace Host.Writes

variable {host : List Char} {a : Address}

theorem subset (h : Writes host a) : host ⊆ hostChars := by
  have hgroup : groupChars ⊆ hostChars := fun c hc => by simp [hostChars, hc]
  have hnumber : numberChars ⊆ groupChars := fun c hc => by simp [groupChars, hc]
  cases h with
  | v4 h => exact List.Subset.trans (subset_of_v4? h) (List.Subset.trans hnumber hgroup)
  | v6 h =>
      refine List.cons_subset.2 ⟨by decide, List.append_subset.2 ⟨?_, by decide⟩⟩
      exact List.Subset.trans (subset_of_v6? h) hgroup

theorem ofText? (h : Writes host a) : Host.ofText? host = some (.address a) := by
  cases h with
  | v4 h => exact ofText?_of_v4? h
  | v6 h => simp [Host.ofText?, h]

end Host.Writes

end Fleet.Net
