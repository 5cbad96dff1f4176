import Mathlib.Data.List.TakeDrop
import Mathlib.Data.List.TakeWhile
import Fleet.Net.Location
import Fleet.Proofs.Net.Host

/-!
# References and the hosts they lead to

A reference either stays at the host of the URL that it is resolved against, whatever is in it, or
leads to a place that does not depend on that host. Which of the two it does can be seen at its front.
-/

namespace Fleet.Net

namespace Url

variable {cs rest : List Char} {u base : Url}

/-! ## The URL of an address -/

theorem clean_of_lt (h : ∀ c ∈ cs, 0x20 < c.toNat) : clean cs = cs := by
  have hdrop : ∀ l : List Char, (∀ c ∈ l, 0x20 < c.toNat) →
      l.dropWhile (fun c => decide (c.toNat ≤ 0x20)) = l := by
    intro l hl
    cases l with
    | nil => rfl
    | cons c l =>
        rw [List.dropWhile_cons_of_neg]
        simpa using hl c (List.mem_cons_self ..)
  unfold clean
  dsimp only
  rw [hdrop cs h, hdrop cs.reverse fun c hc => h c (List.mem_reverse.1 hc), List.reverse_reverse]
  refine List.filter_eq_self.2 fun c hc => ?_
  have hlt := h c hc
  simp only [ne_eq, Bool.and_eq_true, decide_eq_true_eq]
  refine ⟨⟨?_, ?_⟩, ?_⟩
  all_goals
    rintro rfl
    exact absurd hlt (by decide)

theorem scheme?_http (rest : List Char) :
    scheme? ('h' :: 't' :: 't' :: 'p' :: ':' :: rest) = some (['h', 't', 't', 'p'], rest) := rfl

/-- Characters that are no brackets, and no colons outside of brackets, belong to the host. -/
theorem cutPort_append {inBrackets : Bool}
    (h : ∀ c ∈ cs, c ≠ '[' ∧ c ≠ ']' ∧ (c = ':' → inBrackets = true)) :
    cutPort inBrackets (cs ++ rest)
      = (cs ++ (cutPort inBrackets rest).1, (cutPort inBrackets rest).2) := by
  induction cs with
  | nil => rfl
  | cons c cs ih =>
      simp only [List.mem_cons, forall_eq_or_imp] at h
      obtain ⟨⟨hopen, hclose, hcolon⟩, hcs⟩ := h
      rw [List.cons_append, cutPort, if_neg (by simpa using hcolon), if_neg hopen, if_neg hclose,
        ih hcs]
      rfl

/-- A host that writes an address ends where the port begins. -/
theorem cutPort_of_writes {host : List Char} {a : Address} (h : Host.Writes host a)
    (digits : List Char) : cutPort false (host ++ ':' :: digits) = (host, some digits) := by
  have hport : cutPort false (':' :: digits) = ([], some digits) := rfl
  cases h with
  | v4 h =>
      have hchars : ∀ c ∈ numberChars, c ≠ '[' ∧ c ≠ ']' ∧ (c = ':' → false = true) := forall_of_all (by decide)
      rw [cutPort_append fun c hc => hchars c (Host.subset_of_v4? h hc), hport, List.append_nil]
  | @v6 cs groups h =>
      have hchars : ∀ c ∈ groupChars, c ≠ '[' ∧ c ≠ ']' ∧ (c = ':' → true = true) := forall_of_all (by decide)
      have hclose : cutPort true (']' :: ':' :: digits) = ([']'], some digits) := rfl
      have hinside : cutPort true (cs ++ ']' :: ':' :: digits) = (cs ++ [']'], some digits) := by
        rw [cutPort_append fun c hc => hchars c (subset_of_v6? h hc), hclose]
      have hstep : cutPort false ('[' :: (cs ++ [']']) ++ ':' :: digits)
          = ('[' :: (cutPort true (cs ++ ']' :: ':' :: digits)).1,
            (cutPort true (cs ++ ']' :: ':' :: digits)).2) := by
        rw [List.cons_append, List.append_assoc]
        rfl
      rw [hstep, hinside]

theorem cutUser_of_notMem (h : '@' ∉ cs) : cutUser cs = ([], cs) := by
  unfold cutUser
  rw [Text.cut?_of_notMem (by simpa using h)]

theorem cutAuthority_of_forall (h : ∀ c ∈ cs, (isSlash c || c = '?' || c = '#') = false) :
    cutAuthority cs = (cs, []) := by
  unfold cutAuthority
  rw [List.span_eq_takeWhile_dropWhile, List.takeWhile_eq_self_iff.2, List.dropWhile_eq_nil_iff.2]
  all_goals exact fun c hc => by simpa using h c hc

theorem subset_of_writes {host : List Char} {a : Address} (h : Host.Writes host a) (port : Nat) :
    host ++ ':' :: Text.natDigits port ⊆ hostChars := by
  refine List.append_subset.2 ⟨h.subset, List.cons_subset.2 ⟨by decide, fun c hc => ?_⟩⟩
  have hdigit := hexValue?_of_isDigit (Text.isDigit_of_mem_natDigits hc)
  have hnumber := mem_numberChars_of_hexValue? (Option.isSome_of_eq_some hdigit)
  simp [hostChars, groupChars, hnumber]

/-- The address and the port stand in the URL as they are written. -/
theorem ofAuthority?_of_writes {host : List Char} {a : Address} (h : Host.Writes host a)
    (scheme : List Char) (default port : Nat) :
    ofAuthority? scheme default (host ++ ':' :: Text.natDigits port)
      = if port ≤ 65535 then some { scheme, host := .address a, port, path := [[]] } else none := by
  have hsubset := subset_of_writes h port
  have hend : ∀ c ∈ hostChars, (isSlash c || c = '?' || c = '#') = false := forall_of_all (by decide)
  have hat : '@' ∉ hostChars := by decide
  have hport : portNumber? (some (Text.natDigits port))
      = if port ≤ 65535 then some (some port) else none := by
    have hread : portNumber? (some (Text.natDigits port))
        = ((Text.readNat? (Text.natDigits port)).filter (· ≤ 65535)).map some :=
      portNumber?.eq_3 _ fun hnil => Text.natDigits_ne_nil port hnil
    rw [hread, Text.readNat?_natDigits]
    by_cases hle : port ≤ 65535 <;> simp [hle, Nat.lt_of_not_le]
  unfold ofAuthority?
  rw [cutAuthority_of_forall fun c hc => hend c (hsubset hc)]
  dsimp only
  rw [cutUser_of_notMem fun hc => hat (hsubset hc)]
  dsimp only
  rw [cutPort_of_writes h]
  dsimp only
  rw [h.ofText?, hport]
  split <;> rfl

/-- The URL of an address and a port is at this address and this port. -/
theorem ofText?_http {host : List Char} {a : Address} (h : Host.Writes host a) (port : Nat) :
    Location.ofText? ("http://".toList ++ host ++ ':' :: Text.natDigits port)
      = if port ≤ 65535 then
          some { scheme := ['h', 't', 't', 'p'], host := .address a, port, path := [[]] }
        else none := by
  have hsubset := subset_of_writes h port
  have hprinted : ∀ c ∈ "http://".toList ++ hostChars, 0x20 < c.toNat := forall_of_all (by decide)
  have hslash : ∀ c ∈ hostChars, isSlash c = false := forall_of_all (by decide)
  generalize hcs : host ++ ':' :: Text.natDigits port = cs at hsubset
  have htext : "http://".toList ++ host ++ ':' :: Text.natDigits port
      = 'h' :: 't' :: 't' :: 'p' :: ':' :: '/' :: '/' :: cs := by
    rw [List.append_assoc, hcs]
    rfl
  have hclean : clean ('h' :: 't' :: 't' :: 'p' :: ':' :: '/' :: '/' :: cs)
      = 'h' :: 't' :: 't' :: 'p' :: ':' :: '/' :: '/' :: cs := by
    refine clean_of_lt fun c hc => hprinted c ?_
    change c ∈ "http://".toList ++ cs at hc
    exact List.mem_append.2 ((List.mem_append.1 hc).imp_right fun hmem => hsubset hmem)
  have hslashes : ('/' :: '/' :: cs).dropWhile isSlash = cs := by
    cases cs with
    | nil => rfl
    | cons c cs =>
        change (c :: cs).dropWhile isSlash = c :: cs
        exact List.dropWhile_cons_of_neg (by simp [hslash c (hsubset (List.mem_cons_self ..))])
  have habsolute : Location.absolute? ['h', 't', 't', 'p'] ('/' :: '/' :: cs)
      = (ofAuthority? ['h', 't', 't', 'p'] 80 cs).map .web := by
    change (ofAuthority? _ 80 (('/' :: '/' :: cs).dropWhile isSlash)).map Location.web = _
    rw [hslashes]
  rw [htext, Location.ofText?, hclean, scheme?_http]
  dsimp only
  rw [habsolute, ← hcs, ofAuthority?_of_writes h]
  by_cases hle : port ≤ 65535 <;> simp [hle]

/-! ## Schemes -/

/-- A scheme at the front stays there. -/
theorem exists_clean_http (rest : List Char) :
    ∃ rest', clean ('h' :: 't' :: 't' :: 'p' :: ':' :: rest)
      = 'h' :: 't' :: 't' :: 'p' :: ':' :: rest' := by
  have hfront : ∀ l : List Char, ∃ l', ((l ++ [':', 'p', 't', 't', 'h']).dropWhile fun c =>
      decide (c.toNat ≤ 0x20)) = l' ++ [':', 'p', 't', 't', 'h'] := fun l => by
    rw [List.dropWhile_append]
    split
    · exact ⟨[], rfl⟩
    · exact ⟨_, rfl⟩
  obtain ⟨l, hl⟩ := hfront rest.reverse
  have hinner : ((('h' :: 't' :: 't' :: 'p' :: ':' :: rest).dropWhile fun c =>
      decide (c.toNat ≤ 0x20)).reverse.dropWhile fun c => decide (c.toNat ≤ 0x20)).reverse
      = 'h' :: 't' :: 't' :: 'p' :: ':' :: l.reverse := by
    rw [List.dropWhile_cons_of_neg (by decide)]
    simp only [List.reverse_cons, List.append_assoc, List.cons_append, List.nil_append]
    rw [hl]
    simp
  unfold clean
  dsimp only
  rw [hinner]
  exact ⟨_, rfl⟩

theorem scheme_ofAuthority? {scheme : List Char} {default : Nat}
    (h : ofAuthority? scheme default cs = some u) : u.scheme = scheme := by
  obtain ⟨host, -, h⟩ := Option.bind_eq_some_iff.1 h
  obtain ⟨port, -, h⟩ := Option.bind_eq_some_iff.1 h
  cases h
  rfl

theorem scheme_ofText?_http (h : Location.ofText? ("http://".toList ++ rest) = some u) :
    u.scheme = ['h', 't', 't', 'p'] := by
  obtain ⟨rest', hclean⟩ := exists_clean_http ('/' :: '/' :: rest)
  change Location.ofText? ('h' :: 't' :: 't' :: 'p' :: ':' :: '/' :: '/' :: rest) = some u at h
  rw [Location.ofText?, hclean, scheme?_http] at h
  dsimp only at h
  split at h
  · rename_i url habsolute
    cases h
    obtain ⟨found, hfound, heq⟩ := Option.map_eq_some_iff.1 habsolute
    cases heq
    exact scheme_ofAuthority? hfound
  · cases h

/-! ## References -/

/-- The reference leads to a host of its own: it has two slashes at its front or behind the scheme, or
another scheme. -/
def namesHost (scheme reference : List Char) : Bool :=
  match scheme? (clean reference) with
  | none => 2 ≤ ((clean reference).takeWhile isSlash).length
  | some (own, rest) => own ≠ scheme || 2 ≤ (rest.takeWhile isSlash).length

theorem two_le_slashes_iff : 2 ≤ (cs.takeWhile isSlash).length
    ↔ ∃ c d rest, cs = c :: d :: rest ∧ isSlash c = true ∧ isSlash d = true := by
  constructor
  · intro h
    match cs, h with
    | [c], h => exact absurd h (by rw [List.takeWhile_cons]; split <;> simp)
    | c :: d :: rest, h =>
      by_cases hc : isSlash c = true
      · by_cases hd : isSlash d = true
        · exact ⟨c, d, rest, rfl, hc, hd⟩
        · simp [hc, hd] at h
      · simp [hc] at h
  · rintro ⟨c, d, rest, rfl, hc, hd⟩
    simp [hc, hd]

/-- The URL is at the host of another. -/
structure SharesHost (u base : Url) : Prop where
  scheme : u.scheme = base.scheme
  user : u.user = base.user
  host : u.host = base.host
  port : u.port = base.port

theorem withPath_sharesHost (base : Url) (start : List (List Char)) (cs : List Char) :
    (base.withPath start cs).SharesHost base := ⟨rfl, rfl, rfl, rfl⟩

theorem relative?_sharesHost (base : Url) (h : (cs.takeWhile isSlash).length < 2) :
    ∃ u, base.relative? cs = some u ∧ u.SharesHost base := by
  unfold relative?
  split
  · exact ⟨_, rfl, rfl, rfl, rfl, rfl⟩
  · exact ⟨_, rfl, rfl, rfl, rfl, rfl⟩
  · exact ⟨_, rfl, rfl, rfl, rfl, rfl⟩
  · rename_i c rest _ _
    split
    · rename_i hc
      have hrest : rest.head?.any isSlash = false := by
        cases rest with
        | nil => rfl
        | cons d rest =>
            refine Bool.eq_false_iff.2 fun hd => Nat.not_le.2 h ?_
            exact two_le_slashes_iff.2 ⟨c, d, rest, rfl, hc, hd⟩
      rw [if_neg (Bool.eq_false_iff.1 hrest)]
      exact ⟨_, rfl, withPath_sharesHost ..⟩
    · exact ⟨_, rfl, withPath_sharesHost ..⟩

/-- Behind two slashes nothing but the scheme of the base matters. -/
theorem relative?_of_slashes {base' : Url} (hscheme : base'.scheme = base.scheme)
    (h : 2 ≤ (cs.takeWhile isSlash).length) : base'.relative? cs = base.relative? cs := by
  obtain ⟨c, d, rest, rfl, hc, hd⟩ := two_le_slashes_iff.1 h
  have hhash : c ≠ '#' := by
    rintro rfl
    cases hc
  have hquestion : c ≠ '?' := by
    rintro rfl
    cases hc
  have hrelative (b : Url) : b.relative? (c :: d :: rest)
      = (defaultPorts.lookup b.scheme).bind fun default =>
          ofAuthority? b.scheme default (afterSlashes (c :: d :: rest)) := by
    rw [relative?.eq_4 b c (d :: rest) hhash hquestion, if_pos hc, if_pos (by simpa using hd)]
    rfl
  rw [hrelative, hrelative, hscheme]

/-- A reference without a host of its own stays where it is, and leads somewhere. -/
theorem join?_sharesHost {reference : List Char} (h : namesHost base.scheme reference = false) :
    ∃ u, Location.join? base reference = some (.web u) ∧ u.SharesHost base := by
  unfold namesHost at h
  unfold Location.join?
  dsimp only
  cases hscheme : scheme? (clean reference) with
  | none =>
      rw [hscheme] at h
      obtain ⟨u, hu, hshares⟩ := relative?_sharesHost base (Nat.lt_of_not_le (of_decide_eq_false h))
      exact ⟨u, by simp [hu], hshares⟩
  | some split =>
      obtain ⟨own, rest⟩ := split
      rw [hscheme] at h
      simp only [ne_eq, decide_not, Bool.or_eq_false_iff, Bool.not_eq_false', decide_eq_true_eq,
        decide_eq_false_iff_not, not_le] at h
      obtain ⟨u, hu, hshares⟩ := relative?_sharesHost base h.2
      exact ⟨u, by simp [h, hu], hshares⟩

/-- A reference with a host of its own leads to the same place from everywhere. -/
theorem join?_of_namesHost {base' : Url} {reference : List Char}
    (hscheme : base'.scheme = base.scheme) (h : namesHost base.scheme reference = true) :
    Location.join? base' reference = Location.join? base reference := by
  unfold namesHost at h
  unfold Location.join?
  dsimp only
  cases hown : scheme? (clean reference) with
  | none =>
      rw [hown] at h
      dsimp only at h ⊢
      rw [relative?_of_slashes hscheme (by simpa using h)]
  | some split =>
      obtain ⟨own, rest⟩ := split
      rw [hown] at h
      have hleads : ¬(own = base.scheme && decide ((rest.takeWhile isSlash).length < 2)) = true := by
        simp only [Bool.and_eq_true, decide_eq_true_eq, not_and, Nat.not_lt]
        simpa [Decidable.imp_iff_not_or] using h
      dsimp only
      rw [hscheme, if_neg hleads, if_neg hleads]

end Url

end Fleet.Net
