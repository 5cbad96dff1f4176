import Fleet.Net.AccessAddress
import Fleet.Proofs.Text

/-!
# Access addresses as they are written

A host and a port are read from every text that writes them, with or without brackets, and blanks around
the text do not matter. Where a port is expected and something else stands, the text is no access address.
-/

namespace Fleet.Net.AccessAddress

open Text

variable {address host tail digits text : List Char} {port : Nat}

/-! ## Ports -/

/-- The text is no port: it has no digits, or more than digits, or it exceeds the greatest port. -/
def NotPort (digits : List Char) : Prop :=
  unsigned digits = [] ∨ (∃ c ∈ unsigned digits, isDigit c = false) ∨ 65535 < ofDigits (unsigned digits)

theorem portOf_of_notPort (h : NotPort digits) (address : List Char) :
    portOf address digits = .error (.port digits address) := by
  rw [portOf, readUnsigned?_eq_none_iff.2 h]
  rfl

theorem notPort_of_mem {c : Char} (h : c ∈ digits) (hplus : c ≠ '+') (hdigit : isDigit c = false) :
    NotPort digits :=
  .inr (.inl ⟨c, mem_unsigned h hplus, hdigit⟩)

theorem portOf_natDigits (h : port ≤ 65535) (address : List Char) :
    portOf address (natDigits port) = .ok port := by
  rw [portOf, readUnsigned?_natDigits h]
  rfl

theorem notMem_natDigits {c : Char} (h : isDigit c = false) : c ∉ natDigits port := fun hc => by
  rw [isDigit_of_mem_natDigits hc] at h
  cases h

/-! ## Without brackets -/

theorem ofTrimmed_host (hopen : host.head? ≠ some '[') (hcolon : ':' ∉ host) :
    ofTrimmed host = .ok ⟨host, none⟩ := by
  rw [ofTrimmed.eq_2 host fun rest h => hopen (by simp [h]), cut?_of_notMem hcolon]

theorem ofTrimmed_colon (hopen : host.head? ≠ some '[') (hcolon : ':' ∉ host) (tail : List Char) :
    ofTrimmed (host ++ ':' :: tail)
      = if tail.contains ':' then .ok ⟨host ++ ':' :: tail, none⟩
        else (portOf (host ++ ':' :: tail) tail).map fun n => ⟨host, some n⟩ := by
  have hbracket (rest : List Char) : host ++ ':' :: tail ≠ '[' :: rest := by
    intro h
    cases host with
    | nil => cases h
    | cons c host =>
        cases h
        exact hopen rfl
  rw [ofTrimmed.eq_2 _ hbracket, cut?_append hcolon]

theorem ofTrimmed_port (hopen : host.head? ≠ some '[') (hcolon : ':' ∉ host) (hdigits : ':' ∉ digits) :
    ofTrimmed (host ++ ':' :: digits)
      = (portOf (host ++ ':' :: digits) digits).map fun n => ⟨host, some n⟩ := by
  rw [ofTrimmed_colon hopen hcolon, if_neg (by simpa using hdigits)]

/-- A second colon makes the whole text the host. -/
theorem ofTrimmed_colons (hopen : host.head? ≠ some '[') (hcolons : 2 ≤ host.count ':') :
    ofTrimmed host = .ok ⟨host, none⟩ := by
  have hmem : ':' ∈ host := List.count_pos_iff.1 (Nat.lt_of_lt_of_le Nat.zero_lt_two hcolons)
  obtain ⟨before, tail, rfl, hbefore⟩ := List.eq_append_cons_of_mem hmem
  have htail : ':' ∈ tail := by
    rw [List.count_append, List.count_cons_self, List.count_eq_zero.2 hbefore] at hcolons
    exact List.count_pos_iff.1 (by omega)
  have hopen' : before.head? ≠ some '[' := fun h => hopen (by simp [List.head?_append, h])
  rw [ofTrimmed_colon hopen' hbefore, if_pos (by simpa using htail)]

/-! ## Within brackets -/

theorem ofTrimmed_bracketed (hclose : ']' ∉ host) :
    ofTrimmed ('[' :: host ++ [']']) = .ok ⟨host, none⟩ := by
  simp [ofTrimmed, cut?_append hclose]

theorem ofTrimmed_bracketed_port (hclose : ']' ∉ host) (digits : List Char) :
    ofTrimmed ('[' :: host ++ ']' :: ':' :: digits)
      = (portOf ('[' :: host ++ ']' :: ':' :: digits) digits).map fun n => ⟨host, some n⟩ := by
  simp [ofTrimmed, cut?_append hclose]

/-- No second bracket may follow the one that closes. -/
theorem exists_fault_of_bracket (hclose : ']' ∉ host) (htail : ']' ∈ tail) :
    ∃ fault, ofTrimmed ('[' :: host ++ ']' :: tail) = .error fault := by
  cases tail with
  | nil => cases htail
  | cons c tail =>
      by_cases hc : c = ':'
      · subst hc
        have hport : NotPort tail :=
          notPort_of_mem (List.mem_of_ne_of_mem (by decide) htail) (by decide) (by decide)
        rw [ofTrimmed_bracketed_port hclose, portOf_of_notPort hport]
        exact ⟨_, rfl⟩
      · exact ⟨.surplus (c :: tail) ('[' :: host ++ ']' :: c :: tail),
          by simp [ofTrimmed, cut?_append hclose, hc]⟩

/-! ## Addresses with a port -/

/-- A port is expected at the end of the address: behind its only colon, or behind a bracket and a
colon. -/
inductive EndsInPort : (address digits : List Char) → Prop where
  | bare {host digits : List Char} (hopen : host.head? ≠ some '[') (hcolon : ':' ∉ host)
    (hdigits : ':' ∉ digits) : EndsInPort (host ++ ':' :: digits) digits
  | bracketed (inside digits : List Char) : EndsInPort ('[' :: inside ++ ']' :: ':' :: digits) digits

theorem EndsInPort.exists_fault (h : EndsInPort address digits) (hport : NotPort digits) :
    ∃ fault, ofTrimmed address = .error fault := by
  cases h with
  | bare hopen hcolon hdigits =>
      rw [ofTrimmed_port hopen hcolon hdigits, portOf_of_notPort hport]
      exact ⟨_, rfl⟩
  | bracketed inside =>
      by_cases hclose : ']' ∈ inside
      · -- The first bracket ends the host, so the last one stands behind it.
        obtain ⟨host, rest, rfl, hhost⟩ := List.eq_append_cons_of_mem hclose
        have htail : ']' ∈ rest ++ ']' :: ':' :: digits := by simp
        simpa using exists_fault_of_bracket hhost htail
      · rw [ofTrimmed_bracketed_port hclose, portOf_of_notPort hport]
        exact ⟨_, rfl⟩

/-! ## Texts -/

theorem ofText_of_forall (h : ∀ c ∈ text, isBlank c = false) : ofText text = ofTrimmed text := by
  rw [ofText, trim_of_forall h]

theorem forall_natDigits_isBlank : ∀ c ∈ natDigits port, isBlank c = false :=
  fun _ hc => isBlank_of_isDigit (isDigit_of_mem_natDigits hc)

/-- A host without blanks, and a port, are read as they were written: bare, if the host has neither a
colon nor an opening bracket; in brackets, if it has no closing one. A bare host with two colons stands
for itself. Blanks around a text change nothing, and where a port is expected and something else stands,
the text is no access address. -/
theorem ofText_as_written (hblank : ∀ c ∈ host, isBlank c = false) (hport : port ≤ 65535) :
    (':' ∉ host → '[' ∉ host →
      ofText host = .ok ⟨host, none⟩ ∧ ofText (host ++ ':' :: natDigits port) = .ok ⟨host, some port⟩) ∧
    (']' ∉ host →
      ofText ('[' :: host ++ [']']) = .ok ⟨host, none⟩ ∧
      ofText ('[' :: host ++ ']' :: ':' :: natDigits port) = .ok ⟨host, some port⟩) ∧
    (host.head? ≠ some '[' → 2 ≤ host.count ':' → ofText host = .ok ⟨host, none⟩) ∧
    (∀ before text after, (∀ c ∈ before, isBlank c = true) → (∀ c ∈ after, isBlank c = true) →
      ofText (before ++ text ++ after) = ofText text) ∧
    ∀ text digits, EndsInPort (trim text) digits → NotPort digits →
      ∃ fault, ofText text = .error fault := by
  have hdigits : ∀ c ∈ natDigits port, isBlank c = false := forall_natDigits_isBlank
  refine ⟨fun hcolon hopen => ?_, fun hclose => ?_, fun hopen hcolons => ?_, ?_, ?_⟩
  · have hhead : host.head? ≠ some '[' := fun h => hopen (List.mem_of_head? h)
    have hbare : ∀ c ∈ host ++ ':' :: natDigits port, isBlank c = false := by
      simpa [or_imp, forall_and] using ⟨hblank, by decide, hdigits⟩
    rw [ofText_of_forall hblank, ofText_of_forall hbare, ofTrimmed_host hhead hcolon,
      ofTrimmed_port hhead hcolon (notMem_natDigits (by decide)), portOf_natDigits hport]
    exact ⟨rfl, rfl⟩
  · have hclosed : ∀ c ∈ '[' :: host ++ [']'], isBlank c = false := by
      simpa [or_imp, forall_and] using ⟨by decide, hblank, by decide⟩
    have hfollowed : ∀ c ∈ '[' :: host ++ ']' :: ':' :: natDigits port, isBlank c = false := by
      simpa [or_imp, forall_and] using ⟨by decide, hblank, by decide, by decide, hdigits⟩
    rw [ofText_of_forall hclosed, ofText_of_forall hfollowed, ofTrimmed_bracketed hclose,
      ofTrimmed_bracketed_port hclose, portOf_natDigits hport]
    exact ⟨rfl, rfl⟩
  · rw [ofText_of_forall hblank, ofTrimmed_colons hopen hcolons]
  · intro before text after hbefore hafter
    rw [ofText, trim_append hbefore hafter, ofText]
  · exact fun text digits hends hnot => hends.exists_fault hnot

theorem ofText_as_written_forms :
    ofText "edge".toList = .ok ⟨"edge".toList, none⟩ ∧
      ofText "edge:65535".toList = .ok ⟨"edge".toList, some 65535⟩ ∧
      ofText "[2001:db8::1]:8443".toList = .ok ⟨"2001:db8::1".toList, some 8443⟩ ∧
      ofText "2001:db8::1".toList = .ok ⟨"2001:db8::1".toList, none⟩ ∧
      ofText "\t[::1]\u00a0".toList = ofText "[::1]".toList ∧
      (∃ fault, ofText " edge:65536 ".toList = .error fault) ∧
      ∃ fault, ofText "[a]b]:+".toList = .error fault := by
  have hedge : ∀ c ∈ "edge".toList, isBlank c = false := by simp [isBlank]
  have hgroups : ∀ c ∈ "2001:db8::1".toList, isBlank c = false := by simp [isBlank]
  have hgreatest : 65535 ≤ 65535 := Nat.le_refl 65535
  have hport : 8443 ≤ 65535 := by decide
  obtain ⟨hbare, -, -, hblanks, hfault⟩ := ofText_as_written hedge hgreatest
  obtain ⟨-, hbracketed, hcolons, -⟩ := ofText_as_written hgroups hport
  obtain ⟨hhost, hfollowed⟩ := hbare (by decide) (by decide)
  refine ⟨hhost, hfollowed, (hbracketed (by decide)).2, hcolons (by decide) (by decide), ?_, ?_, ?_⟩
  · exact hblanks ['\t'] "[::1]".toList ['\u00a0'] (by simp [isBlank]) (by simp [isBlank])
  · have hends : EndsInPort ("edge".toList ++ ':' :: "65536".toList) "65536".toList :=
      .bare (by decide) (by decide) (by decide)
    exact hfault " edge:65536 ".toList _ hends (.inr (.inr (by decide)))
  · exact hfault "[a]b]:+".toList _ (.bracketed "a]b".toList ['+']) (.inl rfl)

/-- A port may have a plus sign and zeros before it. -/
example : ofText "edge:+0080".toList = .ok ⟨"edge".toList, some 80⟩ := rfl

end Fleet.Net.AccessAddress
