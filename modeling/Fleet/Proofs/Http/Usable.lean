import Fleet.Proofs.Http.Keyed
import Fleet.Settings.Document
import Mathlib.Order.Basic

/-!
# Keys that are accepted and keys that open

Settings are accepted with any key that is not blank, and a header may carry every character of it that
does not control anything. It is read as text though, so a key opens the listener exactly if it is ASCII.
-/

namespace Fleet

open Text

/-! ## Header values -/

/-- Every character of the text is ASCII. -/
def Text.IsAscii (cs : List Char) : Prop := ∀ c ∈ cs, c.toNat ≤ 127

instance (cs : List Char) : Decidable (IsAscii cs) :=
  List.decidableBAll _ _

/-- A text is ASCII exactly if its bytes are. -/
theorem Text.Utf8.encode_le_iff {cs : List Char} :
    (∀ b ∈ encode cs, b.toNat ≤ 127) ↔ IsAscii cs := by
  constructor
  · intro h c hc
    refine toNat_le_of_utf8EncodeChar fun b hb => h b ?_
    exact List.mem_flatMap.2 ⟨c, hc, hb⟩
  · intro h b hb
    rw [encode_of_le h] at hb
    obtain ⟨c, hc, rfl⟩ := List.mem_map.1 hb
    rw [toNat_toUInt8 (h c hc)]
    exact h c hc

namespace Http

variable {key : String} {r : Request}

/-- A byte that may stand in a header value. -/
def IsLegal (b : UInt8) : Prop := b = 9 ∨ 32 ≤ b ∧ b ≠ 127

instance : DecidablePred IsLegal :=
  fun b => inferInstanceAs (Decidable (b = 9 ∨ 32 ≤ b ∧ b ≠ 127))

theorem IsLegal.isVisible_iff {b : UInt8} (h : IsLegal b) : IsVisible b ↔ b.toNat ≤ 127 := by
  refine ⟨IsVisible.toNat_le, fun hle => ?_⟩
  refine h.imp_right fun ⟨hlow, hne⟩ => ⟨hlow, UInt8.le_iff_toNat_le.2 ?_⟩
  have hne : b.toNat ≠ 127 := fun heq => hne (UInt8.toNat_inj.1 heq)
  change b.toNat ≤ 126
  omega

theorem isAscii_bearer_append : IsAscii (bearer ++ key.toList) ↔ IsAscii key.toList := by
  have hbearer : IsAscii bearer := by decide
  constructor
  · exact fun h c hc => h c (List.mem_append_right _ hc)
  · exact fun h c hc => (List.mem_append.1 hc).elim (hbearer c) (h c)

/-- Of the requests that bring a key, those pass that bring an ASCII one. -/
theorem hasKey_iff_isAscii (hkey : key ≠ "") (hr : r.header? "authorization" = some (bearerValue key))
    (hlegal : ∀ b ∈ bearerValue key, IsLegal b) : hasKey key r = true ↔ IsAscii key.toList := by
  have hvisible : (∀ b ∈ bearerValue key, IsVisible b) ↔ IsAscii key.toList := by
    rw [← isAscii_bearer_append, ← Utf8.encode_le_iff, ← bearerValue_eq]
    exact forall₂_congr fun b hb => (hlegal b hb).isVisible_iff
  rw [hasKey_iff, ← hvisible]
  constructor
  · rintro ⟨-, value, hvalue, hall, rfl⟩
    exact hall
  · exact fun hall => ⟨hkey, _, hr, hall, rfl⟩

end Http

/-! ## Accepted settings -/

namespace Settings

theorem problems_of_ofText {text : String} {s : Settings} (h : ofText text = .ok s) :
    s.problems = [] := by
  unfold ofText at h
  split at h
  · unfold accept at h
    split at h
    · cases h
      assumption
    · cases h
  · cases h

theorem apiKey_ne_of_ofText {text : String} {s : Settings} (h : ofText text = .ok s)
    (henabled : s.admin.enabled = true) : s.admin.apiKey ≠ "" := by
  intro hkey
  have hproblems := problems_of_ofText h
  have hadmin : s.admin.problems = [] := by
    simp only [problems, List.append_eq_nil_iff] at hproblems
    exact hproblems.1.1.1.2
  rw [AdminSettings.problems, if_pos henabled, List.append_eq_nil_iff, hkey] at hadmin
  exact absurd hadmin.2 (by decide)

end Settings

namespace Plane

open Http

/-- A key that was accepted opens the listener exactly if it is ASCII. With any other, every request that
brings it is turned away, and nothing changes. -/
theorem accepted_key_opens_iff {text : String} {s : Settings} {p : Plane} {r : Request}
    (hs : Settings.ofText text = .ok s) (henabled : s.admin.enabled = true) (hp : p.settings = s)
    (hr : r.header? "authorization" = some (bearerValue s.admin.apiKey))
    (hlegal : ∀ b ∈ bearerValue s.admin.apiKey, IsLegal b) :
    ((p.exchange .admin r).1.response.status ≠ 401 ↔ IsAscii s.admin.apiKey.toList) ∧
      (hasKey p.settings.admin.apiKey r = true ↔ IsAscii s.admin.apiKey.toList) ∧
      (¬ IsAscii s.admin.apiKey.toList → p.exchange .admin r = (refusal r, p)) := by
  subst hp
  have hkey := hasKey_iff_isAscii (Settings.apiKey_ne_of_ofText hs henabled) hr hlegal
  have hunkeyed : r.Unkeyed p.settings.admin.apiKey ↔ ¬ IsAscii p.settings.admin.apiKey.toList := by
    rw [← hasKey_eq_false_iff, ← Bool.not_eq_true, hkey]
  refine ⟨?_, hkey, fun h => exchange_of_unkeyed (hunkeyed.2 h)⟩
  rw [Ne, status_exchange_eq_iff, hunkeyed, not_not]

theorem accepted_key_opens_iff_secret :
    let text := "[admin]\nenabled = true\napi_key = \"s3cret key\"\n"
    let s : Settings := { admin := { enabled := true, apiKey := "s3cret key" } }
    let r : Request := ⟨"GET", "/admin/status", [("Authorization", bearerValue "s3cret key")], ""⟩
    let p : Plane := { settings := s }
    Settings.ofText text = .ok s ∧ (∀ b ∈ bearerValue s.admin.apiKey, IsLegal b) ∧
      (p.exchange .admin r).1.response.status ≠ 401 := by
  intro text s r p
  have hs : Settings.ofText text = .ok s := by decide +kernel
  have hlegal : ∀ b ∈ bearerValue s.admin.apiKey, IsLegal b := by decide +kernel
  exact ⟨hs, hlegal, (accepted_key_opens_iff hs rfl rfl rfl hlegal).1.2 (by decide +kernel)⟩

/-- A key with a letter that is not ASCII is accepted, and opens nothing. -/
theorem accepted_key_refused :
    let text := "[admin]\nenabled = true\napi_key = \"clé\"\n"
    let s : Settings := { admin := { enabled := true, apiKey := "clé" } }
    let r : Request := ⟨"GET", "/admin/status", [("Authorization", bearerValue "clé")], ""⟩
    let p : Plane := { settings := s }
    Settings.ofText text = .ok s ∧ s.admin.enabled = true ∧
      r.header? "authorization" = some (bearerValue s.admin.apiKey) ∧
      (∀ b ∈ bearerValue s.admin.apiKey, IsLegal b) ∧
      p.exchange .admin r = (⟨none, ⟨401, .none⟩⟩, p) := by
  intro text s r p
  have hs : Settings.ofText text = .ok s := by decide +kernel
  have hlegal : ∀ b ∈ bearerValue s.admin.apiKey, IsLegal b := by decide +kernel
  have hunkeyed : r.Unkeyed p.settings.admin.apiKey :=
    .unreadable (b := 0xC3) rfl (by decide +kernel) (by decide)
  exact ⟨hs, rfl, rfl, hlegal, exchange_of_unkeyed hunkeyed⟩

end Plane

end Fleet
