import Fleet.Proofs.Record.Widths
import Fleet.Proofs.Store.Sound

/-!
# Stores within their widths

The numbers of the stored records are within the widths of their fields, as long as only such records
are saved: the ids that the store assigns itself are within theirs.
-/

namespace Fleet

open Text

/-! ## Records -/

namespace Record

variable {r : Record}

theorem Fits.withId (h : r.Fits) {id : Int} (hid : fitsInt64 id = true) : (r.withId id).Fits := by
  cases r with
  | cluster r => exact hid
  | node r => exact ⟨hid, h.2⟩
  | server r => exact ⟨hid, h.2⟩
  | serverGroup r => exact ⟨hid, h.2⟩
  | reverseProxy r => exact hid
  | origin r => exact ⟨hid, h.2⟩

theorem Fits.withState (h : r.Fits) (state : EntityState) : (r.withState state).Fits := by
  cases r <;> exact h

end Record

/-! ## Stores -/

/-- The numbers of every stored record are within the widths of their fields. -/
structure Store.InWidths (s : Store) : Prop where
  record : ∀ x r, s.find? x = some r → r.Fits

/-- What the call saves is within its widths. -/
def Call.InWidths : Call → Prop
  | .save r => r.Fits
  | _ => True

namespace Store

variable {s t : Store} {r : Record}

theorem inWidths_empty : empty.InWidths where
  record _ _ h := nomatch h

theorem InWidths.put (h : s.InWidths) (hr : r.Fits) : (s.put r).InWidths where
  record x r' hx := by
    rcases find?_put_cases hx with ⟨-, rfl⟩ | hx
    · exact hr
    · exact h.record x r' hx

theorem InWidths.congr (h : s.InWidths) (hfind : ∀ x, t.find? x = s.find? x) : t.InWidths where
  record x r hx := h.record x r (hfind x ▸ hx)

theorem InWidths.save (h : s.InWidths) (hs : s.Sound) (hr : r.Fits) {id : Int}
    (hsave : s.save r = .ok (id, t)) : t.InWidths := by
  obtain ⟨next, hpos, hlt, -, hle, rfl, -⟩ := save_cases hs hsave
  have hid : fitsInt64 id = true := by
    have hmin : minInt64 ≤ 0 := by decide
    rw [fitsInt64, Bool.and_eq_true, decide_eq_true_eq, decide_eq_true_eq]
    exact ⟨hmin.trans hpos.le, (hlt.trans_le hle).le⟩
  have hnext : ({ s with nextId := next } : Store).InWidths := h.congr fun _ => rfl
  exact hnext.put (hr.withId hid)

theorem InWidths.updateState (h : s.InWidths) (x : EntityRef) (state : EntityState) :
    (s.updateState x state).2.InWidths where
  record y r hr := by
    rw [find?_updateState] at hr
    split at hr
    · obtain ⟨r', hr', rfl⟩ := Option.map_eq_some_iff.1 hr
      exact (h.record x r' hr').withState state
    · exact h.record y r hr

theorem InWidths.answer (h : s.InWidths) (hs : s.Sound) {c : Call} (hc : c.InWidths) :
    (s.answer c).2.InWidths := by
  cases c with
  | save r =>
      simp only [Store.answer]
      split
      · rename_i hsave
        exact h.save hs hc hsave
      · exact h
  | updateState x state => exact h.updateState x state
  | mark _ | ack _ _ => exact h.congr fun _ => rfl
  | _ => exact h

theorem InWidths.saveAll (h : s.InWidths) (hs : s.Sound) {rs : List Record} (hrs : ∀ r ∈ rs, r.Fits) :
    (s.saveAll rs).2.InWidths := by
  induction rs generalizing s with
  | nil => exact h
  | cons r rs ih =>
      obtain ⟨hr, hrs⟩ := List.forall_mem_cons.1 hrs
      unfold Store.saveAll
      split
      · rename_i hsave
        exact ih (h.save hs hr hsave) (hs.save hsave) hrs
      · exact h

theorem InWidths.loadSeed (h : s.InWidths) (hs : s.Sound) {seed : Seed}
    (hseed : ∀ r ∈ seed.records, r.Fits) : (s.loadSeed seed).2.InWidths :=
  h.saveAll hs hseed

end Store

end Fleet
