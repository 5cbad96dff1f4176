import Fleet.Proofs.Mutation.Ranked
import Fleet.Proofs.Store.Widths

/-!
# Mutations keep widths

What mutations write themselves, the slots of groups, their orders and states, is within the widths of
the fields. So it is enough that the records which are handed in are.
-/

namespace Fleet

open Fleet.Action

variable {s t : Store} {ids : List Int} {k : Nat} {failed : List Int}

namespace Store

theorem InWidths.sameFleet (h : s.InWidths) (hfleet : s.SameFleet t) : t.InWidths :=
  h.congr hfleet.find?_eq

/-- What stands for an entity is what stood there, or a listed group with the order of its place. -/
theorem RankedTo.find?_cases (h : s.RankedTo ids k t) (x : EntityRef) :
    t.find? x = s.find? x ∨
      ∃ (i : Nat) (g : ServerGroup), i < k ∧ i < ids.length ∧
        s.find? x = some (.serverGroup g) ∧
        t.find? x = some (.serverGroup { g with order := ids.length - i }) := by
  by_cases hx : ∃ id ∈ ids.take k, x = ⟨.serverGroup, id⟩
  · obtain ⟨id, hid, rfl⟩ := hx
    obtain ⟨i, hi, hget⟩ := List.mem_iff_getElem.1 hid
    rw [List.length_take] at hi
    rw [List.getElem_take] at hget
    obtain ⟨g, hg, ht⟩ := h.written i id (by omega) (List.getElem?_eq_some_iff.2 ⟨by omega, hget⟩)
    exact .inr ⟨i, g, by omega, by omega, hg, ht⟩
  · exact .inl (h.frame x fun id hid he => hx ⟨id, hid, he⟩)

theorem RankedTo.inWidths (h : s.RankedTo ids k t) (hlen : ids.length ≤ 2147483647)
    (hwidths : s.InWidths) : t.InWidths where
  record x r hr := by
    rcases h.find?_cases x with hsame | ⟨i, g, -, hi, hg, ht⟩
    · exact hwidths.record x r (hsame ▸ hr)
    · obtain rfl := Option.some.inj (ht.symm.trans hr)
      obtain ⟨hid, -, -⟩ := hwidths.record x _ hg
      exact ⟨hid, by dsimp only; omega, by dsimp only; omega⟩

end Store

/-- What the mutation is to save is within its widths. -/
def Mutation.InWidths : Mutation → Prop
  | .save r => r.Fits
  | _ => True

theorem inWidths_orderGroups (hs : s.Sound) (hwidths : s.InWidths) {o : Except Failure Report}
    (h : (orderGroups ids).run.Hampered s o t) : t.InWidths := by
  by_cases hlen : ids.length ≤ 2147483647
  · rw [orderGroups_eq hlen] at h
    rcases hampered_bind h with ⟨e, hread, -⟩ | ⟨groups, u, hread, hrank⟩
    · exact hwidths.sameFleet (hread.sameFleet ((makes_readGroups [] ids).imp fun _ h => h.propagates))
    · obtain ⟨rfl, rfl, hstored, hnodup, -⟩ := hampered_readGroups hs hread
      obtain ⟨_, -, hranked, -⟩ := hampered_rankGroups hs hrank hstored hnodup
      exact hranked.inWidths hlen hwidths
  · rw [orderGroups, if_pos (by omega)] at h
    cases h
    exact hwidths

/-- Whatever marks fail, a mutation that is within its widths keeps a store within its own. -/
theorem Mutation.InWidths.strained {m : Mutation} (hm : m.InWidths) (hs : s.Sound)
    (hwidths : s.InWidths) {o : Except Failure Report} (h : m.action.run.Strained s failed o t) :
    t.InWidths := by
  cases m with
  | save r =>
      obtain ⟨o, h⟩ := strained_map h
      rcases strained_saveRecord hs h with rfl | ⟨id, u, -, hu, hfleet, -⟩
      · exact hwidths
      · exact (hwidths.save hs hm hu).sameFleet hfleet
  | setGroupProxy id p r =>
      obtain ⟨o, h⟩ := strained_map h
      rcases strained_setGroupProxy hs h with hfleet | ⟨g, text, u, -, hg, -, hu, hfleet⟩
      · exact hwidths.sameFleet hfleet
      · refine (hwidths.save hs ?_ hu).sameFleet hfleet
        have hfits := hwidths.record _ _ hg
        cases p <;> exact hfits
  | orderGroups ids => exact inWidths_orderGroups hs hwidths h.hampered
  | setState x enabled =>
      obtain ⟨o, h⟩ := strained_map h
      rcases strained_setState h with hfleet | ⟨r, -, hfleet⟩
      · exact hwidths.sameFleet hfleet
      · exact (hwidths.updateState x _).sameFleet hfleet

namespace Store

/-- The stores that come about by seeds, calls and mutations that are within their widths. -/
inductive ReachableInWidths : Store → Prop where
  | empty : ReachableInWidths .empty
  | seed {s : Store} {seed : Seed} : (∀ r ∈ seed.records, r.Fits) → ReachableInWidths s →
      ReachableInWidths (s.loadSeed seed).2
  | call {s : Store} {c : Call} : c.InWidths → ReachableInWidths s → ReachableInWidths (s.answer c).2
  | mutation {s : Store} {m : Mutation} : m.InWidths → ReachableInWidths s →
      ReachableInWidths (m.action.on s).2

theorem ReachableInWidths.reachable (h : s.ReachableInWidths) : s.Reachable := by
  induction h with
  | empty => exact .empty
  | seed _ _ ih => exact .seed _ ih
  | call _ _ ih => exact .call _ ih
  | mutation _ _ ih => exact .mutation _ ih

/-- Where only such numbers are handed in as fit the fields, all stored ones do. -/
theorem ReachableInWidths.inWidths (h : s.ReachableInWidths) : s.InWidths := by
  induction h with
  | empty => exact inWidths_empty
  | seed hseed hs ih => exact ih.loadSeed hs.reachable.sound hseed
  | call hc hs ih => exact ih.answer hs.reachable.sound hc
  | mutation hm hs ih => exact hm.strained hs.reachable.sound ih (Program.strained_run _ _)

end Store

end Fleet
