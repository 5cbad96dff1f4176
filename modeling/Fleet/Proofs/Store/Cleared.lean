import Fleet.Proofs.Composition.Touched
import Fleet.Proofs.Store.Latest

/-!
# Slots that name no proxy

A slot may keep a reference without a positive id. Where the text of such a slot is emptied no edge
changes, as the reference declared none, and no list of servers does.
-/

namespace Fleet

/-- The text is a reference, but the reference has no positive id. -/
def RefText.NamesNoProxy (r : RefText) : Prop :=
  ∃ ref, r.decode ReverseProxyRef.decoder = .ok (some ref) ∧ ref.reverseProxyId ≤ 0

def Server.withSlot (r : Server) (p : Protocol) (text : RefText) : Server :=
  match p with
  | .http => { r with httpReverseProxy := text }
  | .tcp => { r with tcpReverseProxy := text }
  | .udp => { r with udpReverseProxy := text }

/-! ## Emptied slots -/

/-- The server with some of its slots empty. -/
def Server.clear (gone : Protocol → Bool) (r : Server) : Server :=
  { r with
    httpReverseProxy := if gone .http then .empty else r.httpReverseProxy
    tcpReverseProxy := if gone .tcp then .empty else r.tcpReverseProxy
    udpReverseProxy := if gone .udp then .empty else r.udpReverseProxy }

/-- The group with some of its slots empty. -/
def ServerGroup.clear (gone : Protocol → Bool) (r : ServerGroup) : ServerGroup :=
  { r with
    httpReverseProxy := if gone .http then .empty else r.httpReverseProxy
    tcpReverseProxy := if gone .tcp then .empty else r.tcpReverseProxy
    udpReverseProxy := if gone .udp then .empty else r.udpReverseProxy }

theorem Server.slot_clear (gone : Protocol → Bool) (r : Server) (p : Protocol) :
    (r.clear gone).slot p = if gone p then .empty else r.slot p := by
  cases p <;> rfl

theorem ServerGroup.slot_clear (gone : Protocol → Bool) (r : ServerGroup) (p : Protocol) :
    (r.clear gone).slot p = if gone p then .empty else r.slot p := by
  cases p <;> rfl

/-- A slot whose reference names no proxy declares no edge, and neither does an empty one. -/
theorem edgesTo_slotIds_cleared {gone : Protocol → Bool} {slot slot' : Protocol → RefText}
    (hslot : ∀ p, slot' p = if gone p then .empty else slot p)
    (h : ∀ p, gone p = true → (slot p).NamesNoProxy) (owner : EntityRef) :
    edgesTo owner .reverseProxy (slotIds slot') = edgesTo owner .reverseProxy (slotIds slot) := by
  unfold edgesTo slotIds
  rw [List.filter_filterMap, List.filter_filterMap]
  congr 2
  funext p
  rw [hslot p]
  split
  · rename_i hp
    obtain ⟨ref, href, hid⟩ := h p hp
    have hempty : RefText.empty.decoded? ReverseProxyRef.decoder = none := rfl
    have hkept : (slot p).decoded? ReverseProxyRef.decoder = some ref := by
      rw [RefText.decoded?, href]
    rw [hempty, hkept]
    simp [Option.filter, hid]
  · rfl

namespace Record

variable {gone : EntityRef → Protocol → Bool} {r : Record} {p : Protocol}

/-- The text of a slot, of the records that have slots. -/
def slot? : Record → Protocol → Option RefText
  | .server r, p => some (r.slot p)
  | .serverGroup r, p => some (r.slot p)
  | _, _ => none

def withSlot (p : Protocol) (text : RefText) : Record → Record
  | .server r => .server (r.withSlot p text)
  | .serverGroup r => .serverGroup (r.withSlot p text)
  | r => r

/-- The record with those of its slots empty that are `gone`. -/
def clear (gone : EntityRef → Protocol → Bool) : Record → Record
  | .server r => .server (r.clear (gone ⟨.server, r.id⟩))
  | .serverGroup r => .serverGroup (r.clear (gone ⟨.serverGroup, r.id⟩))
  | r => r

theorem ref_withSlot (p : Protocol) (text : RefText) (r : Record) :
    (r.withSlot p text).ref = r.ref := by
  cases r <;> cases p <;> rfl

/-- All slots that are `gone` of the record name no proxy. -/
def Idle (gone : EntityRef → Protocol → Bool) (r : Record) : Prop :=
  ∀ p text, gone r.ref p = true → r.slot? p = some text → text.NamesNoProxy

theorem edges_clear (h : r.Idle gone) : (r.clear gone).edges = r.edges := by
  cases r with
  | server r =>
      exact congrArg (_ ++ ·) (edgesTo_slotIds_cleared (r.slot_clear _) (fun p hp => h p _ hp rfl) _)
  | serverGroup r =>
      exact edgesTo_slotIds_cleared (r.slot_clear _) (fun p hp => h p _ hp rfl) _
  | cluster _ | node _ | reverseProxy _ | origin _ => rfl

/-- Where nothing of the record is gone it is cleared to itself. -/
theorem clear_eq_self (h : ∀ p, gone r.ref p = false) : r.clear gone = r := by
  cases r with
  | server r =>
      have hgone (p : Protocol) : gone ⟨.server, r.id⟩ p = false := h p
      simp [clear, Server.clear, hgone]
  | serverGroup r =>
      have hgone (p : Protocol) : gone ⟨.serverGroup, r.id⟩ p = false := h p
      simp [clear, ServerGroup.clear, hgone]
  | cluster _ | node _ | reverseProxy _ | origin _ => rfl

/-- To empty one slot is to clear what is gone of it. -/
theorem clear_of_slot (r : Record) (p : Protocol) :
    r.clear (fun x q => x = r.ref && q = p) = r.withSlot p .empty := by
  cases r with
  | server r => cases p <;> simp [clear, withSlot, Server.clear, Server.withSlot, ref, kind, id]
  | serverGroup r =>
      cases p <;> simp [clear, withSlot, ServerGroup.clear, ServerGroup.withSlot, ref, kind, id]
  | cluster _ | node _ | reverseProxy _ | origin _ => rfl

end Record

namespace Store

variable {s t : Store} {gone : EntityRef → Protocol → Bool}

/-- The stores keep the same records, but where the first one has a slot that is `gone`, which names no
proxy there, the slot is empty in the second one. -/
structure Clears (gone : EntityRef → Protocol → Bool) (s t : Store) : Prop where
  find?_eq : ∀ x, t.find? x = (s.find? x).map (Record.clear gone)
  idle : ∀ x r, s.find? x = some r → r.Idle gone

theorem Clears.enabledServers_eq (h : s.Clears gone t) (hs : s.Sound) (ht : t.Sound) (k : Int) :
    t.enabledServers k = s.enabledServers k := by
  refine (enabledServers_ascending ht k).eq_of_mem_iff (enabledServers_ascending hs k) fun i => ?_
  rw [mem_enabledServers ht, mem_enabledServers hs, h.find?_eq]
  constructor
  · rintro ⟨r, hr, hk, he⟩
    obtain ⟨old, hold, hclear⟩ := Option.map_eq_some_iff.1 hr
    cases old with
    | server a =>
        cases hclear
        exact ⟨a, hold, hk, he⟩
    | _ => cases hclear
  · rintro ⟨r, hr, hk, he⟩
    rw [hr]
    exact ⟨_, rfl, hk, he⟩

theorem Clears.index_eq (h : s.Clears gone t) (hs : s.Sound) (ht : t.Sound) (htidy : s.index.Tidy)
    (htidy' : t.index.Tidy) : t.index = s.index := by
  refine ht.index_eq hs htidy' htidy fun x => ?_
  rw [h.find?_eq]
  cases hr : s.find? x with
  | none => rfl
  | some r => exact congrArg some (Record.edges_clear (h.idle x r hr))

/-- One slot of a stored record is emptied. -/
theorem clears_put (hs : s.Sound) {r : Record} {p : Protocol} {text : RefText}
    (hr : s.find? r.ref = some r) (hslot : r.slot? p = some text) (hnone : text.NamesNoProxy) :
    s.Clears (fun x q => x = r.ref && q = p) (s.put (r.withSlot p .empty)) where
  find?_eq x := by
    rw [find?_put, Record.ref_withSlot]
    split
    · rename_i hx
      rw [hx, hr, ← Record.clear_of_slot]
      rfl
    · rename_i hx
      cases hy : s.find? x with
      | none => rfl
      | some y =>
          have hne : y.ref ≠ r.ref := hs.own hy ▸ hx
          exact congrArg some (Record.clear_eq_self fun q => by simp [hne]).symm
  idle x y hy q text' hgone hslot' := by
    simp only [Bool.and_eq_true, decide_eq_true_eq] at hgone
    obtain ⟨href, rfl⟩ := hgone
    have hsame : y = r := by
      rw [← hs.own hy, href, hr] at hy
      exact (Option.some.inj hy).symm
    subst hsame
    rw [hslot] at hslot'
    cases hslot'
    exact hnone

end Store

end Fleet
