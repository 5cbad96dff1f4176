import Fleet.Proofs.Interleaving.Race
import Fleet.Proofs.Mutation.Rejected

/-!
# Two edits of one group

Two changes of different proxy references of one group, their calls in any order. A change reads the
whole group, sets one slot and writes the whole group back. If one has written before the other one
reads, both slots are set in the end; if both have read before either writes, what is written first is
lost.
-/

namespace Fleet

open Fleet.Action

/-! ## The steps of an edit -/

namespace Program

variable {α : Type} {s : Store}

/-- The next step of the program is a save. -/
def Saves (p : Program α) : Prop := ∃ r next, p = .call (.save r) next

theorem Makes.not_saves {p : Program α} (h : p.Makes Call.Propagates) : ¬p.Saves := by
  rintro ⟨r, next, rfl⟩
  exact h.1

theorem Ends.step {Q : α → Prop} {p : Program α} (h : p.Ends Q) (hs : s.Sound) :
    (p.step s).1.Ends Q := by
  cases p with
  | done a => exact h
  | note m next => exact h
  | call c next => exact h _ (hs.sane_answer c)

theorem sound_step (p : Program α) (hs : s.Sound) : (p.step s).2.Sound := by
  cases p with
  | done _ | note _ _ => exact hs
  | call c _ => exact hs.answer c

end Program

theorem ServerGroup.withSlot_comm (g : ServerGroup) {p q : Protocol} (h : p ≠ q) (a b : RefText) :
    (g.withSlot p a).withSlot q b = (g.withSlot q b).withSlot p a := by
  cases p <;> cases q <;> first | rfl | exact absurd rfl h

/-- Sets one slot of a group as it was read, and propagates. -/
def writeSlot (groupId : Int) (g : ServerGroup) (p : Protocol) (text : RefText) : Action Outcome := do
  let _ ← ask (.save (.serverGroup (g.withSlot p text)))
  notifyOf ⟨.serverGroup, groupId⟩

variable {s t : Store} {x : Int} {g : ServerGroup} {text : RefText}

theorem setGroupProxy_run (hx : 0 < x) (p : Protocol) (r : Option ReverseProxyRef) :
    (setGroupProxy x p r).run = .call (.find ⟨.serverGroup, x⟩) fun
      | .ok found =>
        match found.bind Record.serverGroup? with
        | some g => (check (proxyText r) >>= writeSlot x g p).run
        | none => .done (.error (.notFound ⟨.serverGroup, x⟩))
      | .error e => .done (.error (.store e)) := by
  have hcheck : requireId "group_id" x = .ok () := if_neg (by omega)
  have hread : setGroupProxy x p r = ask (.find ⟨.serverGroup, x⟩) >>= fun found =>
      match found.bind Record.serverGroup? with
      | some g => check (proxyText r) >>= writeSlot x g p
      | none => throw (.notFound ⟨.serverGroup, x⟩) := by
    unfold setGroupProxy requireServerGroup findServerGroup
    rw [hcheck, bind_assoc, bind_assoc]
    refine congrArg (ask _ >>= ·) (funext fun found => ?_)
    rw [pure_bind]
    cases found.bind Record.serverGroup? <;> rfl
  rw [hread, run_ask_bind]
  refine congrArg (Program.call _) (funext fun found => ?_)
  cases found with
  | error e => rfl
  | ok found =>
      dsimp only
      cases found.bind Record.serverGroup? <;> rfl

theorem step_setGroupProxy (hs : s.Sound)
    (hg : s.find? ⟨.serverGroup, x⟩ = some (.serverGroup g)) {p : Protocol}
    {r : Option ReverseProxyRef} (htext : proxyText r = .ok text) :
    (setGroupProxy x p r).run.step s = ((writeSlot x g p text).run, s) := by
  rw [setGroupProxy_run (hs.positive hg), htext]
  simp only [Program.step, Store.answer, hg]
  rfl

theorem saves_writeSlot (x : Int) (g : ServerGroup) (p : Protocol) (text : RefText) :
    (writeSlot x g p text).run.Saves := by
  unfold writeSlot
  rw [run_ask_bind]
  exact ⟨_, _, rfl⟩

/-- An edit that has still to write has not ended. -/
theorem ne_done_of_unwritten_slot (hx : 0 < x) {p : Protocol} {r : Option ReverseProxyRef}
    {q : Program (Except Failure Outcome)}
    (h : q = (setGroupProxy x p r).run ∨ q = (writeSlot x g p text).run)
    (o : Except Failure Outcome) : q ≠ .done o := by
  rintro rfl
  rcases h with h | h
  · rw [setGroupProxy_run hx] at h
    cases h
  · obtain ⟨record, next, hnext⟩ := saves_writeSlot x g p text
    rw [hnext] at h
    cases h

/-- The group is written as it was read, but for the slot. -/
theorem step_writeSlot (hs : s.Sound) {old : Record} (hold : s.find? ⟨.serverGroup, x⟩ = some old)
    (hid : g.id = x) (p : Protocol) (text : RefText) :
    ∃ t, (writeSlot x g p text).run.step s = ((notifyOf ⟨.serverGroup, x⟩).run, t) ∧ t.Sound ∧
      t.find? ⟨.serverGroup, x⟩ = some (.serverGroup (g.withSlot p text)) := by
  have href : (Record.serverGroup (g.withSlot p text)).ref = ⟨.serverGroup, x⟩ := by
    rw [← hid, ← id_withSlot g p text]
    rfl
  have hsave := hs.save_stored (href ▸ hold)
  refine ⟨s.put (.serverGroup (g.withSlot p text)), ?_, hs.save hsave, ?_⟩
  · unfold writeSlot
    rw [run_ask_bind]
    simp only [Program.step, Store.answer, hsave]
  · rw [Store.find?_put, href, if_pos rfl]

/-- An edit whose reference is rejected does not end well. -/
theorem ends_setGroupProxy (hx : 0 < x) (p : Protocol) {r : Option ReverseProxyRef} {e : Failure}
    (h : proxyText r = .error e) : (setGroupProxy x p r).run.Ends fun o => o.isOk = false := by
  rw [setGroupProxy_run hx, h]
  rintro (_ | found) -
  · rfl
  · dsimp only
    cases found.bind Record.serverGroup? <;> rfl

/-- Two edits that share a store. -/
structure Edits where
  store : Store
  parts : Bool → Program (Except Failure Outcome)

namespace Edits

/-- One of the edits makes its next step. -/
def turn (σ : Edits) (i : Bool) : Edits :=
  let (q, s) := (σ.parts i).step σ.store
  { store := s, parts := Function.update σ.parts i q }

def start (s : Store) (x : Int) (p : Bool → Protocol) (r : Bool → Option ReverseProxyRef) : Edits where
  store := s
  parts i := (setGroupProxy x (p i) (r i)).run

/-- The edits after some turns. -/
def run (s : Store) (x : Int) (p : Bool → Protocol) (r : Bool → Option ReverseProxyRef)
    (turns : List Bool) : Edits :=
  turns.foldl turn (start s x p r)

variable {σ : Edits} {p : Bool → Protocol} {r : Bool → Option ReverseProxyRef} {turns : List Bool}

theorem turn_eq (σ : Edits) (i : Bool) :
    (σ.parts i).step σ.store = ((σ.turn i).parts i, (σ.turn i).store) ∧
      (σ.turn i).parts (!i) = σ.parts !i := by
  simp [turn]

/-- An edit writes. -/
theorem turn_writes {i : Bool} (hσ : σ.store.Sound) {old : Record}
    (hold : σ.store.find? ⟨.serverGroup, x⟩ = some old) (hid : g.id = x)
    (hi : σ.parts i = (writeSlot x g (p i) text).run) :
    (σ.turn i).store.Sound ∧ ((σ.turn i).parts i).Makes Call.Propagates ∧
      (σ.turn i).store.find? ⟨.serverGroup, x⟩ = some (.serverGroup (g.withSlot (p i) text)) := by
  obtain ⟨hturn, -⟩ := turn_eq σ i
  obtain ⟨t, hstep, ht, hfind⟩ := step_writeSlot hσ hold hid (p i) text
  rw [hi, hstep, Prod.mk.injEq] at hturn
  obtain ⟨hself, rfl⟩ := hturn
  refine ⟨ht, ?_, hfind⟩
  rw [← hself]
  exact makes_notifyOf _

theorem run_append (s : Store) (x : Int) (p : Bool → Protocol) (r : Bool → Option ReverseProxyRef)
    (turns : List Bool) (i : Bool) : run s x p r (turns ++ [i]) = (run s x p r turns).turn i := by
  simp [run]

theorem sound_run (hs : s.Sound) (x : Int) (p : Bool → Protocol)
    (r : Bool → Option ReverseProxyRef) (turns : List Bool) : (run s x p r turns).store.Sound := by
  induction turns using List.reverseRecOn with
  | nil => exact hs
  | append_singleton turns i ih =>
      rw [run_append]
      exact Program.sound_step _ ih

/-- An edit that ended well has a reference to write. -/
theorem exists_text (hs : s.Sound) (hx : 0 < x) (i : Bool) {o : Outcome}
    (ho : (run s x p r turns).parts i = .done (.ok o)) : ∃ text, proxyText (r i) = .ok text := by
  cases htext : proxyText (r i) with
  | ok text => exact ⟨text, rfl⟩
  | error e =>
      have hends (turns : List Bool) :
          ((run s x p r turns).parts i).Ends fun o => o.isOk = false := by
        induction turns using List.reverseRecOn with
        | nil => exact ends_setGroupProxy hx (p i) htext
        | append_singleton turns j ih =>
            obtain ⟨hstep, hother⟩ := turn_eq (run s x p r turns) j
            rw [run_append]
            by_cases hj : i = j
            · subst hj
              have hends := ih.step (sound_run hs x p r turns)
              rwa [hstep] at hends
            · obtain rfl : i = !j := Bool.eq_not.2 hj
              rwa [hother]
      have hend := hends turns
      rw [ho] at hend
      cases hend

/-! ## The phases of two edits -/

/-- At some time both edits have read the group and neither has written. -/
def Met (s : Store) (x : Int) (p : Bool → Protocol) (r : Bool → Option ReverseProxyRef)
    (turns : List Bool) : Prop :=
  ∃ earlier, earlier <+: turns ∧ ∀ i, ((run s x p r earlier).parts i).Saves

theorem met_append_iff {i : Bool} :
    Met s x p r (turns ++ [i]) ↔
      Met s x p r turns ∨ ∀ j, ((run s x p r (turns ++ [i])).parts j).Saves := by
  constructor
  · rintro ⟨earlier, hpre, hboth⟩
    rcases List.prefix_concat_iff.1 hpre with rfl | hpre
    · exact .inr hboth
    · exact .inl ⟨earlier, hpre, hboth⟩
  · rintro (⟨earlier, hpre, hboth⟩ | hboth)
    · exact ⟨earlier, hpre.trans (List.prefix_append _ _), hboth⟩
    · exact ⟨_, List.prefix_rfl, hboth⟩

/-- How many of the writes have been made. -/
inductive Phase (s : Store) (g : ServerGroup) (p : Bool → Protocol)
    (r : Bool → Option ReverseProxyRef) (text : Bool → RefText) (σ : Edits) (met : Prop) : Prop where
  | unwritten : σ.store = s →
      (∀ i, σ.parts i = (setGroupProxy g.id (p i) (r i)).run ∨
        σ.parts i = (writeSlot g.id g (p i) (text i)).run) →
      (met ↔ ∀ i, (σ.parts i).Saves) → Phase s g p r text σ met
  /-- The edit `w` has written; what the other one writes goes by what it reads or has read. -/
  | between (w : Bool) : σ.store.Sound →
      σ.store.find? ⟨.serverGroup, g.id⟩ = some (.serverGroup (g.withSlot (p w) (text w))) →
      (σ.parts w).Makes Call.Propagates →
      (¬met ∧ (σ.parts (!w) = (setGroupProxy g.id (p !w) (r !w)).run ∨
          σ.parts (!w) = (writeSlot g.id (g.withSlot (p w) (text w)) (p !w) (text !w)).run) ∨
        met ∧ σ.parts (!w) = (writeSlot g.id g (p !w) (text !w)).run) →
      Phase s g p r text σ met
  /-- The edit `w` has written, and then the other one. -/
  | written (w : Bool) : σ.store.Sound → (∀ i, (σ.parts i).Makes Call.Propagates) →
      (¬met ∧ σ.store.find? ⟨.serverGroup, g.id⟩
          = some (.serverGroup ((g.withSlot (p w) (text w)).withSlot (p !w) (text !w))) ∨
        met ∧ σ.store.find? ⟨.serverGroup, g.id⟩
          = some (.serverGroup (g.withSlot (p !w) (text !w)))) →
      Phase s g p r text σ met

theorem not_saves_setGroupProxy (hx : 0 < x) (p : Protocol) (r : Option ReverseProxyRef) :
    ¬(setGroupProxy x p r).run.Saves := by
  rw [setGroupProxy_run hx]
  rintro ⟨record, next, hnext⟩
  cases hnext

section

variable {text : Bool → RefText} {met met' : Prop} {i : Bool} (hs : s.Sound)
  (hg : s.find? ⟨.serverGroup, g.id⟩ = some (.serverGroup g))
  (htext : ∀ i, proxyText (r i) = .ok (text i))
  (hmet : met' ↔ met ∨ ∀ j, ((σ.turn i).parts j).Saves)

include hmet in
/-- After a write nothing new is met. -/
theorem met_iff_of_propagates {w : Bool} (h : ((σ.turn i).parts w).Makes Call.Propagates) :
    met' ↔ met := by
  rw [hmet]
  exact or_iff_left fun hboth => h.not_saves (hboth w)

include hs hg htext hmet

theorem phase_turn_unwritten (hstore : σ.store = s)
    (hparts : ∀ i, σ.parts i = (setGroupProxy g.id (p i) (r i)).run ∨
      σ.parts i = (writeSlot g.id g (p i) (text i)).run)
    (hnow : met ↔ ∀ i, (σ.parts i).Saves) : Phase s g p r text (σ.turn i) met' := by
  have hunmet {j : Bool} (hj : σ.parts j = (setGroupProxy g.id (p j) (r j)).run) : ¬met := by
    intro h
    have hsaves := hnow.1 h j
    rw [hj] at hsaves
    exact not_saves_setGroupProxy (hs.positive hg) _ _ hsaves
  obtain ⟨hturn, hother⟩ := turn_eq σ i
  rcases hparts i with hi | hi
  · rw [hi, hstore, step_setGroupProxy hs hg (htext i), Prod.mk.injEq] at hturn
    refine .unwritten hturn.2.symm ?_ ?_
    · rw [Bool.forall_bool' i, ← hturn.1, hother]
      exact ⟨.inr rfl, hparts !i⟩
    · rw [hmet]
      exact or_iff_right (hunmet hi)
  · obtain ⟨hsound, hmakes, hfind⟩ := turn_writes (hstore ▸ hs) (hstore ▸ hg) rfl hi
    refine .between i hsound hfind hmakes ?_
    rw [hother, met_iff_of_propagates hmet hmakes]
    rcases hparts !i with hj | hj
    · exact .inl ⟨hunmet hj, .inl hj⟩
    · refine .inr ⟨hnow.2 ?_, hj⟩
      rw [Bool.forall_bool' i, hi, hj]
      exact ⟨saves_writeSlot .., saves_writeSlot ..⟩

omit hs hg in
theorem phase_turn_between {w : Bool} (hσ : σ.store.Sound)
    (hfind : σ.store.find? ⟨.serverGroup, g.id⟩ = some (.serverGroup (g.withSlot (p w) (text w))))
    (hmakes : (σ.parts w).Makes Call.Propagates)
    (hother : ¬met ∧ (σ.parts (!w) = (setGroupProxy g.id (p !w) (r !w)).run ∨
        σ.parts (!w) = (writeSlot g.id (g.withSlot (p w) (text w)) (p !w) (text !w)).run) ∨
      met ∧ σ.parts (!w) = (writeSlot g.id g (p !w) (text !w)).run) :
    Phase s g p r text (σ.turn i) met' := by
  obtain ⟨hturn, hkept⟩ := turn_eq σ i
  by_cases hi : i = w
  · subst hi
    obtain ⟨⟨v, hv⟩, hsound, hmakes', -⟩ := Program.step_propagates hσ hmakes
    rw [hturn] at hv hsound hmakes'
    refine .between i hsound ?_ hmakes' ?_
    · dsimp only at hv
      rw [hv]
      exact hfind
    · rwa [hkept, met_iff_of_propagates hmet hmakes']
  · obtain rfl : i = !w := Bool.eq_not.2 hi
    rw [Bool.not_not] at hkept
    have hmakes' : ((σ.turn !w).parts w).Makes Call.Propagates := by rwa [hkept]
    have hall (h : ((σ.turn !w).parts !w).Makes Call.Propagates) :
        ∀ j, ((σ.turn !w).parts j).Makes Call.Propagates := by
      rw [Bool.forall_bool' w]
      exact ⟨hmakes', h⟩
    rcases hother with ⟨hun, hi | hi⟩ | ⟨hm, hi⟩
    · rw [hi, step_setGroupProxy hσ hfind (htext !w), Prod.mk.injEq] at hturn
      refine .between w (hturn.2 ▸ hσ) (hturn.2 ▸ hfind) hmakes' ?_
      rw [met_iff_of_propagates hmet hmakes']
      exact .inl ⟨hun, .inr hturn.1.symm⟩
    · obtain ⟨hsound, hself, hfind'⟩ := turn_writes hσ hfind (id_withSlot ..) hi
      refine .written w hsound (hall hself) ?_
      rw [met_iff_of_propagates hmet hmakes']
      exact .inl ⟨hun, hfind'⟩
    · obtain ⟨hsound, hself, hfind'⟩ := turn_writes hσ hfind rfl hi
      refine .written w hsound (hall hself) ?_
      rw [met_iff_of_propagates hmet hmakes']
      exact .inr ⟨hm, hfind'⟩

theorem Phase.turn (h : Phase s g p r text σ met) : Phase s g p r text (σ.turn i) met' := by
  cases h with
  | unwritten hstore hparts hnow =>
      exact phase_turn_unwritten hs hg htext hmet hstore hparts hnow
  | between w hσ hfind hmakes hother => exact phase_turn_between htext hmet hσ hfind hmakes hother
  | written w hσ hmakes hfind =>
      obtain ⟨hturn, hkept⟩ := turn_eq σ i
      obtain ⟨⟨v, hv⟩, hsound, hmakes', -⟩ := Program.step_propagates hσ (hmakes i)
      rw [hturn] at hv hsound hmakes'
      dsimp only at hv
      refine .written w hsound ?_ ?_
      · rw [Bool.forall_bool' i, hkept]
        exact ⟨hmakes', hmakes !i⟩
      · rw [met_iff_of_propagates hmet hmakes', hv]
        exact hfind

omit hmet in
theorem phase_run (turns : List Bool) :
    Phase s g p r text (run s g.id p r turns) (Met s g.id p r turns) := by
  induction turns using List.reverseRecOn with
  | nil =>
      refine .unwritten rfl (fun _ => .inl rfl) ⟨fun h => ?_, fun h => ⟨[], List.prefix_rfl, h⟩⟩
      obtain ⟨earlier, hpre, hboth⟩ := h
      rwa [List.prefix_nil.1 hpre] at hboth
  | append_singleton turns i ih =>
      rw [run_append]
      refine ih.turn hs hg htext ?_
      rw [met_append_iff, run_append]

end

/-- Two edits of different slots of a stored group that both end well: in the end the group is as it was
but for both slots, which are set as the edits say, unless at some time both edits had read the group
and neither had written. In that case only the slot of one of them is set. -/
theorem both_set_unless_met (h : s.Reachable)
    (hg : s.find? ⟨.serverGroup, x⟩ = some (.serverGroup g)) (hp : p false ≠ p true)
    (hσ : run s x p r turns = σ) (hok : ∀ i, ∃ o, (σ.parts i).result? = some (.ok o)) :
    ∃ text : Bool → RefText, (∀ i, proxyText (r i) = .ok (text i)) ∧
      (¬Met s x p r turns → σ.store.find? ⟨.serverGroup, x⟩ = some (.serverGroup
        ((g.withSlot (p false) (text false)).withSlot (p true) (text true)))) ∧
      (Met s x p r turns → ∃ w, σ.store.find? ⟨.serverGroup, x⟩
        = some (.serverGroup (g.withSlot (p w) (text w)))) := by
  have hs := h.sound
  have hx : 0 < x := hs.positive hg
  obtain rfl : g.id = x := congrArg EntityRef.id (hs.own hg)
  have hdone (i : Bool) : ∃ o, σ.parts i = .done (.ok o) :=
    (hok i).imp fun o ho => Program.eq_done_of_result? ho
  have htexts (i : Bool) : ∃ text, proxyText (r i) = .ok text := by
    obtain ⟨o, ho⟩ := hdone i
    rw [← hσ] at ho
    exact exists_text hs hx i ho
  choose text htext using htexts
  have hunfinished {q : ServerGroup} {i : Bool}
      (hi : σ.parts i = (setGroupProxy g.id (p i) (r i)).run ∨
        σ.parts i = (writeSlot g.id q (p i) (text i)).run) : False := by
    obtain ⟨o, ho⟩ := hdone i
    exact ne_done_of_unwritten_slot hx hi _ ho
  have hphase := phase_run hs hg htext turns (p := p)
  rw [hσ] at hphase
  refine ⟨text, htext, ?_⟩
  cases hphase with
  | unwritten _ hparts _ => exact (hunfinished (hparts true)).elim
  | between w _ _ _ hother =>
      rcases hother with ⟨-, hi⟩ | ⟨-, hi⟩
      · exact (hunfinished hi).elim
      · exact (hunfinished (.inr hi)).elim
  | written w _ _ hfind =>
      rcases hfind with ⟨hun, hfind⟩ | ⟨hm, hfind⟩
      · refine ⟨fun _ => ?_, fun hm => absurd hm hun⟩
        cases w with
        | false => exact hfind
        | true => rw [g.withSlot_comm hp]; exact hfind
      · exact ⟨fun hun => absurd hm hun, fun _ => ⟨!w, hfind⟩⟩

/-- A group whose slots are empty. -/
def oneGroup : Store := (Store.empty.loadSeed { groups := [{ id := 3 }] }).2

/-- One edit sets the HTTP slot, the other one the TCP slot. -/
def slots : Bool → Protocol
  | false => .http
  | true => .tcp

def proxies : Bool → Option ReverseProxyRef
  | false => some { reverseProxyId := 7 }
  | true => some { reverseProxyId := 8 }

/-- One edit after the other. -/
def apart : List Bool := List.replicate 20 false ++ List.replicate 20 true

/-- Both edits read before either writes. -/
def together : List Bool := [false, true] ++ apart

theorem both_set_unless_met_apart :
    ¬Met oneGroup 3 slots proxies apart ∧
      ∃ text : Bool → RefText, (∀ i, proxyText (proxies i) = .ok (text i)) ∧
        (run oneGroup 3 slots proxies apart).store.find? ⟨.serverGroup, 3⟩ = some (.serverGroup
          { id := 3, httpReverseProxy := text false, tcpReverseProxy := text true }) := by
  have hreach : oneGroup.Reachable := .seed _ .empty
  have hg : oneGroup.find? ⟨.serverGroup, 3⟩ = some (.serverGroup { id := 3 }) := by decide +kernel
  have hslots : slots false ≠ slots true := by decide
  have hok (i : Bool) :
      ∃ o, ((run oneGroup 3 slots proxies apart).parts i).result? = some (.ok o) := by
    refine Program.exists_ok_of_isOk ?_
    cases i <;> decide +kernel
  obtain ⟨text, htext, hboth, hone⟩ := both_set_unless_met hreach hg hslots rfl hok
  have hfilled : (((run oneGroup 3 slots proxies apart).store.find? ⟨.serverGroup, 3⟩).bind
      Record.serverGroup?).map (fun g => decide (g.slot .http ≠ .empty ∧ g.slot .tcp ≠ .empty))
        = some true := by decide +kernel
  have hunmet : ¬Met oneGroup 3 slots proxies apart := by
    intro hm
    obtain ⟨w, hw⟩ := hone hm
    rw [hw] at hfilled
    cases w with
    | false => simp [Record.serverGroup?, slots, ServerGroup.withSlot, ServerGroup.slot] at hfilled
    | true => simp [Record.serverGroup?, slots, ServerGroup.withSlot, ServerGroup.slot] at hfilled
  exact ⟨hunmet, text, htext, hboth hunmet⟩

/-- Both edits end well, and the slot that was written first is empty again. -/
theorem first_slot_lost_together :
    oneGroup.Reachable ∧ oneGroup.find? ⟨.serverGroup, 3⟩ = some (.serverGroup { id := 3 }) ∧
      slots false ≠ slots true ∧
      (∀ i, ∃ o, ((run oneGroup 3 slots proxies together).parts i).result? = some (.ok o)) ∧
      ∃ text : Bool → RefText, (∀ i, proxyText (proxies i) = .ok (text i)) ∧
        (run oneGroup 3 slots proxies together).store.find? ⟨.serverGroup, 3⟩
          = some (.serverGroup { id := 3, tcpReverseProxy := text true }) ∧
        text false ≠ .empty := by
  refine ⟨.seed _ .empty, by decide +kernel, by decide, fun i => ?_,
    fun i => .encode (ReverseProxyRef.toJson ⟨if i then 8 else 7, true, false⟩), fun i => ?_, ?_, ?_⟩
  · refine Program.exists_ok_of_isOk ?_
    cases i <;> decide +kernel
  · cases i <;> rfl
  · decide +kernel
  · decide +kernel

end Edits

end Fleet
