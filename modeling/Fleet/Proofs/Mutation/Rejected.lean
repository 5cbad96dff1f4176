import Fleet.Proofs.Mutation.Strained

/-!
# Rejected mutations

A mutation is rejected if its arguments are out of range or name what is not stored. All checks come
before the first write, and what follows a write checks nothing that can fail: the ids that it notifies
of are those of stored records. So a rejected mutation has changed nothing, also where the store may fail
any call.
-/

namespace Fleet

/-- The failure is a fault of the arguments. -/
def Failure.IsRejection : Failure → Prop
  | .invalid _ _ | .notFound _ => True
  | .undecodable _ _ | .store _ => False

/-! ## Answers -/

namespace Call

/-- Saved records have positive ids. -/
def Sane : (c : Call) → Except StoreError c.Answer → Prop
  | .save _, .ok id => (0 : Int) < id
  | _, _ => True

/-- With this answer the call may have changed the store. -/
def Wrote : (c : Call) → Except StoreError c.Answer → Prop
  | .updateState _ _, .ok found => found = true
  | .save _, .ok _ | .mark _, .ok _ | .ack _ _, .ok _ => True
  | _, _ => False

theorem sane_error (c : Call) (e : StoreError) : c.Sane (.error e) := by
  cases c <;> trivial

end Call

namespace Store

variable {s : Store}

theorem Sound.sane_answer (hs : s.Sound) (c : Call) : c.Sane (s.answer c).1 := by
  cases c with
  | save r =>
      cases h : s.save r with
      | ok p =>
          obtain ⟨id, t⟩ := p
          have hanswer : s.answer (.save r) = (.ok id, t) := by simp [Store.answer, h]
          obtain ⟨_, hpos, -⟩ := save_cases hs h
          rw [hanswer]
          exact hpos
      | error e =>
          have hanswer : s.answer (.save r) = (.error e, s) := by simp [Store.answer, h]
          rw [hanswer]
          exact Call.sane_error _ e
  | _ => trivial

theorem answer_of_not_wrote {c : Call} (h : ¬c.Wrote (s.answer c).1) : (s.answer c).2 = s := by
  cases c with
  | save r =>
      cases hr : s.save r with
      | ok p => simp [answer, hr, Call.Wrote] at h
      | error e => simp [answer, hr]
  | updateState x state =>
      cases hr : s.find? x with
      | none => simp [answer, updateState_of_find?_eq_none hr]
      | some r => simp [answer, updateState_of_find?_eq_some hr, Call.Wrote] at h
  | mark n => exact absurd trivial h
  | ack n reported => exact absurd trivial h
  | _ => rfl

end Store

/-! ## Programs after a write -/

namespace Program

variable {α β : Type} {s t : Store} {Q : α → Prop}

/-- Whatever sane answers it gets, the program ends in `Q`. -/
def Ends (Q : α → Prop) : Program α → Prop
  | .done a => Q a
  | .note _ next => next.Ends Q
  | .call c next => ∀ r, c.Sane r → (next r).Ends Q

/-- Whatever sane answers it gets, from the first write on the program ends in `Q`. -/
def Guards (Q : α → Prop) : Program α → Prop
  | .done _ => True
  | .note _ next => next.Guards Q
  | .call c next => ∀ r, c.Sane r → (next r).Guards Q ∧ (c.Wrote r → (next r).Ends Q)

theorem Ends.guards {p : Program α} (h : p.Ends Q) : p.Guards Q := by
  induction p with
  | done a => trivial
  | note m next ih => exact ih h
  | call c next ih => exact fun r hr => ⟨ih r (h r hr), fun _ => h r hr⟩

theorem Ends.bind {R : β → Prop} {p : Program α} {f : α → Program β} (hp : p.Ends Q)
    (hf : ∀ a, Q a → (f a).Ends R) : (p >>= f).Ends R := by
  change (p.bind f).Ends R
  induction p with
  | done a => exact hf a hp
  | note m next ih => exact ih hp
  | call c next ih => exact fun r hr => ih r (hp r hr)

/-- What follows does not write. -/
theorem Guards.bind {R : β → Prop} {p : Program α} {f : α → Program β} (hp : p.Guards Q)
    (hf : ∀ a, (f a).Guards R) (hends : ∀ a, Q a → (f a).Ends R) : (p >>= f).Guards R := by
  change (p.bind f).Guards R
  induction p with
  | done a => exact hf a
  | note m next ih => exact ih hp
  | call c next ih =>
      intro r hr
      obtain ⟨hguards, hwrote⟩ := hp r hr
      exact ⟨ih r hguards, fun hw => (hwrote hw).bind hends⟩

theorem Makes.guards_bind {R : β → Prop} {p : Program α} {f : α → Program β}
    (hp : p.Makes Call.Finds) (hf : ∀ a, (f a).Guards R) : (p >>= f).Guards R := by
  change (p.bind f).Guards R
  induction p with
  | done a => exact hf a
  | note m next ih => exact ih hp
  | call c next ih =>
      refine fun r _ => ⟨ih r (hp.2 r), fun hwrote => ?_⟩
      have hfinds := hp.1
      cases c with
      | find x => cases r <;> exact hwrote.elim
      | _ => exact hfinds.elim

theorem Hampered.ends {p : Program α} {a : α} (h : p.Hampered s a t) (hs : s.Sound)
    (hp : p.Ends Q) : Q a := by
  induction h with
  | done => exact hp
  | note _ ih => exact ih hs hp
  | @answered c _ _ _ _ _ ih => exact ih (hs.answer c) (hp _ (hs.sane_answer c))
  | @failed c e _ _ _ _ _ ih => exact ih hs (hp _ (c.sane_error e))

/-- A guarded program that does not end in `Q` has not written. -/
theorem Hampered.eq_or {p : Program α} {a : α} (h : p.Hampered s a t) (hs : s.Sound)
    (hp : p.Guards Q) : t = s ∨ Q a := by
  induction h with
  | done => exact .inl rfl
  | note _ ih => exact ih hs hp
  | @answered c _ s _ _ hrest ih =>
      obtain ⟨hguards, hends⟩ := hp _ (hs.sane_answer c)
      -- from the first write on `Q` is certain, and until then the store is still the first one
      by_cases hwrote : c.Wrote (s.answer c).1
      · exact .inr (hrest.ends (hs.answer c) (hends hwrote))
      · have hsame : (s.answer c).2 = s := Store.answer_of_not_wrote hwrote
        have hend := ih (hs.answer c) hguards
        rwa [hsame] at hend
  | @failed c e _ _ _ _ _ ih => exact ih hs (hp _ (c.sane_error e)).1

end Program

namespace Action

variable {α β : Type} {a : Action α} {f : α → Action β} {s : Store}

/-- The outcome is no rejection. -/
def Accepted : Except Failure α → Prop
  | .ok _ => True
  | .error e => ¬e.IsRejection

theorem not_accepted_iff {r : Except Failure α} :
    ¬Accepted r ↔ ∃ e : Failure, e.IsRejection ∧ r = .error e := by
  cases r with
  | ok a => simp [Accepted]
  | error e => simp [Accepted]

/-- Whatever sane answers it gets, the action is not rejected. -/
abbrev Settles (a : Action α) : Prop := a.run.Ends Accepted

/-- Whatever sane answers it gets, the action is not rejected after a write. -/
abbrev Guarded (a : Action α) : Prop := a.run.Guards Accepted

theorem settles_bind (ha : a.Settles) (hf : ∀ x, (f x).Settles) : (a >>= f).Settles := by
  unfold Settles
  rw [ExceptT.run_bind]
  refine Program.Ends.bind ha fun r hr => ?_
  cases r with
  | ok x => exact hf x
  | error e => exact hr

/-- A call whose answer is sane, and what follows it. -/
theorem settles_ask_bind {c : Call} {f : c.Answer → Action β}
    (hf : ∀ x, c.Sane (.ok x) → (f x).Settles) : (ask c >>= f).Settles := by
  unfold Settles
  rw [run_ask_bind]
  intro r hr
  cases r with
  | ok x => exact hf x hr
  | error e => exact id

theorem settles_ask (c : Call) : (ask c).Settles := by
  intro r hr
  cases r with
  | ok x => trivial
  | error e => exact id

theorem guarded_bind_finds (ha : a.run.Makes Call.Finds) (hf : ∀ x, (f x).Guarded) :
    (a >>= f).Guarded := by
  unfold Guarded
  rw [ExceptT.run_bind]
  refine ha.guards_bind fun r => ?_
  cases r with
  | ok x => exact hf x
  | error e => trivial

theorem guarded_check_bind {r : Except Failure α} (hf : ∀ x, r = .ok x → (f x).Guarded) :
    (check r >>= f).Guarded := by
  cases r with
  | ok x => exact hf x rfl
  | error e => trivial

theorem guarded_map (g : α → β) (ha : a.Guarded) : (g <$> a).Guarded := by
  rw [← bind_pure_comp]
  unfold Guarded
  rw [ExceptT.run_bind]
  refine Program.Guards.bind ha (fun r => ?_) fun r hr => ?_
  · cases r <;> trivial
  · cases r with
    | ok x => trivial
    | error e => exact hr

theorem Settles.on (h : a.Settles) (hs : s.Sound) : Accepted (a.on s).1 :=
  (Program.hampered_run a.run s).ends hs h

end Action

open Fleet.Action

/-! ## Propagations -/

theorem settles_visit (w : Walk) (x : EntityRef) : (w.visit x).Settles := by
  have hparents : (ask (.parents x) >>= fun parents => pure (parents.foldl Walk.meet w)).Settles :=
    settles_bind (settles_ask _) fun _ => trivial
  obtain ⟨k, id⟩ := x
  cases k with
  | node =>
      refine settles_bind (settles_bind (settles_ask _) fun _ => trivial) fun n => ?_
      cases n <;> trivial
  | cluster => exact settles_bind (settles_ask _) fun _ => trivial
  | server | serverGroup | reverseProxy | origin => exact hparents

theorem settles_foldlM_visit (xs : List EntityRef) (w : Walk) :
    (xs.foldlM Walk.visit w).Settles := by
  induction xs generalizing w with
  | nil => trivial
  | cons x xs ih =>
      rw [List.foldlM_cons]
      exact settles_bind (settles_visit w x) fun w => ih w

theorem settles_rounds (n : Nat) (round : List EntityRef) (w : Walk) :
    (Walk.rounds n round w).Settles := by
  induction n generalizing round w with
  | zero => trivial
  | succ n ih => exact settles_bind (settles_foldlM_visit _ _) fun w => ih _ w

theorem settles_affectedNodes (x : EntityRef) : (affectedNodes x).Settles :=
  settles_bind (settles_rounds _ _ _) fun _ => trivial

theorem settles_markAll (l : List Int) (report : Report) (error : Option StoreError) :
    (markAll l report error).Settles := by
  induction l generalizing report error with
  | nil => trivial
  | cons n l ih =>
      refine settles_bind (fun r _ => trivial) fun r => ?_
      cases r with
      | ok _ => exact ih _ _
      | error e => exact settles_bind trivial fun _ => ih _ _

/-- Of a positive id, whatever becomes of the marks. -/
theorem settles_notify {x : EntityRef} (h : 0 < x.id) : (notify x).Settles := by
  have hcheck : requireId "id" x.id = .ok () := if_neg (by omega)
  unfold notify
  rw [hcheck]
  refine settles_bind trivial fun _ => ?_
  refine settles_bind (settles_affectedNodes x) fun nodes => ?_
  refine settles_bind (settles_markAll _ _ _) fun r => ?_
  refine settles_bind trivial fun _ => ?_
  cases r.2 with
  | none => trivial
  | some e => exact id

theorem settles_notifyOf {x : EntityRef} (h : 0 < x.id) : (notifyOf x).Settles :=
  settles_bind (settles_notify h) fun _ => trivial

/-! ## After the checks -/

theorem settles_previousCluster (r : Server) : (previousCluster r).Settles := by
  unfold previousCluster
  split
  · exact settles_bind (settles_bind (settles_ask _) fun _ => trivial) fun _ => trivial
  · trivial

theorem settles_saveServer (r : Server) : (saveServer r).Settles := by
  refine settles_bind (settles_previousCluster r) fun previous => ?_
  refine settles_ask_bind fun id hid => settles_bind (settles_notifyOf hid) fun o => ?_
  cases previous with
  | none => trivial
  | some old =>
      dsimp only
      split
      · rename_i hold
        simp only [Bool.and_eq_true, decide_eq_true_eq] at hold
        exact settles_bind (settles_notify hold.1) fun _ => trivial
      · trivial

theorem settles_writeRecord (r : Record) : (writeRecord r).Settles := by
  cases r with
  | server r => exact settles_saveServer r
  | cluster _ | node _ | serverGroup _ | reverseProxy _ | origin _ =>
      exact settles_ask_bind fun id hid => settles_notifyOf hid

theorem settles_rankGroups (groups : List ServerGroup) (report : Report) :
    (rankGroups groups report).Settles := by
  induction groups generalizing report with
  | nil => trivial
  | cons g groups ih =>
      refine settles_ask_bind fun id hid => ?_
      exact settles_bind (settles_notify hid) fun _ => ih _

/-! ## Whole mutations -/

theorem pos_of_requireId {field : String} {id : Int} {u : Unit}
    (h : requireId field id = .ok u) : 0 < id := by
  unfold requireId at h
  split at h
  · cases h
  · omega

theorem guarded_saveRecord (r : Record) : (saveRecord r).Guarded := by
  rw [saveRecord_eq]
  exact guarded_check_bind fun _ _ => (settles_writeRecord r).guards

theorem settles_writeGroup {id : Int} (h : 0 < id) (g : ServerGroup) :
    (ask (.save (.serverGroup g)) >>= fun _ => notifyOf ⟨.serverGroup, id⟩).Settles :=
  settles_bind (settles_ask _) fun _ => settles_notifyOf h

theorem guarded_setGroupProxy (id : Int) (p : Protocol) (r : Option ReverseProxyRef) :
    (setGroupProxy id p r).Guarded := by
  refine guarded_check_bind fun _ hid => ?_
  refine guarded_bind_finds (makes_requireServerGroup id) fun g => ?_
  refine guarded_check_bind fun text _ => ?_
  exact (settles_writeGroup (pos_of_requireId hid) _).guards

theorem guarded_orderGroups (ids : List Int) : (orderGroups ids).Guarded := by
  by_cases hlen : ids.length ≤ 2147483647
  · rw [orderGroups_eq hlen]
    exact guarded_bind_finds (makes_readGroups [] ids) fun groups =>
      (settles_rankGroups groups {}).guards
  · rw [orderGroups, if_pos (by omega)]
    trivial

/-- A state that was not changed is answered by a rejection, one that was is not. -/
theorem guarded_setState (x : EntityRef) (enabled : Bool) : (setState x enabled).Guarded := by
  refine guarded_check_bind fun _ hid => ?_
  unfold Guarded
  rw [run_ask_bind]
  intro r _
  cases r with
  | error e => exact ⟨trivial, fun hwrote => hwrote.elim⟩
  | ok found =>
      cases found with
      -- nothing was stored there, so the rejection comes after no write
      | false => exact ⟨trivial, fun hwrote => Bool.noConfusion hwrote⟩
      | true =>
          have hrest : (notifyOf x).Settles := settles_notifyOf (pos_of_requireId hid)
          exact ⟨hrest.guards, fun _ => hrest⟩

theorem Mutation.guarded (m : Mutation) : m.action.Guarded := by
  cases m with
  | save r => exact guarded_map _ (guarded_saveRecord r)
  | setGroupProxy id p r => exact guarded_map _ (guarded_setGroupProxy id p r)
  | orderGroups ids => exact guarded_orderGroups ids
  | setState x enabled => exact guarded_map _ (guarded_setState x enabled)

/-! ## What is rejected -/

variable {s : Store}

theorem accepted_saveRecord (hs : s.Sound) (r : Record) :
    Accepted (on (saveRecord r) s).1 ↔ ¬(r.id < 0 ∨ r.id = Text.maxInt64) := by
  rw [saveRecord_eq]
  unfold checkId
  split
  · rename_i h
    exact iff_of_false (fun hn => hn trivial) (fun hn => hn (.inl h))
  · split
    · rename_i h
      exact iff_of_false (fun hn => hn trivial) (fun hn => hn (.inr h))
    · rename_i hneg hmax
      exact iff_of_true ((settles_writeRecord r).on hs) (not_or.2 ⟨hneg, hmax⟩)

theorem accepted_setState (hs : s.Sound) (x : EntityRef) (enabled : Bool) :
    Accepted (on (setState x enabled) s).1 ↔ ¬(x.id ≤ 0 ∨ s.find? x = none) := by
  unfold setState requireId
  split
  · rename_i h
    exact iff_of_false (fun hn => hn trivial) (fun hn => hn (.inl h))
  · rename_i hpos
    rw [on_bind, on_check]
    dsimp only
    rw [on_bind, on_ask]
    cases hr : s.find? x with
    | none =>
        simp only [Store.answer, Store.updateState_of_find?_eq_none hr]
        exact iff_of_false (fun hn => hn trivial) (by simp)
    | some r =>
        have hsound := hs.updateState x (.ofBool enabled)
        simp only [Store.answer, Store.updateState_of_find?_eq_some hr] at hsound ⊢
        refine iff_of_true ((settles_notifyOf (by omega)).on hsound) ?_
        simp [hpos]

theorem on_requireServerGroup (hs : s.Sound) (id : Int) :
    (∃ g, s.find? ⟨.serverGroup, id⟩ = some (.serverGroup g) ∧
        on (requireServerGroup id) s = (.ok g, s)) ∨
      s.find? ⟨.serverGroup, id⟩ = none ∧
        on (requireServerGroup id) s = (.error (.notFound ⟨.serverGroup, id⟩), s) := by
  unfold requireServerGroup
  rw [on_bind, on_findServerGroup]
  cases hr : s.find? ⟨.serverGroup, id⟩ with
  | none => exact .inr ⟨rfl, rfl⟩
  | some r =>
      have hkind : r.kind = .serverGroup := congrArg EntityRef.kind (hs.own hr)
      cases r <;> cases hkind
      exact .inl ⟨_, rfl, rfl⟩

theorem accepted_setGroupProxy (hs : s.Sound) (id : Int) (p : Protocol)
    (r : Option ReverseProxyRef) :
    Accepted (on (setGroupProxy id p r) s).1 ↔
      ¬(id ≤ 0 ∨ s.find? ⟨.serverGroup, id⟩ = none ∨ ∃ ref ∈ r, ref.reverseProxyId < 0) := by
  unfold setGroupProxy requireId
  split
  · rename_i h
    exact iff_of_false (fun hn => hn trivial) (fun hn => hn (.inl h))
  · rename_i hpos
    rw [on_bind, on_check]
    dsimp only
    rw [on_bind]
    rcases on_requireServerGroup hs id with ⟨g, hg, hon⟩ | ⟨hg, hon⟩
    · rw [hon]
      dsimp only
      rw [on_bind, on_check]
      unfold proxyText
      cases r with
      | none =>
          refine iff_of_true ((settles_writeGroup (by omega) _).on hs) ?_
          simp [hpos, hg]
      | some ref =>
          by_cases hneg : ref.reverseProxyId < 0
          · simp only [if_pos hneg]
            exact iff_of_false (fun hn => hn trivial) (by simp [hneg])
          · simp only [if_neg hneg]
            refine iff_of_true ((settles_writeGroup (by omega) _).on hs) ?_
            simp [hpos, hg, hneg]
    · rw [hon]
      exact iff_of_false (fun hn => hn trivial) (by simp [hg])

/-- The ids are positive, listed once, none of the earlier ones, and of stored groups. -/
def Store.Lists (s : Store) (earlier ids : List Int) : Prop :=
  ids.Nodup ∧ ∀ id ∈ ids, 0 < id ∧ id ∉ earlier ∧ s.find? ⟨.serverGroup, id⟩ ≠ none

theorem Store.lists_cons {earlier ids : List Int} {id : Int} :
    s.Lists earlier (id :: ids) ↔
      0 < id ∧ id ∉ earlier ∧ s.find? ⟨.serverGroup, id⟩ ≠ none ∧ s.Lists (earlier ++ [id]) ids := by
  simp only [Lists, List.nodup_cons, List.forall_mem_cons, List.mem_append, List.mem_singleton,
    not_or]
  constructor
  · rintro ⟨⟨hid, hnodup⟩, ⟨hpos, hnew, hstored⟩, hall⟩
    refine ⟨hpos, hnew, hstored, hnodup, fun j hj => ?_⟩
    obtain ⟨hjpos, hjnew, hjstored⟩ := hall j hj
    exact ⟨hjpos, ⟨hjnew, fun h => hid (h ▸ hj)⟩, hjstored⟩
  · rintro ⟨hpos, hnew, hstored, hnodup, hall⟩
    refine ⟨⟨fun hid => (hall id hid).2.1.2 rfl, hnodup⟩, ⟨hpos, hnew, hstored⟩, fun j hj => ?_⟩
    obtain ⟨hjpos, ⟨hjnew, -⟩, hjstored⟩ := hall j hj
    exact ⟨hjpos, hjnew, hjstored⟩

theorem on_readGroups (hs : s.Sound) (earlier ids : List Int) :
    s.Lists earlier ids ∧ (∃ groups, on (readGroups earlier ids) s = (.ok groups, s)) ∨
      ¬s.Lists earlier ids ∧ ∃ e, on (readGroups earlier ids) s = (.error e, s) ∧ e.IsRejection := by
  induction ids generalizing earlier with
  | nil => exact .inl ⟨⟨.nil, fun _ h => nomatch h⟩, [], rfl⟩
  | cons id ids ih =>
      rw [Store.lists_cons]
      unfold readGroups requireId
      split
      · exact .inr ⟨fun h => by omega, _, rfl, trivial⟩
      · rename_i hpos
        rw [on_bind, on_check]
        dsimp only
        split
        · rename_i hlisted
          refine .inr ⟨fun h => h.2.1 (by simpa using hlisted), _, rfl, trivial⟩
        · rename_i hnew
          simp only [List.contains_iff_mem] at hnew
          rw [on_bind]
          rcases on_requireServerGroup hs id with ⟨g, hg, hon⟩ | ⟨hg, hon⟩
          · rw [hon]
            dsimp only
            rw [on_bind]
            rcases ih (earlier ++ [id]) with ⟨hlists, groups, hrest⟩ | ⟨hlists, e, hrest, he⟩
            · rw [hrest]
              exact .inl ⟨⟨by omega, hnew, by simp [hg], hlists⟩, _, rfl⟩
            · rw [hrest]
              exact .inr ⟨fun h => hlists h.2.2.2, e, rfl, he⟩
          · rw [hon]
            exact .inr ⟨fun h => h.2.2.1 hg, _, rfl, trivial⟩

theorem accepted_orderGroups (hs : s.Sound) (ids : List Int) :
    Accepted (on (orderGroups ids) s).1 ↔ ids.length ≤ 2147483647 ∧ s.Lists [] ids := by
  by_cases hlen : ids.length ≤ 2147483647
  · rw [orderGroups_eq hlen, on_bind]
    rcases on_readGroups hs [] ids with ⟨hlists, groups, hon⟩ | ⟨hlists, e, hon, he⟩
    · rw [hon]
      exact iff_of_true ((settles_rankGroups groups {}).on hs) ⟨hlen, hlists⟩
    · rw [hon]
      exact iff_of_false (fun hn => hn he) (fun hn => hlists hn.2)
  · rw [orderGroups, if_pos (by omega)]
    exact iff_of_false (fun hn => hn trivial) (fun hn => hlen hn.1)

/-- The arguments are out of range, or name what is not stored. -/
def Mutation.Refused (s : Store) : Mutation → Prop
  | .save r => r.id < 0 ∨ r.id = Text.maxInt64
  | .setGroupProxy id _ r =>
    id ≤ 0 ∨ s.find? ⟨.serverGroup, id⟩ = none ∨ ∃ ref ∈ r, ref.reverseProxyId < 0
  | .orderGroups ids =>
    2147483647 < ids.length ∨ ¬ids.Nodup ∨
      ∃ id ∈ ids, id ≤ 0 ∨ s.find? ⟨.serverGroup, id⟩ = none
  | .setState x _ => x.id ≤ 0 ∨ s.find? x = none

theorem Action.accepted_map {α β : Type} (f : α → β) (r : Except Failure α) :
    Accepted (r.map f) ↔ Accepted r := by
  cases r <;> exact Iff.rfl

theorem Mutation.accepted_iff (hs : s.Sound) (m : Mutation) :
    Accepted (m.action.on s).1 ↔ ¬m.Refused s := by
  cases m with
  | save r =>
      simp only [action, on_map, accepted_map]
      exact accepted_saveRecord hs r
  | setGroupProxy id p r =>
      simp only [action, on_map, accepted_map]
      exact accepted_setGroupProxy hs id p r
  | orderGroups ids =>
      refine (accepted_orderGroups hs ids).trans ?_
      simp only [Refused, Store.Lists, not_or, not_exists, not_and, not_not, not_lt, not_le,
        List.not_mem_nil, not_false_eq_true, true_and, ne_eq]
  | setState x enabled =>
      simp only [action, on_map, accepted_map]
      exact accepted_setState hs x enabled

/-- A mutation is rejected exactly for its arguments, and a rejected one leaves the store as it was, also
where any call to the store may fail. -/
theorem Mutation.rejected_unchanged (h : s.Reachable) (m : Mutation) :
    ((∃ e : Failure, e.IsRejection ∧ (m.action.on s).1 = .error e) ↔ m.Refused s) ∧
      (∀ e : Failure, e.IsRejection → (m.action.on s).1 = .error e → (m.action.on s).2 = s) ∧
      ∀ (f : FaultyStore) (e : Failure), f.store = s → e.IsRejection →
        (m.action.run.run FaultyStore.host f).1 = .error e →
          (m.action.run.run FaultyStore.host f).2.store = s := by
  have hs := h.sound
  have hunchanged : ∀ r t e, m.action.run.Hampered s r t → e.IsRejection → r = .error e → t = s := by
    rintro _ t e hrun he rfl
    exact (hrun.eq_or hs m.guarded).resolve_right fun hn => hn he
  refine ⟨?_, fun e he hrun => ?_, ?_⟩
  · rw [← not_accepted_iff, m.accepted_iff hs, not_not]
  · exact hunchanged _ _ e (m.action.run.hampered_run s) he hrun
  · rintro f e rfl he hrun
    exact hunchanged _ _ e (m.action.run.hampered_of_faulty f) he hrun

/-- One stored group. -/
def Store.grouped : Store := (Store.empty.answer (.save (.serverGroup { id := 3 }))).2

/-- The first group of the list is stored, the second is not. -/
theorem Mutation.rejected_unchanged_second_group :
    Store.grouped.Reachable ∧ (Mutation.orderGroups [3, 9]).Refused .grouped ∧
      (Action.on (Mutation.orderGroups [3, 9]).action .grouped).1
        = .error (.notFound ⟨.serverGroup, 9⟩) ∧
      (Action.on (Mutation.orderGroups [3, 9]).action .grouped).2 = .grouped := by
  have hreach : Store.grouped.Reachable := .call _ .empty
  have hrun : (Action.on (Mutation.orderGroups [3, 9]).action .grouped).1
      = .error (.notFound ⟨.serverGroup, 9⟩) := rfl
  have hrejection : (Failure.notFound ⟨.serverGroup, 9⟩).IsRejection := trivial
  obtain ⟨hiff, hunchanged, -⟩ := Mutation.rejected_unchanged hreach (.orderGroups [3, 9])
  exact ⟨hreach, hiff.1 ⟨_, hrejection, hrun⟩, hrun, hunchanged _ hrejection hrun⟩

end Fleet
