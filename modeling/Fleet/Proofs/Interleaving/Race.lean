import Fleet.Proofs.Interleaving.Bound
import Fleet.Proofs.Interleaving.Snapshots
import Fleet.Proofs.Mutation.Repeated
import Mathlib.Data.List.Induction

/-!
# Two saves of one server

Two saves of a stored server and a fetch of a node, their calls in any order. A save knows the
cluster that the server is moved out of from a read before its write. If both saves have read before
either writes, then none of them knows the cluster that the first one moved the server to and the
second one moved it out of; all other nodes are safe.
-/

namespace Fleet

open Fleet.Action

/-! ## One step at a time -/

namespace Program

variable {α : Type}

/-- A step of a propagation changes versions only, and marks what it is bound to mark. -/
theorem step_propagates {p : Program (Except Failure α)} {s : Store} (hs : s.Sound)
    (hp : p.Makes Call.Propagates) :
    s.SameFleet (p.step s).2 ∧ (p.step s).2.Sound ∧ (p.step s).1.Makes Call.Propagates ∧
      ∀ F n, F s → p.Marks F n →
        ((p.step s).2.version n).version = (s.version n).version → (p.step s).1.Marks F n := by
  cases p with
  | done r => exact ⟨.refl s, hs, hp, fun _ _ _ hm _ => hm⟩
  | note m next => exact ⟨.refl s, hs, hp, fun _ _ _ hm _ => hm⟩
  | call c next =>
      refine ⟨hp.1.sameFleet s, hs.answer c, hp.2 _, fun F n hF hm hv => ?_⟩
      rcases hm with rfl | hm
      · have hmark : ((s.mark n).version n).version = (s.version n).version := hv
        rw [Store.version_mark, if_pos rfl, NodeVersion.mark] at hmark
        exact absurd hmark (Nat.succ_ne_self _)
      · exact hm s hF

theorem version_le_step (p : Program α) (s : Store) (n : Int) :
    (s.version n).version ≤ ((p.step s).2.version n).version := by
  cases p with
  | done _ | note _ _ => exact le_refl _
  | call c _ => exact s.version_le_answer c n

end Program

/-- Two saves and a fetch that share a store. -/
structure Race where
  store : Store
  saves : Bool → Program (Except Failure Outcome)
  fetch : Program (Except Failure (Option NodeSnapshot))

namespace Race

/-- Who makes the next step. -/
inductive Turn where
  | save (i : Bool)
  | fetch
deriving DecidableEq, Repr

def play (σ : Race) : Turn → Race
  | .save i =>
    let (p, s) := (σ.saves i).step σ.store
    { σ with store := s, saves := Function.update σ.saves i p }
  | .fetch =>
    let (p, s) := σ.fetch.step σ.store
    { σ with store := s, fetch := p }

def start (s : Store) (r : Bool → Server) (n : Int) : Race where
  store := s
  saves i := (saveRecord (.server (r i))).run
  fetch := (fetchNode n).run

/-- The race after some turns. -/
def run (s : Store) (r : Bool → Server) (n : Int) (turns : List Turn) : Race :=
  turns.foldl play (start s r n)

theorem play_save_self (σ : Race) (i : Bool) :
    (σ.play (.save i)).saves i = ((σ.saves i).step σ.store).1 := by
  simp [play]

theorem play_save_other (σ : Race) (i : Bool) : (σ.play (.save i)).saves (!i) = σ.saves (!i) := by
  simp [play]

theorem run_append (s : Store) (r : Bool → Server) (n : Int) (turns : List Turn) (t : Turn) :
    run s r n (turns ++ [t]) = (run s r n turns).play t := by
  simp [run]

end Race

/-! ## The steps of a save -/

/-- The save of a server that has read where the server was. -/
def Server.writing (r : Server) (previous : Option Int) : Program (Except Failure Outcome) :=
  (ask (.save (.server r)) >>= notifyServer previous r.clusterId).run

namespace Race

variable {s t : Store} {n : Int} {a b : Server}

theorem saveRecord_run (hpos : 0 < b.id) (hlt : b.id < Text.maxInt64) :
    (saveRecord (.server b)).run = .call (.find ⟨.server, b.id⟩) fun
      | .ok x => b.writing ((x.bind Record.server?).map (·.clusterId))
      | .error e => .done (.error (.store e)) := by
  have hcheck : checkId (.server b) = .ok () := by
    unfold checkId
    rw [if_neg (show ¬ (Record.server b).id < 0 from not_lt.2 hpos.le),
      if_neg (show ¬ (Record.server b).id = Text.maxInt64 from hlt.ne)]
  have hsave : saveRecord (.server b) = saveServer b := by
    unfold saveRecord
    rw [hcheck]
    rfl
  have hprevious : previousCluster b
      = (findServer b.id >>= fun x => pure (x.map (·.clusterId))) := if_pos hpos
  rw [hsave, saveServer_eq, hprevious]
  refine congrArg (Program.call _) (funext fun x => ?_)
  cases x <;> rfl

theorem step_saveRecord (hs : s.Sound) (ha : s.find? ⟨.server, b.id⟩ = some (.server a)) :
    (saveRecord (.server b)).run.step s = (b.writing (some a.clusterId), s) := by
  have hlt : b.id < s.nextId := hs.fresh ha
  have hle := hs.nextId_le
  rw [saveRecord_run (hs.positive ha) (by omega)]
  simp only [Program.step, Store.answer, ha]
  rfl

theorem writing_eq (b : Server) (previous : Option Int) :
    ∃ next, b.writing previous = .call (.save (.server b)) next := by
  unfold Server.writing
  rw [run_ask_bind]
  exact ⟨_, rfl⟩

/-- A save that has not written has not come to its end. -/
theorem ne_done_of_unwritten (hs : s.Sound) (ha : s.find? ⟨.server, b.id⟩ = some (.server a))
    {p : Program (Except Failure Outcome)} {o : Except Failure Outcome}
    (h : p = (saveRecord (.server b)).run ∨ ∃ previous, p = b.writing previous) : p ≠ .done o := by
  intro hp
  rcases h with rfl | ⟨previous, rfl⟩
  · have hlt : b.id < s.nextId := hs.fresh ha
    have hle := hs.nextId_le
    rw [saveRecord_run (hs.positive ha) (by omega)] at hp
    cases hp
  · obtain ⟨next, hnext⟩ := writing_eq b previous
    rw [hnext] at hp
    cases hp

theorem step_writing {previous : Option Int} (h : s.save (.server b) = .ok (b.id, t)) :
    (b.writing previous).step s = ((notifyServer previous b.clusterId b.id).run, t) := by
  unfold Server.writing
  rw [run_ask_bind]
  simp only [Program.step, Store.answer, h]

/-- A node and the clusters are what they were. -/
structure Kept (s t : Store) (n : Int) : Prop where
  nodes : ∀ k, n ∈ t.enabledNodes k ↔ n ∈ s.enabledNodes k
  clusters : ∀ k, t.isEnabled ⟨.cluster, k⟩ = s.isEnabled ⟨.cluster, k⟩

theorem Kept.trans {u : Store} (h : Kept s t n) (h' : Kept t u n) : Kept s u n where
  nodes k := (h'.nodes k).trans (h.nodes k)
  clusters k := (h'.clusters k).trans (h.clusters k)

theorem kept_of_sameFleet (h : s.SameFleet t) : Kept s t n := by
  obtain ⟨v, rfl⟩ := h
  exact ⟨fun _ => Iff.rfl, fun _ => rfl⟩

/-- A stored server is saved; that touches the nodes of the cluster that it comes to, and those of
the cluster that it leaves. -/
theorem exists_save (hs : s.Sound) (ha : s.find? ⟨.server, b.id⟩ = some (.server a)) :
    ∃ t, s.save (.server b) = .ok (b.id, t) ∧ t.Sound ∧
      t.find? ⟨.server, b.id⟩ = some (.server b) ∧ Kept s t n ∧
      (s.Touched t n → t.Reaches ⟨.server, b.id⟩ n ∨
        0 < a.clusterId ∧ a.clusterId ≠ b.clusterId ∧ n ∈ t.enabledNodes a.clusterId) := by
  obtain ⟨t, hsave⟩ : ∃ t, s.save (.server b) = .ok (b.id, t) := by
    have hpos : 0 < b.id := hs.positive ha
    have hlt : b.id < s.nextId := hs.fresh ha
    have hle := hs.nextId_le
    refine ⟨{ s with nextId := max s.nextId (b.id + 1) }.put (.server b), ?_⟩
    unfold Store.save
    rw [if_neg (show ¬ (Record.server b).id ≤ 0 from not_le.2 hpos),
      if_pos (show (Record.server b).id < Text.maxInt64 from by simp only [Record.id]; omega)]
    rfl
  have ht := hs.save hsave
  have hx : s.ChangedAt t ⟨.server, b.id⟩ := Store.changedAt_save hs hsave
  have hb : t.find? ⟨.server, b.id⟩ = some (.server b) := by
    rw [Store.find?_save hs hsave]
    exact if_pos rfl
  refine ⟨t, hsave, ht, hb, ⟨fun k => hx.mem_enabledNodes_iff hs ht (by simp),
    fun k => ?_⟩, fun htouched => ?_⟩
  · rw [Store.isEnabled, Store.isEnabled, hx.frame ⟨.cluster, k⟩ (by simp)]
  · rcases htouched.reaches hs ht hx with h | ⟨k, hk, ⟨a', b', ha', rfl, hb', hne⟩, h⟩
    · exact .inl h
    · rw [ha] at ha'
      rw [hb] at hb'
      cases ha'
      cases hb'
      exact .inr ⟨hk, fun he => hne he.symm, Store.reaches_cluster_iff.1 h⟩

/-! ## The fetch -/

variable {σ τ : Race} {D E : Prop}

/-- The fetch has done nothing yet, or it reads what the store still holds. Otherwise `D` is why the
version that it has read will not do. -/
def Current (σ : Race) (n : Int) (D : Prop) : Prop :=
  Traffic.Fetching none σ.store n σ.fetch ∨
    ∃ v p, σ.fetch = (p >>= fun r => pure (stamped v r)) ∧ p.Makes Call.Composes ∧
      v ≤ (σ.store.version n).version ∧ ((σ.store.version n).version = v → D)

theorem Current.imp (h : σ.Current n D) (hstore : τ.store = σ.store) (hfetch : τ.fetch = σ.fetch)
    (hE : D → E) : τ.Current n E := by
  unfold Current at h ⊢
  rw [hstore, hfetch]
  exact h.imp_right fun ⟨v, p, hp, hc, hle, hD⟩ => ⟨v, p, hp, hc, hle, fun hv => hE (hD hv)⟩

theorem Current.fetch (h : σ.Current n D) :
    (σ.play .fetch).store = σ.store ∧ (σ.play .fetch).Current n D := by
  rcases σ.fetch.step_cases σ.store with ⟨hsame, -⟩ | hstep
  · have hplay : σ.play .fetch = σ := by simp [play, hsame]
    rw [hplay]
    exact ⟨rfl, h⟩
  · rcases h with h | ⟨v, p, hp, hc, hle, hD⟩
    · obtain ⟨hstore, h⟩ := h.advance (.refl _) hstep
      refine ⟨hstore, .inl ?_⟩
      change Traffic.Fetching none (σ.fetch.step σ.store).2 n (σ.fetch.step σ.store).1
      rw [hstore]
      exact h
    · have hread : ∃ q, (σ.fetch.step σ.store).1 = (q >>= fun r => pure (stamped v r)) ∧
          q.Makes Call.Composes ∧ (σ.fetch.step σ.store).2 = σ.store := by
        rw [hp]
        cases p with
        | done r => exact ⟨.done r, rfl, hc, rfl⟩
        | note m next => exact ⟨next, rfl, hc, rfl⟩
        | call c next => exact ⟨next _, rfl, hc.2 _, Store.answer_of_isRead hc.1.isRead⟩
      obtain ⟨q, hq, hc, hstore⟩ := hread
      refine ⟨hstore, .inr ⟨v, q, hq, hc, ?_⟩⟩
      change v ≤ ((σ.fetch.step σ.store).2.version n).version ∧
        (((σ.fetch.step σ.store).2.version n).version = v → D)
      rw [hstore]
      exact ⟨hle, hD⟩

/-- What a change of the store touches has to be a reason. -/
theorem Current.change (h : σ.Current n D) (hs : σ.store.Sound) (ht : τ.store.Sound)
    (hfetch : τ.fetch = σ.fetch)
    (hle : (σ.store.version n).version ≤ (τ.store.version n).version)
    (hE : (τ.store.version n).version = (σ.store.version n).version →
      D ∨ σ.store.Touched τ.store n → E) : τ.Current n E := by
  rcases h with h | ⟨v, p, hp, hc, hv, hD⟩
  · generalize hp : σ.fetch = p at h
    rw [← hfetch] at hp
    cases h with
    | begun =>
        refine .inl ?_
        rw [hp]
        exact .begun
    | @composing v p hc hfresh =>
        by_cases hv : (τ.store.version n).version = v
        · have hsame : (σ.store.version n).version = v := le_antisymm (hv ▸ hle) hfresh.le
          rcases hfresh.current hsame with ⟨_, hm, _⟩ | hl
          · cases hm
          · rcases hl.or_differ (t := τ.store) (makes_composeFresh _) with hl | ⟨c, hcs, hct, hne⟩
            · refine .inl ?_
              rw [hp]
              exact .composing hc ⟨hfresh.pos, hv.ge, fun _ => .inr hl⟩
            · refine .inr ⟨v, p, hp, hc, hv.ge, fun _ => hE (hv.trans hsame.symm) (.inr ?_)⟩
              exact ⟨c, feeds_of_mem_composeFresh hs c hcs, feeds_of_mem_composeFresh ht c hct, hne⟩
        · refine .inl ?_
          rw [hp]
          exact .composing hc ⟨hfresh.pos, le_trans hfresh.le hle, fun h => absurd h hv⟩
  · refine .inr ⟨v, p, hfetch.trans hp, hc, le_trans hv hle, fun hv' => ?_⟩
    have hsame : (σ.store.version n).version = v := le_antisymm (hv' ▸ hle) hv
    exact hE (hv'.trans hsame.symm) (.inl (hD hsame))

/-- In the end the snapshot is what the store holds, or there is a reason why not. -/
theorem Current.snapshot (h : σ.Current n D) {snapshot : NodeSnapshot}
    (hf : σ.fetch = .done (.ok (some snapshot)))
    (hv : (σ.store.version n).version = snapshot.version) :
    D ∨ (on (fetchNode n) σ.store).1 = .ok (some snapshot) := by
  rcases h with h | ⟨v, p, hp, -, -, hD⟩
  · rw [hf] at h
    obtain ⟨r, hr, hfresh⟩ := h.stamped rfl
    rcases hfresh.current hv with ⟨_, hm, _⟩ | hl
    · cases hm
    · rw [on_fetchNode hfresh.pos (hl.run (makes_composeFresh _)), hv]
      exact .inr hr
  · refine .inl (hD ?_)
    rw [hf] at hp
    cases p with
    | done r =>
        have hr : stamped v r = .ok (some snapshot) := (Program.done.inj hp).symm
        rw [hv, Traffic.version_of_stamped hr]
    | note _ _ => cases hp
    | call _ _ => cases hp

/-! ## The phases of a race -/

/-- Both saves have read where the server was, and neither has written. -/
def Met (s : Store) (r : Bool → Server) (n : Int) (turns : List Turn) : Prop :=
  ∃ earlier, earlier <+: turns ∧
    ∀ i, ∃ next, (run s r n earlier).saves i = .call (.save (.server (r i))) next

theorem Met.append {r : Bool → Server} {turns : List Turn} (h : Met s r n turns) (turn : Turn) :
    Met s r n (turns ++ [turn]) := by
  obtain ⟨earlier, hpre, hboth⟩ := h
  exact ⟨earlier, hpre.trans (List.prefix_append _ _), hboth⟩

/-- The node is in a cluster that the save `w` moved the server to, and the other one out of it
without knowing. -/
def Passed (s : Store) (r : Bool → Server) (old : Server) (n : Int) (turns : List Turn) (w : Bool) :
    Prop :=
  n ∈ s.enabledNodes (r w).clusterId ∧ (r w).clusterId ≠ old.clusterId ∧
    (r w).clusterId ≠ (r !w).clusterId ∧ Met s r n turns

theorem Passed.append {r : Bool → Server} {old : Server} {turns : List Turn} {w : Bool}
    (h : Passed s r old n turns w) (turn : Turn) : Passed s r old n (turns ++ [turn]) w :=
  ⟨h.1, h.2.1, h.2.2.1, h.2.2.2.append turn⟩

/-- The server is in the enabled cluster of the node. -/
def Serves (s : Store) (k n : Int) : Prop :=
  0 < k ∧ s.isEnabled ⟨.cluster, k⟩ = true ∧ n ∈ s.enabledNodes k

/-- How many writes have been made. -/
inductive Phase (s : Store) (r : Bool → Server) (old : Server) (n : Int) (turns : List Turn)
    (σ : Race) : Prop where
  | unwritten : σ.store = s →
      (∀ i, σ.saves i = (saveRecord (.server (r i))).run ∨
        σ.saves i = (r i).writing (some old.clusterId)) →
      σ.Current n False → Phase s r old n turns σ
  /-- The save `w` has written; what the other one writes is yet to come. -/
  | between (w : Bool) : σ.store.Sound →
      σ.store.find? ⟨.server, old.id⟩ = some (.server (r w)) → Kept s σ.store n →
      (σ.saves w).Makes Call.Propagates →
      (σ.saves (!w) = (saveRecord (.server (r !w))).run ∨
        σ.saves (!w) = (r !w).writing (some (r w).clusterId) ∨
        σ.saves (!w) = (r !w).writing (some old.clusterId) ∧ Met s r n turns) →
      σ.Current n ((σ.saves w).Marks (Kept s · n) n ∨ Serves s (r w).clusterId n) →
      Phase s r old n turns σ
  /-- The save `w` has written, and then the other one, which gave `u`. -/
  | written (w : Bool) (u : Store) : σ.store.Sound →
      σ.store.find? ⟨.server, old.id⟩ = some (.server (r !w)) → u.SameFleet σ.store →
      (∀ i, (σ.saves i).Makes Call.Propagates) →
      σ.Current n ((∃ i, (σ.saves i).Marks u.SameFleet n) ∨ Passed s r old n turns w) →
      Phase s r old n turns σ

/-! ## The turns of a race -/

section

variable {r : Bool → Server} {old : Server} {turns : List Turn}

theorem Phase.play_fetch (h : Phase s r old n turns σ) :
    Phase s r old n (turns ++ [.fetch]) (σ.play .fetch) := by
  cases h with
  | unwritten hstore hsaves hc =>
      obtain ⟨hkeep, hc⟩ := hc.fetch
      exact .unwritten (hkeep.trans hstore) hsaves hc
  | between w hs hr hkept hw hother hc =>
      obtain ⟨hkeep, hc⟩ := hc.fetch
      refine .between w (by rwa [hkeep]) (by rwa [hkeep]) (by rwa [hkeep]) hw ?_ hc
      exact hother.imp_right fun h => h.imp_right fun h => ⟨h.1, h.2.append _⟩
  | written w u hs hr hfleet hp hc =>
      obtain ⟨hkeep, hc⟩ := hc.fetch
      refine .written w u (by rwa [hkeep]) (by rwa [hkeep]) (by rwa [hkeep]) hp ?_
      exact hc.imp rfl rfl fun h => h.imp_right fun h => h.append _

/-- The first write: what it touches is marked if the server left it, and is remembered if the
server came to it. -/
theorem play_first_write (hs : s.Sound) (hold : s.find? ⟨.server, old.id⟩ = some (.server old))
    (hr : ∀ i, (r i).id = old.id) (hrun : σ = run s r n turns) (hstore : σ.store = s)
    (hsaves : ∀ i, σ.saves i = (saveRecord (.server (r i))).run ∨
      σ.saves i = (r i).writing (some old.clusterId))
    (hc : σ.Current n False) {w : Bool} (hw : σ.saves w = (r w).writing (some old.clusterId)) :
    Phase s r old n (turns ++ [.save w]) (σ.play (.save w)) := by
  obtain ⟨t, hsave, ht, hb, hkept, htouched⟩ := exists_save (n := n) (b := r w) hs (by rw [hr, hold])
  have hstep : (σ.saves w).step σ.store
      = ((notifyServer (some old.clusterId) (r w).clusterId (r w).id).run, t) := by
    rw [hstore, hw, step_writing hsave]
  have hself : (σ.play (.save w)).saves w
      = (notifyServer (some old.clusterId) (r w).clusterId (r w).id).run := by
    rw [play_save_self, hstep]
  have hstore' : (σ.play (.save w)).store = t := congrArg Prod.snd hstep
  rw [hr] at hb
  refine .between w (by rwa [hstore']) (by rwa [hstore']) (by rwa [hstore'])
    (by rw [hself]; exact makes_notifyServer _ _ _) ?_ ?_
  · rw [play_save_other]
    refine (hsaves !w).imp_right fun hother => .inr ⟨hother, turns, List.prefix_append _ _, ?_⟩
    rw [← hrun, Bool.forall_bool' w, hw, hother]
    exact ⟨writing_eq _ _, writing_eq _ _⟩
  · refine hc.change (by rwa [hstore]) (by rwa [hstore']) rfl (Program.version_le_step _ _ n) ?_
    rw [hstore, hstore', hself]
    intro _ h
    rcases htouched (h.resolve_left id) with h | ⟨hpos, hne, h⟩
    · rw [hr] at h
      obtain ⟨hpos, hon, hn⟩ := (Store.reaches_server_iff ht hb).1 h
      exact .inr ⟨hpos, by rwa [← hkept.clusters], (hkept.nodes _).1 hn⟩
    · refine .inl (marks_notifyServer_left _ hpos hne fun v hv => (hv.nodes _).2 ?_)
      exact (hkept.nodes _).1 h

/-- The second write: what the two writes touch is going to be marked, or the first one moved the
server there and the second one out of it without knowing. -/
theorem play_second_write {w : Bool} (hr : ∀ i, (r i).id = old.id) (hs : σ.store.Sound)
    (ha : σ.store.find? ⟨.server, old.id⟩ = some (.server (r w))) (hkept : Kept s σ.store n)
    (hp : (σ.saves w).Makes Call.Propagates) {k : Int}
    (hw : σ.saves (!w) = (r !w).writing (some k))
    (hk : k = (r w).clusterId ∨ k = old.clusterId ∧ Met s r n turns)
    (hc : σ.Current n ((σ.saves w).Marks (Kept s · n) n ∨ Serves s (r w).clusterId n)) :
    Phase s r old n (turns ++ [.save !w]) (σ.play (.save !w)) := by
  obtain ⟨u, hsave, hu, hb, hkept', htouched⟩ :=
    exists_save (n := n) (b := r !w) hs (by rw [hr, ha])
  have hstep : (σ.saves !w).step σ.store
      = ((notifyServer (some k) (r !w).clusterId (r !w).id).run, u) := by
    rw [hw, step_writing hsave]
  have hself : (σ.play (.save !w)).saves (!w)
      = (notifyServer (some k) (r !w).clusterId (r !w).id).run := by
    rw [play_save_self, hstep]
  have hother : (σ.play (.save !w)).saves w = σ.saves w := by
    have := play_save_other σ !w
    rwa [Bool.not_not] at this
  have hstore : (σ.play (.save !w)).store = u := congrArg Prod.snd hstep
  rw [hr] at hb htouched
  have hall := hkept.trans hkept'
  -- The server was in the cluster of the node before the second write and is no longer.
  have hleft (hpos : 0 < (r w).clusterId) (hne : (r w).clusterId ≠ (r !w).clusterId)
      (hn : n ∈ s.enabledNodes (r w).clusterId) :
      (∃ i, ((σ.play (.save !w)).saves i).Marks u.SameFleet n) ∨
        Passed s r old n (turns ++ [.save !w]) w := by
    by_cases hknown : k = (r w).clusterId
    · refine .inl ⟨!w, ?_⟩
      rw [hself, hknown]
      refine marks_notifyServer_left _ hpos hne fun v hv => ?_
      exact ((hall.trans (kept_of_sameFleet hv)).nodes _).2 hn
    · obtain ⟨rfl, hmet⟩ := hk.resolve_left hknown
      exact .inr ⟨hn, fun he => hknown he.symm, hne, hmet.append _⟩
  have hreaches (h : u.Reaches ⟨.server, old.id⟩ n) :
      ∃ i, ((σ.play (.save !w)).saves i).Marks u.SameFleet n := by
    refine ⟨!w, ?_⟩
    rw [hself, hr]
    exact marks_notifyServer hu _ _ h
  refine .written w u (by rwa [hstore]) (by rwa [hstore]) (by rw [hstore]; exact .refl u) ?_ ?_
  · rw [Bool.forall_bool' w, hother, hself]
    exact ⟨hp, makes_notifyServer _ _ _⟩
  · refine hc.change hs (by rwa [hstore]) rfl (Program.version_le_step _ _ n) ?_
    rw [hstore]
    rintro - ((h | ⟨hpos, hon, hn⟩) | h)
    · refine .inl ⟨w, ?_⟩
      rw [hother]
      exact h.mono fun v hv => hall.trans (kept_of_sameFleet hv)
    · by_cases hsame : (r w).clusterId = (r !w).clusterId
      · refine .inl (hreaches ((Store.reaches_server_iff hu hb).2 ?_))
        rw [← hsame, hall.clusters, hall.nodes]
        exact ⟨hpos, hon, hn⟩
      · exact hleft hpos hsame hn
    · rcases htouched h with h | ⟨hpos, hne, h⟩
      · exact .inl (hreaches h)
      · exact hleft hpos hne ((hall.nodes _).1 h)

theorem Phase.play_save (hs : s.Sound) (hold : s.find? ⟨.server, old.id⟩ = some (.server old))
    (hr : ∀ i, (r i).id = old.id) (hrun : σ = run s r n turns) (h : Phase s r old n turns σ)
    (i : Bool) : Phase s r old n (turns ++ [.save i]) (σ.play (.save i)) := by
  cases h with
  | unwritten hstore hsaves hc =>
      rcases hsaves i with hi | hi
      · have hstep : (σ.saves i).step σ.store = ((r i).writing (some old.clusterId), s) := by
          rw [hi, hstore]
          exact step_saveRecord hs (by rw [hr, hold])
        have hkeep : (σ.play (.save i)).store = s := congrArg Prod.snd hstep
        refine .unwritten hkeep ?_ (hc.imp (hkeep.trans hstore.symm) rfl id)
        rw [Bool.forall_bool' i, play_save_self, play_save_other, hstep]
        exact ⟨.inr rfl, hsaves !i⟩
      · exact play_first_write hs hold hr hrun hstore hsaves hc hi
  | between w hσ ha hkept hp hother hc =>
      by_cases hi : i = w
      · subst hi
        obtain ⟨hfleet, hsound, hmakes, hmarks⟩ := Program.step_propagates hσ hp
        refine .between i hsound ?_ (hkept.trans (kept_of_sameFleet hfleet)) ?_ ?_ ?_
        · obtain ⟨v, hv⟩ := hfleet
          change ((σ.saves i).step σ.store).2.find? _ = _
          rw [hv]
          exact ha
        · rwa [play_save_self]
        · rw [play_save_other]
          exact hother.imp_right fun h => h.imp_right fun h => ⟨h.1, h.2.append _⟩
        · refine hc.change hσ hsound rfl (Program.version_le_step _ _ n) fun hv h => ?_
          rw [play_save_self]
          rcases h with (h | h) | h
          · exact .inl (hmarks _ n hkept h hv)
          · exact .inr h
          · exact absurd h hfleet.not_touched
      · obtain rfl : i = !w := Bool.eq_not.2 hi
        rcases hother with hi | hi | ⟨hi, hmet⟩
        · have hstep : (σ.saves !w).step σ.store
              = ((r !w).writing (some (r w).clusterId), σ.store) := by
            rw [hi]
            exact step_saveRecord hσ (by rw [hr, ha])
          have hkeep : (σ.play (.save !w)).store = σ.store := congrArg Prod.snd hstep
          have hsame : (σ.play (.save !w)).saves w = σ.saves w := by
            have := play_save_other σ !w
            rwa [Bool.not_not] at this
          refine .between w (by rwa [hkeep]) (by rwa [hkeep]) (by rwa [hkeep]) (by rwa [hsame]) ?_ ?_
          · rw [play_save_self, hstep]
            exact .inr (.inl rfl)
          · rw [hsame]
            exact hc.imp hkeep rfl id
        · exact play_second_write hr hσ ha hkept hp hi (.inl rfl) hc
        · exact play_second_write hr hσ ha hkept hp hi (.inr ⟨rfl, hmet⟩) hc
  | written w u hσ hb hfleet hp hc =>
      obtain ⟨hstep, hsound, hmakes, hmarks⟩ := Program.step_propagates hσ (hp i)
      refine .written w u hsound ?_ (hfleet.trans hstep) ?_ ?_
      · obtain ⟨v, hv⟩ := hstep
        change ((σ.saves i).step σ.store).2.find? _ = _
        rw [hv]
        exact hb
      · rw [Bool.forall_bool' i, play_save_self, play_save_other]
        exact ⟨hmakes, hp !i⟩
      · refine hc.change hσ hsound rfl (Program.version_le_step _ _ n) fun hv h => ?_
        rcases h with (⟨j, h⟩ | h) | h
        · refine .inl ⟨j, ?_⟩
          by_cases hj : j = i
          · subst hj
            rw [play_save_self]
            exact hmarks _ n hfleet h hv
          · obtain rfl : j = !i := Bool.eq_not.2 hj
            rwa [play_save_other]
        · exact .inr (h.append _)
        · exact absurd h hstep.not_touched

theorem phase_run (hs : s.Sound) (hold : s.find? ⟨.server, old.id⟩ = some (.server old))
    (hr : ∀ i, (r i).id = old.id) (turns : List Turn) :
    Phase s r old n turns (run s r n turns) := by
  induction turns using List.reverseRecOn with
  | nil => exact .unwritten rfl (fun _ => .inl rfl) (.inl .begun)
  | append_singleton turns turn ih =>
      rw [run_append]
      cases turn with
      | save i => exact ih.play_save hs hold hr rfl i
      | fetch => exact ih.play_fetch

end

/-- Two saves of a stored server that both end well, and a fetch among them: if the version of the
node is still that of the snapshot, then the snapshot is what the node would fetch now. The one
exception are the nodes of a cluster that the server was in between the two writes only, and only if
both saves had read where the server was before either of them wrote. -/
theorem snapshot_current_or_passed (hs : s.Reachable) {x : Int} {old : Server}
    (hold : s.find? ⟨.server, x⟩ = some (.server old)) {r : Bool → Server} (hr : ∀ i, (r i).id = x)
    {turns : List Turn} (hσ : run s r n turns = σ)
    (hsaves : ∀ i, ∃ o, (σ.saves i).result? = some (.ok o)) {snapshot : NodeSnapshot}
    (hfetch : σ.fetch.result? = some (.ok (some snapshot)))
    (hv : (σ.store.version n).version = snapshot.version) :
    (on (fetchNode n) σ.store).1 = .ok (some snapshot) ∨
      ∃ w node, s.find? ⟨.node, n⟩ = some (.node node) ∧ node.clusterId = (r w).clusterId ∧
        (r w).clusterId ≠ old.clusterId ∧
        σ.store.find? ⟨.server, x⟩ = some (.server (r !w)) ∧
        (r w).clusterId ≠ (r !w).clusterId ∧
        ∃ earlier, earlier <+: turns ∧
          ∀ i, ∃ next, (run s r n earlier).saves i = .call (.save (.server (r i))) next := by
  obtain rfl : old.id = x := congrArg EntityRef.id (hs.sound.own hold)
  have hdone (i : Bool) : ∃ o, σ.saves i = .done (.ok o) :=
    (hsaves i).imp fun o ho => Program.eq_done_of_result? ho
  have hphase := phase_run (n := n) hs.sound hold hr turns
  rw [hσ] at hphase
  cases hphase with
  | unwritten _ hpending _ =>
      obtain ⟨o, ho⟩ := hdone true
      have hold' : s.find? ⟨.server, (r true).id⟩ = some (.server old) := by rw [hr, hold]
      exact absurd ho (ne_done_of_unwritten hs.sound hold' ((hpending true).imp_right fun h => ⟨_, h⟩))
  | between w hg ha _ _ hother _ =>
      obtain ⟨o, ho⟩ := hdone !w
      have ha' : σ.store.find? ⟨.server, (r !w).id⟩ = some (.server (r w)) := by rw [hr, ha]
      refine absurd ho (ne_done_of_unwritten hg ha' (hother.imp_right ?_))
      rintro (h | ⟨h, -⟩)
      · exact ⟨_, h⟩
      · exact ⟨_, h⟩
  | written w u _ hb _ _ hc =>
      rcases hc.snapshot (Program.eq_done_of_result? hfetch) hv with (⟨i, h⟩ | h) | h
      · obtain ⟨o, ho⟩ := hdone i
        rw [ho] at h
        exact absurd rfl (h o)
      · obtain ⟨hn, hold', hne, hmet⟩ := h
        obtain ⟨node, hnode, hk, -⟩ := (Store.mem_enabledNodes hs.sound).1 hn
        exact .inr ⟨w, node, hnode, hk, hold', hb, hne, hmet⟩
      · exact .inl h

/-- Three clusters with a node each, and a server in the first. -/
def threeClusters : Store :=
  (Store.empty.loadSeed {
    clusters := [{ id := 1 }, { id := 2 }, { id := 3 }]
    nodes := [{ id := 10, clusterId := 1 }, { id := 11, clusterId := 2 }, { id := 12, clusterId := 3 }]
    servers := [{ id := 5, clusterId := 1 }] }).2

/-- One save moves the server to the second cluster, the other one to the third. -/
def moves : Bool → Server
  | false => { id := 5, clusterId := 2 }
  | true => { id := 5, clusterId := 3 }

/-- Both saves read before they write, and the fetch comes last. -/
def fetchedLast : List Turn :=
  [.save false, .save true, .save false] ++ List.replicate 20 (.save true)
    ++ List.replicate 20 (.save false) ++ List.replicate 8 .fetch

theorem snapshot_current_first_cluster :
    ∃ σ snapshot, run threeClusters moves 10 fetchedLast = σ ∧
      (σ.store.version 10).version = snapshot.version ∧
      (on (fetchNode 10) σ.store).1 = .ok (some snapshot) := by
  have hs : threeClusters.Reachable := .seed _ .empty
  have hr (i : Bool) : (moves i).id = 5 := by cases i <;> rfl
  have hsaves (i : Bool) :
      ∃ o, ((run threeClusters moves 10 fetchedLast).saves i).result? = some (.ok o) := by
    refine Program.exists_ok_of_isOk ?_
    cases i <;> decide +kernel
  have hnode : threeClusters.find? ⟨.node, 10⟩ = some (.node { id := 10, clusterId := 1 }) := by
    decide +kernel
  have hold : threeClusters.find? ⟨.server, 5⟩ = some (.server { id := 5, clusterId := 1 }) := by
    decide +kernel
  obtain ⟨snapshot, hfetch, hv⟩ : ∃ snapshot,
      (run threeClusters moves 10 fetchedLast).fetch.result? = some (.ok (some snapshot)) ∧
        ((run threeClusters moves 10 fetchedLast).store.version 10).version = snapshot.version := by
    refine ⟨⟨2, ⟨10, "", true, 1, [], some ⟨1, "", "", false, [], none⟩, []⟩⟩, ?_, ?_⟩
    · decide +kernel
    · decide +kernel
  refine ⟨_, snapshot, rfl, hv, ?_⟩
  rcases snapshot_current_or_passed hs hold hr rfl hsaves hfetch hv with h | ⟨w, node, hn, hk, -⟩
  · exact h
  · rw [hnode] at hn
    cases hn
    cases w <;> cases hk

/-- The fetch comes between the two writes. -/
def fetchedBetween : List Turn :=
  [.save false, .save true, .save false] ++ List.replicate 8 .fetch
    ++ List.replicate 20 (.save true) ++ List.replicate 20 (.save false)

/-- Both saves end well, but nobody marks the node that fetched the server in between. -/
theorem snapshot_stale_second_cluster :
    threeClusters.Reachable ∧
      threeClusters.find? ⟨.server, 5⟩ = some (.server { id := 5, clusterId := 1 }) ∧
      (∀ i, (moves i).id = 5) ∧
      ∃ σ snapshot, run threeClusters moves 11 fetchedBetween = σ ∧
        (∀ i, ∃ o, (σ.saves i).result? = some (.ok o)) ∧
        σ.fetch.result? = some (.ok (some snapshot)) ∧
        (σ.store.version 11).version = snapshot.version ∧
        (on (fetchNode 11) σ.store).1 ≠ .ok (some snapshot) := by
  have hv : ((run threeClusters moves 11 fetchedBetween).store.version 11).version = 0 := by
    decide +kernel
  have hfetch : (run threeClusters moves 11 fetchedBetween).fetch.result?
      = some (.ok (some ⟨0, ⟨11, "", true, 2, [], some ⟨2, "", "", false, [], none⟩,
          [⟨5, 2, "", true, .httpProxy, {}, []⟩]⟩⟩)) := by
    decide +kernel
  refine ⟨.seed _ .empty, by decide +kernel, fun i => by cases i <;> rfl, _, _, rfl, fun i => ?_,
    hfetch, hv, by decide +kernel⟩
  refine Program.exists_ok_of_isOk ?_
  cases i <;> decide +kernel

end Race

end Fleet
