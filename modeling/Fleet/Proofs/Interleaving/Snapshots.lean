import Fleet.Proofs.Composition.Calls
import Fleet.Proofs.Interleaving.Basic
import Fleet.Proofs.Mutation.Marked

/-!
# Snapshots among mutations

A snapshot stands for the config of its node as long as the version of the node is that of the
snapshot and no mutation is in progress, however the calls of fetches, acknowledgements and mutations
were interleaved.
-/

namespace Fleet

/-! ## Stores that differ in what was applied -/

namespace Store

variable {s t u : Store} {n : Int}

/-- The stores agree but for the versions that nodes have applied. -/
structure Alike (s t : Store) : Prop where
  fleet : s.SameFleet t
  version : ∀ n, (t.version n).version = (s.version n).version

theorem Alike.refl (s : Store) : s.Alike s := ⟨.refl s, fun _ => rfl⟩

theorem Alike.trans (h : s.Alike t) (h' : t.Alike u) : s.Alike u :=
  ⟨h.fleet.trans h'.fleet, fun n => (h'.version n).trans (h.version n)⟩

theorem alike_ack (s : Store) (n : Int) (v : Nat) : s.Alike (s.ack n v) where
  fleet := ⟨_, rfl⟩
  version m := by
    rw [version_ack]
    split
    · rename_i h
      rw [h]
      rfl
    · rfl

/-- A save does not look at versions. -/
theorem save_withVersions (s : Store) (v : OrdMap Int NodeVersion) (r : Record) :
    Store.save { s with versions := v } r
      = (s.save r).map fun p => (p.1, { p.2 with versions := v }) := by
  unfold save
  split
  · split <;> rfl
  · split <;> rfl

/-- A mutation does not notice the difference. -/
theorem Alike.answer (h : s.Alike t) {c : Call} (hc : c.Mutates) :
    (t.answer c).1 = (s.answer c).1 ∧ (s.answer c).2.Alike (t.answer c).2 := by
  obtain ⟨⟨v, rfl⟩, hv⟩ := h
  cases c with
  | find _ | enabledNodes _ | parents _ => exact ⟨rfl, ⟨v, rfl⟩, hv⟩
  | save r =>
      have hversions {id : Int} {u : Store} (hu : s.save r = .ok (id, u)) : u.versions = s.versions := by
        unfold save at hu
        split at hu <;> split at hu <;> cases hu <;> rfl
      simp only [Store.answer, save_withVersions]
      cases hr : s.save r with
      | error e => exact ⟨rfl, ⟨v, rfl⟩, hv⟩
      | ok p =>
          have hsame (n : Int) : p.2.version n = s.version n :=
            congrArg (fun versions => (versions.find? n).getD {}) (hversions hr)
          exact ⟨rfl, ⟨v, rfl⟩, fun n => by rw [hsame]; exact hv n⟩
  | updateState x state =>
      simp only [Store.answer, updateState]
      have hfind : Store.find? { s with versions := v } x = s.find? x := rfl
      rw [hfind]
      split
      · exact ⟨rfl, ⟨v, rfl⟩, hv⟩
      · exact ⟨rfl, ⟨v, rfl⟩, hv⟩
  | mark m =>
      have hm := hv m
      refine ⟨?_, ⟨_, rfl⟩, fun n => ?_⟩
      · simp only [Store.answer, version_mark, if_true, NodeVersion.mark, hm]
      · simp only [Store.answer, version_mark]
        split
        · simp only [NodeVersion.mark, hm]
        · exact hv n
  | enabledServers _ | ack _ _ | version _ | pendingNodes => exact hc.elim

theorem Alike.answer_composes (h : s.Alike t) {c : Call} (hc : c.Composes) :
    (t.answer c).1 = (s.answer c).1 := by
  obtain ⟨⟨v, rfl⟩, hv⟩ := h
  cases c <;> first | exact hc.elim | rfl

end Store

namespace Program

variable {α β : Type} {s t : Store}

/-! ## Reading a part of the way -/

/-- The answers of the store lead from one program to the other. -/
inductive Leads (s : Store) : Program α → Program α → Prop where
  | refl {p : Program α} : Leads s p p
  | note {m : Measure} {p q : Program α} : Leads s p q → Leads s (.note m p) q
  | call {c : Call} {next : Except StoreError c.Answer → Program α} {q : Program α} :
      Leads s (next (s.answer c).1) q → Leads s (.call c next) q

theorem Leads.trans {p q r : Program α} (h : Leads s p q) (h' : Leads s q r) : Leads s p r := by
  induction h with
  | refl => exact h'
  | note _ ih => exact .note (ih h')
  | call _ ih => exact .call (ih h')

/-- Answers that lead to an end lead to what the program comes to when it runs alone. -/
theorem Leads.run {p : Program α} {a : α} (h : Leads s p (.done a)) (hp : p.Makes Call.Composes) :
    p.run Store.host s = (a, s) := by
  generalize hq : (Program.done a) = q at h
  induction h with
  | refl =>
      subst hq
      rfl
  | note _ ih => exact ih hp hq
  | @call c next _ _ ih =>
      have hs : (s.answer c).2 = s := Store.answer_of_isRead hp.1.isRead
      have := ih (hp.2 _) hq
      change (next (s.answer c).1).run Store.host (s.answer c).2 = _
      rw [hs, this]

/-- Another store leads the same way, or it answers one of the calls of the whole run differently. -/
theorem Leads.or_differ {p q : Program α} (h : Leads s p q) (hp : p.Makes Call.Composes) :
    Leads t p q ∨ ∃ c ∈ p.calls s, c ∈ p.calls t ∧ (s.answer c).1 ≠ (t.answer c).1 := by
  induction h with
  | refl => exact .inl .refl
  | note _ ih =>
      rcases ih hp with h | ⟨c, hs, ht, hne⟩
      · exact .inl (.note h)
      · exact .inr ⟨c, hs, ht, hne⟩
  | @call c next q h ih =>
      have hs : (s.answer c).2 = s := Store.answer_of_isRead hp.1.isRead
      have ht : (t.answer c).2 = t := Store.answer_of_isRead hp.1.isRead
      by_cases heq : (s.answer c).1 = (t.answer c).1
      · rcases ih (hp.2 _) with h | ⟨d, hds, hdt, hne⟩
        · rw [heq] at h
          exact .inl (.call h)
        · refine .inr ⟨d, ?_, ?_, hne⟩
          · simp [calls, hs, hds]
          · rw [heq] at hdt
            simp [calls, ht, hdt]
      · exact .inr ⟨c, by simp [calls], by simp [calls], heq⟩

end Program

/-! ## Fetches on their way -/

/-- The composition of a node. -/
def composition (n : Int) : Program (Except Failure (Option Config)) :=
  (composeFresh ⟨.node, n⟩).run

/-- The outcome of a fetch, from the version that it read and the outcome of the composition. -/
def stamped (v : Nat) : Except Failure (Option Config) → Except Failure (Option NodeSnapshot) :=
  Except.map fun config => (config.bind Config.node?).map fun c => ⟨v, c⟩

theorem fetchNode_run {n : Int} (hn : 0 < n) :
    (fetchNode n).run = .call (.version n) fun
      | .ok v => composition n >>= fun r => pure (stamped v.version r)
      | .error e => .done (.error (.store e)) := by
  have hid : requireId "node_id" n = .ok () := if_neg (by omega)
  have hcheck : fetchNode n = Action.ask (.version n) >>= fun v =>
      composeFresh ⟨.node, n⟩ >>= fun config =>
        pure ((config.bind Config.node?).map fun c => (⟨v.version, c⟩ : NodeSnapshot)) := by
    unfold fetchNode
    rw [hid]
    rfl
  rw [hcheck, Action.run_ask_bind]
  refine congrArg (Program.call _) (funext fun r => ?_)
  cases r with
  | error e => rfl
  | ok v =>
      refine congrArg (composition n >>= ·) (funext fun r => ?_)
      cases r <;> rfl

theorem fetchNode_run_of_le {n : Int} (hn : n ≤ 0) : ∃ e, (fetchNode n).run = .done (.error e) := by
  have hid : requireId "node_id" n
      = .error (.invalid "node_id" ("expected a positive id, got " ++ Text.intText n)) := if_pos hn
  refine ⟨.invalid "node_id" ("expected a positive id, got " ++ Text.intText n), ?_⟩
  unfold fetchNode
  rw [hid]
  rfl

theorem on_fetchNode {s : Store} {n : Int} (hn : 0 < n) {r : Except Failure (Option Config)}
    (h : (composition n).run Store.host s = (r, s)) :
    (Action.on (fetchNode n) s).1 = stamped (s.version n).version r := by
  unfold Action.on
  rw [fetchNode_run hn]
  change (Program.run Store.host (composition n >>= fun r => pure (stamped _ r)) s).1 = _
  rw [Program.run_bind, h]
  rfl

namespace Traffic

variable {g h : Store} {n : Int} {v : Nat} {m : Option (Program (Except Failure Report))}

/-- The mutation in progress is going to raise the version of the node. -/
def Doomed (m : Option (Program (Except Failure Report))) (g : Store) (n : Int) : Prop :=
  ∃ p, m = some p ∧ p.Raises g n

/-- A fetch that read the version `v` and has `rest` of the composition before it: as long as the
version stays, the store leads to `rest`, or the version will not stay. -/
structure Fresh (m : Option (Program (Except Failure Report))) (g : Store) (n : Int) (v : Nat)
    (rest : Program (Except Failure (Option Config))) : Prop where
  pos : 0 < n
  le : v ≤ (g.version n).version
  current : (g.version n).version = v → Doomed m g n ∨ Program.Leads g (composition n) rest

variable {rest : Program (Except Failure (Option Config))}

theorem Fresh.beginMutation {p : Program (Except Failure Report)} (hf : Fresh none g n v rest) :
    Fresh (some p) g n v rest where
  pos := hf.pos
  le := hf.le
  current hv := by
    rcases hf.current hv with ⟨_, hp, _⟩ | hl
    · cases hp
    · exact .inr hl

theorem Fresh.endMutation {report : Report} (hf : Fresh (some (.done (.ok report))) g n v rest) :
    Fresh none g n v rest where
  pos := hf.pos
  le := hf.le
  current hv := by
    rcases hf.current hv with ⟨p, hp, hraises⟩ | hl
    · cases hp
      exact absurd (hraises report g rfl) (lt_irrefl _)
    · exact .inr hl

/-- A call of the mutation: what it touches it is going to raise. -/
theorem Fresh.mutation (hg : g.Sound) {c : Call}
    {next : Except StoreError c.Answer → Program (Except Failure Report)}
    (hc : (Program.call c next).Covered g) (hf : Fresh (some (.call c next)) g n v rest) :
    Fresh (some (next (g.answer c).1)) (g.answer c).2 n v rest where
  pos := hf.pos
  le := le_trans hf.le (g.version_le_answer c n)
  current hv := by
    have hkept : (g.version n).version = v :=
      le_antisymm (hv ▸ g.version_le_answer c n) hf.le
    rcases hf.current hkept with ⟨p, hp, hraises⟩ | hl
    · cases hp
      refine .inl ⟨_, rfl, fun a t ht => ?_⟩
      have := hraises a t ht
      omega
    · rcases hl.or_differ (t := (g.answer c).2) (makes_composeFresh _) with hl | ⟨d, hd, hd', hne⟩
      · exact .inr hl
      · have htouched : g.Touched (g.answer c).2 n := ⟨d, feeds_of_mem_composeFresh hg d hd,
          feeds_of_mem_composeFresh (hg.answer c) d hd', hne⟩
        exact .inl ⟨_, rfl, hc.1 n htouched⟩

theorem Fresh.advance {rest' : Program (Except Failure (Option Config))}
    (hf : Fresh m g n v rest) (hl : Program.Leads g rest rest') : Fresh m g n v rest' where
  pos := hf.pos
  le := hf.le
  current hv := (hf.current hv).imp_right fun h => h.trans hl

theorem Fresh.mutationNote {measure : Measure} {next : Program (Except Failure Report)}
    (hf : Fresh (some (.note measure next)) g n v rest) : Fresh (some next) g n v rest where
  pos := hf.pos
  le := hf.le
  current hv := by
    rcases hf.current hv with ⟨p, hp, hraises⟩ | hl
    · cases hp
      exact .inl ⟨next, rfl, hraises⟩
    · exact .inr hl

/-! ## The invariant -/

/-- The calls of an acknowledgement. -/
def Acknowledges : Call → Prop
  | .find _ | .ack _ _ => True
  | _ => False

theorem makes_ackNode (n : Int) (v : Nat) : (ackNode n v).run.Makes Acknowledges := by
  refine Action.makes_bind trivial fun _ => ?_
  refine Action.makes_bind (Action.makes_bind (Action.makes_ask trivial) fun _ => trivial) fun r => ?_
  cases r with
  | none => trivial
  | some r => exact Action.makes_ask trivial

/-- A fetch in progress has done nothing yet, or it has read the version. -/
inductive Fetching (m : Option (Program (Except Failure Report))) (g : Store) (n : Int) :
    Program (Except Failure (Option NodeSnapshot)) → Prop where
  | begun : Fetching m g n (fetchNode n).run
  | composing {v : Nat} {p : Program (Except Failure (Option Config))} :
      p.Makes Call.Composes → Fresh m g n v p →
      Fetching m g n (p >>= fun r => pure (stamped v r))

/-- The snapshot is that of a fetch that has come to its end. -/
def Stamped (m : Option (Program (Except Failure Report))) (g : Store) (n : Int)
    (snapshot : NodeSnapshot) : Prop :=
  ∃ r, stamped snapshot.version r = .ok (some snapshot) ∧ Fresh m g n snapshot.version (.done r)

/-- What holds at any time, with a store `g` in which no node has acknowledged anything since the
beginning. -/
structure Safe (σ : Traffic) (g : Store) : Prop where
  alike : g.Alike σ.store
  sound : g.Sound
  mutation : ∀ p, σ.mutation = some p → p.Covered g ∧ p.Makes Call.Mutates
  fetches : ∀ f ∈ σ.fetches, Fetching σ.mutation g f.1 f.2
  acks : ∀ p ∈ σ.acks, p.Makes Acknowledges
  snapshots : ∀ f ∈ σ.snapshots, Stamped σ.mutation g f.1 f.2

/-- What keeps the fetches fresh keeps the whole invariant. -/
theorem Safe.of_fresh {σ τ : Traffic} (hσ : Safe σ g) (halike : h.Alike τ.store) (hsound : h.Sound)
    (hm : ∀ p, τ.mutation = some p → p.Covered h ∧ p.Makes Call.Mutates)
    (hfetches : τ.fetches = σ.fetches) (hacks : τ.acks = σ.acks)
    (hsnapshots : τ.snapshots = σ.snapshots)
    (hfresh : ∀ n v rest, Fresh σ.mutation g n v rest → Fresh τ.mutation h n v rest) : Safe τ h where
  alike := halike
  sound := hsound
  mutation := hm
  fetches f hf := by
    rw [hfetches] at hf
    generalize hp : f.2 = p
    have hfetch := hσ.fetches f hf
    rw [hp] at hfetch
    cases hfetch with
    | begun => exact .begun
    | composing hc hr => exact .composing hc (hfresh _ _ _ hr)
  acks := by
    rw [hacks]
    exact hσ.acks
  snapshots f hf := by
    rw [hsnapshots] at hf
    obtain ⟨r, hr, hfr⟩ := hσ.snapshots f hf
    exact ⟨r, hr, hfresh _ _ _ hfr⟩

/-- A step of a fetch reads what a store with the same fleet would answer. -/
theorem Fetching.advance {s t : Store} {p q : Program (Except Failure (Option NodeSnapshot))}
    (hs : g.Alike s) (hf : Fetching m g n p) (hstep : p.Advance s t q) :
    t = s ∧ Fetching m g n q := by
  cases hf with
  | begun =>
      by_cases hn : 0 < n
      · rw [fetchNode_run hn] at hstep
        cases hstep
        refine ⟨rfl, .composing (makes_composeFresh _) ⟨hn, ?_, fun _ => .inr .refl⟩⟩
        rw [hs.version n]
      · obtain ⟨e, he⟩ := fetchNode_run_of_le (by omega : n ≤ 0)
        rw [he] at hstep
        cases hstep
  | @composing v rest hc hr =>
      cases rest with
      | done r => cases hstep
      | note measure next =>
          cases hstep
          exact ⟨rfl, .composing (p := next) hc (hr.advance (.note .refl))⟩
      | call c next =>
          cases hstep
          refine ⟨Store.answer_of_isRead hc.1.isRead, .composing (p := next _) (hc.2 _) ?_⟩
          rw [hs.answer_composes hc.1]
          exact hr.advance (.call .refl)

theorem version_of_stamped {r : Except Failure (Option Config)} {snapshot : NodeSnapshot}
    (h : stamped v r = .ok (some snapshot)) : snapshot.version = v := by
  cases r with
  | error e => cases h
  | ok config =>
      obtain ⟨c, -, rfl⟩ := Option.map_eq_some_iff.1 (Except.ok.inj h)
      rfl

/-- What a fetch returns in the end is stamped. -/
theorem Fetching.stamped {result : Except Failure (Option NodeSnapshot)} {snapshot : NodeSnapshot}
    (hf : Fetching m g n (.done result)) (hr : NodeSnapshot.returned? result = some snapshot) :
    Stamped m g n snapshot := by
  generalize hp : Program.done result = p at hf
  cases hf with
  | begun =>
      by_cases hn : 0 < n
      · rw [fetchNode_run hn] at hp
        cases hp
      · obtain ⟨e, he⟩ := fetchNode_run_of_le (by omega : n ≤ 0)
        rw [he] at hp
        cases hp
        cases hr
  | @composing v rest _ hfresh =>
      cases rest with
      | done r =>
          cases hp
          have hok : Fleet.stamped v r = .ok (some snapshot) := by
            cases hs : Fleet.stamped v r with
            | error e =>
                rw [hs] at hr
                cases hr
            | ok s =>
                rw [hs] at hr
                exact congrArg Except.ok hr
          obtain rfl := version_of_stamped hok
          exact ⟨r, hok, hfresh⟩
      | note _ _ => cases hp
      | call _ _ => cases hp

theorem alike_of_acknowledges (s : Store) {c : Call} (hc : Acknowledges c) :
    s.Alike (s.answer c).2 := by
  cases c with
  | find _ => exact .refl s
  | ack n v => exact s.alike_ack n v
  | _ => exact hc.elim

theorem forall_mem_replaced {α : Type} {P : α → Prop} {l r : List α} {x y : α}
    (h : ∀ a ∈ l ++ x :: r, P a) (hy : P y) : ∀ a ∈ l ++ y :: r, P a := by
  rw [List.forall_mem_append, List.forall_mem_cons] at h ⊢
  exact ⟨h.1, hy, h.2.2⟩

theorem forall_mem_removed {α : Type} {P : α → Prop} {l r : List α} {x : α}
    (h : ∀ a ∈ l ++ x :: r, P a) : ∀ a ∈ l ++ r, P a := by
  rw [List.forall_mem_append, List.forall_mem_cons] at h
  exact List.forall_mem_append.2 ⟨h.1, h.2.2⟩

/-- A step of the mutation dooms what it touches. -/
theorem Safe.advanceMutation {σ : Traffic} {s : Store} {p q : Program (Except Failure Report)}
    (hσ : Safe σ g) (hp : σ.mutation = some p) (hadvance : p.Advance σ.store s q) :
    ∃ h, Safe { σ with store := s, mutation := some q } h := by
  obtain ⟨hcovered, hmakes⟩ := hσ.mutation p hp
  cases hadvance with
  | note =>
      refine ⟨g, hσ.of_fresh hσ.alike hσ.sound (fun p hp => ?_) rfl rfl rfl fun n v rest hf => ?_⟩
      · cases hp
        exact ⟨hcovered, hmakes⟩
      · rw [hp] at hf
        exact hf.mutationNote
  | @call c next =>
      obtain ⟨hanswer, halike⟩ := hσ.alike.answer hmakes.1
      refine ⟨(g.answer c).2, hσ.of_fresh halike (hσ.sound.answer c) (fun p hp => ?_) rfl rfl rfl
        fun n v rest hf => ?_⟩
      · cases hp
        rw [hanswer]
        exact ⟨hcovered.2, hmakes.2 _⟩
      · rw [hp] at hf
        dsimp only
        rw [hanswer]
        exact hf.mutation hσ.sound hcovered

/-- A step of an acknowledgement changes versions only. -/
theorem Safe.advanceAck {σ : Traffic} {s : Store} {p q : Program (Except Failure NodeVersion)}
    {l r : List (Program (Except Failure NodeVersion))} (hσ : Safe σ g) (hacks : σ.acks = l ++ p :: r)
    (hadvance : p.Advance σ.store s q) : Safe { σ with store := s, acks := l ++ q :: r } g := by
  have hall := hσ.acks
  rw [hacks] at hall
  have hp := hall p (by simp)
  have hq : σ.store.Alike s ∧ q.Makes Acknowledges := by
    cases hadvance with
    | note => exact ⟨.refl _, hp⟩
    | call => exact ⟨alike_of_acknowledges _ hp.1, hp.2 _⟩
  exact { hσ with
    alike := hσ.alike.trans hq.1
    acks := forall_mem_replaced hall hq.2 }

/-- Every step keeps the invariant: a mutation dooms what it touches, and nothing else writes. -/
theorem Safe.step {σ τ : Traffic} (hσ : Safe σ g) (hstep : Step σ τ) : ∃ h, Safe τ h := by
  cases hstep with
  | beginMutation m hidle =>
      refine ⟨g, hσ.of_fresh hσ.alike hσ.sound (fun p hp => ?_) rfl rfl rfl fun n v rest hf => ?_⟩
      · cases hp
        exact ⟨m.covered hσ.sound, m.makes⟩
      · rw [hidle] at hf
        exact hf.beginMutation
  | mutation hp hadvance => exact hσ.advanceMutation hp hadvance
  | endMutation hp =>
      refine ⟨g, hσ.of_fresh hσ.alike hσ.sound (fun _ hp => nomatch hp) rfl rfl rfl
        fun n v rest hf => ?_⟩
      rw [hp] at hf
      exact hf.endMutation
  | beginFetch n => exact ⟨g, { hσ with fetches := List.forall_mem_cons.2 ⟨.begun, hσ.fetches⟩ }⟩
  | @fetch s n p q l r hfetches hadvance =>
      have hall := hσ.fetches
      rw [hfetches] at hall
      obtain ⟨rfl, hq⟩ := (hall (n, p) (by simp)).advance hσ.alike hadvance
      exact ⟨g, { hσ with fetches := forall_mem_replaced hall hq }⟩
  | @endFetch n result l r hfetches =>
      have hall := hσ.fetches
      rw [hfetches] at hall
      have hfetch := hall (n, .done result) (by simp)
      refine ⟨g, { hσ with
        fetches := forall_mem_removed hall
        snapshots := List.forall_mem_append.2 ⟨fun f hf => ?_, hσ.snapshots⟩ }⟩
      obtain ⟨snapshot, hreturned, rfl⟩ := List.mem_map.1 hf
      exact hfetch.stamped (Option.mem_toList.1 hreturned)
  | beginAck n v => exact ⟨g, { hσ with acks := List.forall_mem_cons.2 ⟨makes_ackNode n v, hσ.acks⟩ }⟩
  | ack hacks hadvance => exact ⟨g, hσ.advanceAck hacks hadvance⟩
  | endAck hacks =>
      have hall := hσ.acks
      rw [hacks] at hall
      exact ⟨g, { hσ with acks := forall_mem_removed hall }⟩

theorem Safe.run {σ τ : Traffic} (hσ : Safe σ g) (hrun : Relation.ReflTransGen Step σ τ) :
    ∃ h, Safe τ h := by
  induction hrun with
  | refl => exact ⟨g, hσ⟩
  | tail _ hstep ih =>
      obtain ⟨h, hsafe⟩ := ih
      exact hsafe.step hstep

/-- While no mutation is in progress, a snapshot with the version of its node is what a fetch on the
store returns. -/
theorem Safe.fetch {σ : Traffic} (hσ : Safe σ g) (hidle : σ.mutation = none) {snapshot : NodeSnapshot}
    (hs : (n, snapshot) ∈ σ.snapshots) (hv : (σ.store.version n).version = snapshot.version) :
    (Action.on (fetchNode n) σ.store).1 = .ok (some snapshot) := by
  obtain ⟨r, hr, hfresh⟩ := hσ.snapshots _ hs
  have hcurrent := hfresh.current ((hσ.alike.version n).symm.trans hv)
  rw [hidle] at hcurrent
  rcases hcurrent with ⟨_, hp, _⟩ | hl
  · cases hp
  · have hmakes : (composition n).Makes Call.Composes := makes_composeFresh _
    have hl' : Program.Leads σ.store (composition n) (.done r) := by
      rcases hl.or_differ (t := σ.store) hmakes with hl | ⟨c, hc, -, hne⟩
      · exact hl
      · exact absurd (hσ.alike.answer_composes (hmakes.mem_calls c hc)).symm hne
    rw [on_fetchNode hfresh.pos (hl'.run hmakes), hv]
    exact hr

/-! ## The store on the way -/

theorem sound_of_advance {α : Type} {s t : Store} {p q : Program α} (h : p.Advance s t q)
    (hs : s.Sound) : t.Sound := by
  cases h with
  | note => exact hs
  | call => exact hs.answer _

theorem Step.sound {σ τ : Traffic} (h : Step σ τ) (hs : σ.store.Sound) : τ.store.Sound := by
  cases h with
  | mutation _ hadvance | fetch _ hadvance | ack _ hadvance => exact sound_of_advance hadvance hs
  | _ => exact hs

theorem sound_run {σ τ : Traffic} (hrun : Relation.ReflTransGen Step σ τ) (hs : σ.store.Sound) :
    τ.store.Sound := by
  induction hrun with
  | refl => exact hs
  | tail _ hstep ih => exact hstep.sound ih

/-- A fetch that overlaps a mutation: the mutation has made some steps when the fetch begins, and the
fetch some when the mutation goes on. The mutation ends, then the fetch, and the node acknowledges the
version that it fetched. -/
theorem exists_run_of_overlap {s s₁ s₂ s₃ s₄ s₅ : Store} {m : Mutation} {n : Int}
    {report : Report} {snapshot : NodeSnapshot} {result : Except Failure NodeVersion}
    {p : Program (Except Failure Report)} {q : Program (Except Failure (Option NodeSnapshot))}
    {i j k l a : Nat} (h₁ : m.action.run.steps i s = (p, s₁))
    (h₂ : (fetchNode n).run.steps j s₁ = (q, s₂))
    (h₃ : p.steps k s₂ = (.done (.ok report), s₃))
    (h₄ : q.steps l s₃ = (.done (.ok (some snapshot)), s₄))
    (h₅ : (ackNode n snapshot.version).run.steps a s₄ = (.done result, s₅)) :
    Relation.ReflTransGen Step { store := s }
        { store := s₂, mutation := some p, fetches := [(n, q)] } ∧
      Relation.ReflTransGen Step { store := s₂, mutation := some p, fetches := [(n, q)] }
        { store := s₅, snapshots := [(n, snapshot)] } := by
  have hmutation (fetches : List (Int × Program (Except Failure (Option NodeSnapshot)))) :=
    Program.reflTransGen_steps (R := Step) (fun s p => { store := s, mutation := some p, fetches })
      fun hadvance => .mutation rfl hadvance
  have hfetch (mutation : Option (Program (Except Failure Report))) :=
    Program.reflTransGen_steps (R := Step) (fun s q => { store := s, mutation, fetches := [(n, q)] })
      fun hadvance => .fetch (l := []) rfl hadvance
  have hack := Program.reflTransGen_steps (R := Step)
    (fun s p => { store := s, acks := [p], snapshots := [(n, snapshot)] })
    (fun hadvance => .ack (l := []) rfl hadvance) a (ackNode n snapshot.version).run s₄
  have hstart := hmutation [] i m.action.run s
  have hread := hfetch (some p) j (fetchNode n).run s₁
  have hrest := hmutation [(n, q)] k p s₂
  have hend := hfetch none l q s₃
  rw [h₁] at hstart
  rw [h₂] at hread
  rw [h₃] at hrest
  rw [h₄] at hend
  rw [h₅] at hack
  constructor
  · exact .head (.beginMutation m rfl) (hstart.trans (.head (.beginFetch n) hread))
  · refine hrest.trans (.head (.endMutation rfl) (hend.trans (.head (.endFetch (l := []) rfl) ?_)))
    exact .head (.beginAck n snapshot.version) (hack.tail (.endAck (l := []) rfl))

end Traffic

/-- A snapshot is safe to stamp with the version that was read before it was composed: from any
reachable store, whatever the order of the calls, when no mutation is in progress and the version of
the node is still that of the snapshot, a fetch returns the same. So a node that applied the version
it fetched, and has no later one to apply, runs the config that it would fetch. -/
theorem Traffic.snapshot_current {s : Store} (hs : s.Reachable) {σ : Traffic}
    (hrun : Relation.ReflTransGen Traffic.Step { store := s } σ) (hidle : σ.mutation = none)
    {n : Int} {snapshot : NodeSnapshot} (hn : (n, snapshot) ∈ σ.snapshots) :
    ((σ.store.version n).version = snapshot.version →
      (Action.on (fetchNode n) σ.store).1 = .ok (some snapshot)) ∧
    ((σ.store.version n).applied = snapshot.version → (σ.store.version n).isPending = false →
      (Action.on (fetchNode n) σ.store).1 = .ok (some snapshot)) := by
  have hstart : Safe { store := s } s := {
    alike := .refl s
    sound := hs.sound
    mutation := fun _ hp => nomatch hp
    fetches := fun _ hf => nomatch hf
    acks := fun _ hp => nomatch hp
    snapshots := fun _ hf => nomatch hf }
  obtain ⟨g, hsafe⟩ := hstart.run hrun
  refine ⟨hsafe.fetch hidle hn, fun happlied hp => hsafe.fetch hidle hn ?_⟩
  have hle := (sound_run hrun hs.sound).applied_le n
  simp only [NodeVersion.isPending, decide_eq_false_iff_not] at hp
  omega

/-- A cluster with two nodes and a server. -/
def oneCluster : Store :=
  (Store.empty.loadSeed {
    clusters := [{ id := 1 }]
    nodes := [{ id := 10, clusterId := 1 }, { id := 11, clusterId := 1 }]
    servers := [{ id := 5, clusterId := 1 }] }).2

namespace Overlap

/-- The server is disabled, and of the nodes only the first has been marked so far. -/
def marking : Program (Except Failure Report) × Store :=
  (Mutation.setState ⟨.server, 5⟩ false).action.run.steps 4 oneCluster

/-- A fetch of this node has read the version and is composing. -/
def fetching : Program (Except Failure (Option NodeSnapshot)) × Store :=
  (fetchNode 10).run.steps 3 marking.2

/-- Both are in progress. -/
def traffic : Traffic where
  store := fetching.2
  mutation := some marking.1
  fetches := [(10, fetching.1)]

/-- The other node is marked before the fetch goes on. -/
def marked : Program (Except Failure Report) × Store := marking.1.steps 3 fetching.2

def fetched : Program (Except Failure (Option NodeSnapshot)) × Store := fetching.1.steps 12 marked.2

def acked : Program (Except Failure NodeVersion) × Store := (ackNode 10 1).run.steps 5 fetched.2

end Overlap

/-- The second mark falls between the reads of a fetch of the node that was marked first. -/
theorem Traffic.snapshot_current_overlapped :
    oneCluster.Reachable ∧ ∃ σ snapshot,
      (Overlap.marking.2.version 10).version = 1 ∧ (Overlap.marking.2.version 11).version = 0 ∧
      Relation.ReflTransGen Traffic.Step { store := oneCluster } Overlap.traffic ∧
      Relation.ReflTransGen Traffic.Step Overlap.traffic σ ∧ σ.mutation = none ∧
      (σ.store.version 11).version = 1 ∧ (10, snapshot) ∈ σ.snapshots ∧
      (σ.store.version 10).version = snapshot.version ∧
      (σ.store.version 10).applied = snapshot.version ∧ (σ.store.version 10).isPending = false ∧
      (Action.on (fetchNode 10) σ.store).1 = .ok (some snapshot) := by
  have hs : oneCluster.Reachable := .seed _ .empty
  have hmarking : (Mutation.setState ⟨.server, 5⟩ false).action.run.steps 4 oneCluster
      = (Overlap.marking.1, Overlap.marking.2) := rfl
  have hfetching : (fetchNode 10).run.steps 3 Overlap.marking.2
      = (Overlap.fetching.1, Overlap.fetching.2) := rfl
  obtain ⟨report, hmarked⟩ := Program.exists_ok_of_isOk (p := Overlap.marked.1) (by decide +kernel)
  have hfetched : Overlap.fetched.1.result?
      = some (.ok (some ⟨1, ⟨10, "", true, 1, [], some ⟨1, "", "", false, [], none⟩, []⟩⟩)) := by
    decide +kernel
  obtain ⟨result, hacked⟩ := Program.exists_ok_of_isOk (p := Overlap.acked.1) (by decide +kernel)
  obtain ⟨hbefore, hafter⟩ := Traffic.exists_run_of_overlap hmarking hfetching
    (Program.steps_eq_of_result? hmarked) (Program.steps_eq_of_result? hfetched)
    (Program.steps_eq_of_result? hacked)
  have hv : (Overlap.acked.2.version 10).version = 1 := by decide +kernel
  have happlied : (Overlap.acked.2.version 10).applied = 1 := by decide +kernel
  have hsettled : (Overlap.acked.2.version 10).isPending = false := by decide +kernel
  refine ⟨hs, _, _, by decide +kernel, by decide +kernel, hbefore, hafter, rfl, by decide +kernel,
    List.mem_singleton_self _, hv, happlied, hsettled, ?_⟩
  exact (Traffic.snapshot_current hs (hbefore.trans hafter) rfl (List.mem_singleton_self _)).2 happlied
    hsettled

end Fleet
