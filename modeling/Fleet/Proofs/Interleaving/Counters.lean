import Fleet.Proofs.Propagation.Counted

/-!
# Counters and versions

Mutations, propagations, fetches and acknowledgements that share a store, their calls in any order and
any of them failing. When all have come to an end, the counters say how many marks were made and how many
failed, and the marks that were made are the versions of the nodes added up.
-/

namespace Fleet

/-! ## Operations -/

/-- What may run beside each other. -/
inductive Operation where
  | mutation (m : Mutation)
  | notify (target : EntityRef)
  | affectedNodes (target : EntityRef)
  | listPending (scope : PendingScope)
  | fetch (target : EntityRef)
  | fetchNode (node : Int)
  | ack (node : Int) (version : Nat)
deriving DecidableEq, Repr, Inhabited

/-- The program without what it comes to. -/
def Program.quiet {α : Type} (p : Program α) : Program Unit := do
  let _ ← p
  return ()

theorem Program.Pays.quiet {α : Type} {k : Tally} {p : Program α} (h : p.Pays k) : p.quiet.Pays k :=
  h.bind fun _ => rfl

namespace Operation

def program : Operation → Program Unit
  | .mutation m => m.action.run.quiet
  | .notify target => (Fleet.notify target).run.quiet
  | .affectedNodes target => (Fleet.affectedNodes target).run.quiet
  | .listPending scope => (Fleet.listPending scope).run.quiet
  | .fetch target => (Fleet.fetch target).run.quiet
  | .fetchNode node => (Fleet.fetchNode node).run.quiet
  | .ack node version => (ackNode node version).run.quiet

theorem pays {k : Tally} (o : Operation) : o.program.Pays k := by
  cases o with
  | mutation m => exact m.pays.quiet
  | notify target => exact (pays_notify target).quiet
  | affectedNodes target => exact (pays_affectedNodes target).quiet
  | listPending scope => exact (pays_listPending scope).quiet
  | fetch target => exact (pays_fetch target).quiet
  | fetchNode node => exact (pays_fetchNode node).quiet
  | ack node version => exact (pays_ackNode node version).quiet

end Operation

/-! ## The versions added up -/

namespace Store

variable {s t : Store}

def versionSum (s : Store) : Nat := s.versions.total (·.version)

theorem versionSum_setVersion (s : Store) (n : Int) (v : NodeVersion) :
    (s.setVersion n v).versionSum + (s.version n).version = s.versionSum + v.version := by
  have htotal := OrdMap.total_insert (·.version) s.versions n v
  have hversion : (s.version n).version = ((s.versions.find? n).map (·.version)).getD 0 := by
    unfold version
    cases s.versions.find? n <;> rfl
  rw [hversion]
  exact htotal

theorem versions_save {r : Record} {id : Int} (h : s.save r = .ok (id, t)) : t.versions = s.versions := by
  unfold save at h
  split at h
  · split at h
    · cases h
      rfl
    · cases h
  · split at h
    · cases h
      rfl
    · cases h

theorem versions_updateState (s : Store) (x : EntityRef) (state : EntityState) :
    (s.updateState x state).2.versions = s.versions := by
  unfold updateState
  split <;> rfl

/-- A call that is answered raises one version by one if it is a mark, and none otherwise. -/
theorem versionSum_answer (s : Store) (c : Call) :
    (s.answer c).2.versionSum = s.versionSum + Tally.made.adds c (s.answer c).1 := by
  cases c with
  | find _ | enabledNodes _ | enabledServers _ | parents _ | version _ | pendingNodes => rfl
  | save r =>
      cases h : s.save r with
      | error e => simp [answer, h, Tally.adds]
      | ok x =>
          have hversions : x.2.versions = s.versions := versions_save h
          simp [answer, h, versionSum, hversions, Tally.adds]
  | updateState x state => simp [answer, versionSum, versions_updateState, Tally.adds]
  | mark n =>
      have hmark := s.versionSum_setVersion n (s.version n).mark
      change (s.mark n).versionSum = s.versionSum + 1
      simp only [NodeVersion.mark] at hmark
      simp only [Store.mark, NodeVersion.mark]
      omega
  | ack n v =>
      have hack := s.versionSum_setVersion n ((s.version n).ack v)
      change (s.ack n v).versionSum = s.versionSum + 0
      simp only [NodeVersion.ack] at hack
      simp only [Store.ack, NodeVersion.ack]
      omega

end Store

/-! ## Operations that share a store -/

structure Pool where
  store : Store := .empty
  metrics : Metrics := {}
  /-- How many marks have failed. -/
  failedMarks : Nat := 0
  /-- The rests of the operations, in the order in which they were begun. -/
  rests : List (Program Unit) := []

namespace Pool

inductive Turn where
  | begin (o : Operation)
  /-- One step of one operation. A call that is to fail does not reach the store. -/
  | step (i : Nat) (failure : Option StoreError)
deriving DecidableEq, Repr

/-- What one step of a program leaves, and the rest of the program. -/
def advance (σ : Pool) (failure : Option StoreError) : Program Unit → Pool × Program Unit
  | .done a => (σ, .done a)
  | .note m next => ({ σ with metrics := σ.metrics.record m }, next)
  | .call c next =>
    match failure with
    | none => ({ σ with store := (σ.store.answer c).2 }, next (σ.store.answer c).1)
    | some e =>
      ({ σ with failedMarks := σ.failedMarks + if c.method = .mark then 1 else 0 }, next (.error e))

def play (σ : Pool) : Turn → Pool
  | .begin o => { σ with rests := σ.rests ++ [o.program] }
  | .step i failure =>
    match σ.rests[i]? with
    | none => σ
    | some p =>
      let (τ, q) := σ.advance failure p
      { τ with rests := τ.rests.set i q }

/-- A fresh store, after some turns. -/
def run (m : Metrics) (turns : List Turn) : Pool := turns.foldl play { metrics := m }

theorem play_step {σ : Pool} {i : Nat} {p : Program Unit} (failure : Option StoreError)
    (hi : σ.rests[i]? = some p) :
    σ.play (.step i failure) =
      { (σ.advance failure p).1 with rests := σ.rests.set i (σ.advance failure p).2 } := by
  have hrests : (σ.advance failure p).1.rests = σ.rests := by
    cases p with
    | done a => rfl
    | note m next => rfl
    | call c next => cases failure <;> rfl
  simp only [play, hi, hrests]

/-! ## Ends -/

/-- An operation that goes on alone comes to its end. -/
theorem exists_done {σ : Pool} {i : Nat} {p : Program Unit} (hi : σ.rests[i]? = some p) :
    ∃ n, ((List.replicate n (Turn.step i none)).foldl play σ).rests
      = σ.rests.set i (.done ()) := by
  -- The step lemma holds for every rest, so it is shown before the induction splits them.
  have hset {τ : Pool} {q r : Program Unit} (hq : τ.rests[i]? = some q)
      (hr : (τ.advance none q).2 = r) :
      (τ.play (.step i none)).rests = τ.rests.set i r ∧
        (τ.play (.step i none)).rests[i]? = some r := by
    have hlt : i < τ.rests.length := (List.getElem?_eq_some_iff.1 hq).1
    rw [play_step none hq, hr]
    exact ⟨rfl, List.getElem?_set_self hlt⟩
  induction p generalizing σ with
  | done a =>
      obtain ⟨hlt, hdone⟩ := List.getElem?_eq_some_iff.1 hi
      exact ⟨0, by rw [← hdone, List.set_getElem_self]; rfl⟩
  | note m next ih =>
      obtain ⟨hrests, hnext⟩ := hset hi rfl
      obtain ⟨n, hn⟩ := ih hnext
      refine ⟨n + 1, ?_⟩
      rw [List.replicate_succ, List.foldl_cons, hn, hrests, List.set_set]
  | call c next ih =>
      obtain ⟨hrests, hnext⟩ := hset hi rfl
      obtain ⟨n, hn⟩ := ih (σ.store.answer c).1 hnext
      refine ⟨n + 1, ?_⟩
      rw [List.replicate_succ, List.foldl_cons, hn, hrests, List.set_set]

/-- Wherever the operations stand, they can all come to their ends. -/
theorem exists_all_done (σ : Pool) :
    ∃ turns : List Turn, ∀ p ∈ (turns.foldl play σ).rests, p.result? = some () := by
  suffices hfrom : ∀ ps qs : List (Program Unit), σ.rests = ps ++ qs →
      (∀ p ∈ ps, p.result? = some ()) →
        ∃ turns : List Turn, ∀ p ∈ (turns.foldl play σ).rests, p.result? = some () from
    hfrom [] σ.rests rfl (List.forall_mem_nil _)
  -- The operations in `ps` are at their ends, and one of `qs` is brought there after the other.
  intro ps qs hrests hps
  induction qs generalizing σ ps with
  | nil =>
      refine ⟨[], fun p hp => hps p ?_⟩
      rwa [List.foldl_nil, hrests, List.append_nil] at hp
  | cons q qs ih =>
      have hi : σ.rests[ps.length]? = some q := by
        rw [hrests, List.getElem?_append_right le_rfl, Nat.sub_self]
        rfl
      obtain ⟨n, hn⟩ := exists_done hi
      rw [hrests, List.set_append_right _ _ le_rfl, Nat.sub_self, List.set_cons_zero,
        List.append_cons] at hn
      obtain ⟨turns, hturns⟩ := ih _ _ hn
        (List.forall_mem_append.2 ⟨hps, List.forall_mem_singleton.2 rfl⟩)
      refine ⟨List.replicate n (.step ps.length none) ++ turns, ?_⟩
      rwa [List.foldl_append]

/-! ## What is owed -/

/-- What the counter of a tally is to say. -/
def amount (σ : Pool) : Tally → Nat
  | .made => σ.store.versionSum
  | .failed => σ.failedMarks

variable {k : Tally} {p : Program Unit}

/-- A step moves what is counted and what is owed along with what is to be counted. -/
theorem advance_owes {σ : Pool} {n : Nat} (failure : Option StoreError)
    (h : p.Owes k (fun _ n => n = 0) n) :
    ∃ n', (σ.advance failure p).2.Owes k (fun _ n => n = 0) n' ∧
      (σ.advance failure p).1.metrics.counter k.counter + n' + σ.amount k
        = σ.metrics.counter k.counter + n + (σ.advance failure p).1.amount k := by
  cases p with
  | done a => exact ⟨n, h, rfl⟩
  | note m next =>
      obtain ⟨rest, hn, hnext⟩ := h
      refine ⟨rest, hnext, ?_⟩
      have hcounter := σ.metrics.counter_record m k.counter
      have hamount : (σ.advance failure (.note m next)).1.amount k = σ.amount k := by cases k <;> rfl
      rw [hamount]
      simp only [advance]
      omega
  | call c next =>
      cases failure with
      | none =>
          refine ⟨_, h (σ.store.answer c).1, ?_⟩
          have hamount : (σ.advance none (.call c next)).1.amount k
              = σ.amount k + k.adds c (σ.store.answer c).1 := by
            cases k with
            | made => exact σ.store.versionSum_answer c
            | failed => cases c <;> rfl
          rw [hamount]
          simp only [advance]
          omega
      | some e =>
          refine ⟨_, h (.error e), ?_⟩
          have hamount : (σ.advance (some e) (.call c next)).1.amount k
              = σ.amount k + k.adds c (.error e) := by
            cases k with
            | made => cases c <;> rfl
            | failed => cases c <;> rfl
          rw [hamount]
          simp only [advance]
          omega

/-- What the programs owe together. -/
inductive Owed (k : Tally) : List (Program Unit) → Nat → Prop where
  | nil : Owed k [] 0
  | cons {p : Program Unit} {ps : List (Program Unit)} {n rest : Nat}
      (h : p.Owes k (fun _ n => n = 0) n) (hrest : Owed k ps rest) : Owed k (p :: ps) (n + rest)

namespace Owed

variable {ps : List (Program Unit)} {n : Nat}

theorem append_of_pays (h : Owed k ps n) (hp : p.Pays k) : Owed k (ps ++ [p]) n := by
  induction h with
  | nil => exact .cons hp .nil
  | cons hq _ ih => exact .cons hq ih

/-- One of the programs may be replaced, and what it owes with it. -/
theorem exists_set {i : Nat} (h : Owed k ps n) (hi : ps[i]? = some p) :
    ∃ m rest, n = m + rest ∧ p.Owes k (fun _ n => n = 0) m ∧
      ∀ q m', Program.Owes k (fun _ n => n = 0) q m' → Owed k (ps.set i q) (m' + rest) := by
  induction h generalizing i with
  | nil => cases hi
  | @cons p' ps m rest hp hps ih =>
      cases i with
      | zero =>
          cases hi
          exact ⟨m, rest, rfl, hp, fun q m' hq => .cons hq hps⟩
      | succ i =>
          obtain ⟨m', rest', hrest, hp', hset⟩ := ih hi
          refine ⟨m', m + rest', by omega, hp', fun q l hq => ?_⟩
          have howed := Owed.cons hp (hset q l hq)
          rwa [show m + (l + rest') = l + (m + rest') by omega] at howed

/-- Programs that have come to their ends owe nothing. -/
theorem eq_zero (h : Owed k ps n) (hdone : ∀ p ∈ ps, p.result? = some ()) : n = 0 := by
  induction h with
  | nil => rfl
  | @cons p ps m rest hp _ ih =>
      obtain ⟨hp', hps⟩ := List.forall_mem_cons.1 hdone
      rw [Program.eq_done_of_result? hp'] at hp
      rw [show m = 0 from hp, ih hps]

end Owed

/-- What was counted since, with what is owed, is what is to be counted. -/
def Balanced (k : Tally) (m : Metrics) (σ : Pool) : Prop :=
  ∃ n, Owed k σ.rests n ∧ σ.metrics.counter k.counter + n = m.counter k.counter + σ.amount k

theorem Balanced.play {m : Metrics} {σ : Pool} (h : Balanced k m σ) (t : Turn) :
    Balanced k m (σ.play t) := by
  obtain ⟨n, howed, heq⟩ := h
  cases t with
  | begin o =>
      have hamount : (σ.play (.begin o)).amount k = σ.amount k := by cases k <;> rfl
      exact ⟨n, howed.append_of_pays o.pays, hamount ▸ heq⟩
  | step i failure =>
      cases hi : σ.rests[i]? with
      | none =>
          have hplay : σ.play (.step i failure) = σ := by simp only [Pool.play, hi]
          rw [hplay]
          exact ⟨n, howed, heq⟩
      | some p =>
          obtain ⟨d, rest, hn, hp, hset⟩ := howed.exists_set hi
          obtain ⟨d', hq, hmoved⟩ := advance_owes (σ := σ) failure hp
          have hamount : (σ.play (.step i failure)).amount k = (σ.advance failure p).1.amount k := by
            rw [play_step failure hi]
            cases k <;> rfl
          refine ⟨d' + rest, ?_, ?_⟩
          · rw [play_step failure hi]
            exact hset _ _ hq
          · rw [hamount, play_step failure hi]
            simp only
            omega

theorem balanced_run (k : Tally) (m : Metrics) (turns : List Turn) : Balanced k m (run m turns) := by
  have hstart : Balanced k m { metrics := m } := by
    refine ⟨0, .nil, ?_⟩
    cases k <;> rfl
  unfold run
  generalize ({ metrics := m } : Pool) = σ at hstart
  induction turns generalizing σ with
  | nil => exact hstart
  | cons t turns ih => exact ih _ (hstart.play t)

/-- When all operations have come to an end, as they always can and however they end, the counters have
gone up by the sum of all versions and by the number of marks that failed. -/
theorem counters_exact {m : Metrics} {turns : List Turn}
    (hdone : ∀ p ∈ (run m turns).rests, p.result? = some ()) :
    (run m turns).metrics.counter .nodesMarked
        = m.counter .nodesMarked + (run m turns).store.versionSum ∧
      (run m turns).metrics.counter .markFailures
        = m.counter .markFailures + (run m turns).failedMarks := by
  have hpaid (k : Tally) : (run m turns).metrics.counter k.counter
      = m.counter k.counter + (run m turns).amount k := by
    obtain ⟨n, howed, heq⟩ := balanced_run k m turns
    rw [howed.eq_zero hdone] at heq
    exact heq
  exact ⟨hpaid .made, hpaid .failed⟩

/-- A cluster and its two nodes are saved; then the cluster is propagated and saved at the same time, while
one node acknowledges and the other fetches, and one of the marks fails. -/
def contended : List Turn := List.flatten [
  [.begin (.mutation (.save (.cluster { id := 1 })))],
  List.replicate 4 (.step 0 none),
  [.begin (.mutation (.save (.node { id := 10, clusterId := 1 }))),
    .begin (.mutation (.save (.node { id := 11, clusterId := 1 })))],
  List.replicate 5 (.step 1 none),
  List.replicate 5 (.step 2 none),
  [.begin (.notify ⟨.cluster, 1⟩), .begin (.mutation (.save (.cluster { id := 1 }))), .begin (.ack 10 7),
    .begin (.fetchNode 11)],
  [.step 3 none, .step 4 none, .step 4 none, .step 3 none, .step 4 (some (.query "lost")), .step 5 none,
    .step 3 none, .step 4 none, .step 4 none, .step 3 none, .step 5 none, .step 4 none],
  List.replicate 9 (.step 6 none)]

theorem counters_exact_contended :
    (∀ p ∈ (run {} contended).rests, p.result? = some ()) ∧
      (run {} contended).store.versionSum = 5 ∧ (run {} contended).failedMarks = 1 ∧
      (run {} contended).metrics.counter .nodesMarked = 5 ∧
      (run {} contended).metrics.counter .markFailures = 1 := by
  have hdone : ∀ p ∈ (run {} contended).rests, p.result? = some () := by decide +kernel
  have hsum : (run {} contended).store.versionSum = 5 := by decide +kernel
  have hfailed : (run {} contended).failedMarks = 1 := by decide +kernel
  obtain ⟨hmade, hlost⟩ := counters_exact hdone
  have hfresh (c : Counter) : ({} : Metrics).counter c = 0 := rfl
  rw [hsum, hfresh, Nat.zero_add] at hmade
  rw [hfailed, hfresh, Nat.zero_add] at hlost
  exact ⟨hdone, hsum, hfailed, hmade, hlost⟩

end Pool

end Fleet
