import Fleet.Proofs.Composition.Shape
import Fleet.Proofs.Measure
import Fleet.Proofs.Mutation.Basic
import Fleet.Proofs.Store.Linked

/-!
# Marks that are counted

An operation counts the marks that it makes and those that fail, some of them later than they are made.
Till then it owes them to the counter. An operation that has come to an end, however it ends, owes
nothing.
-/

namespace Fleet

open Fleet.Action

/-- What is counted of marks. -/
inductive Tally where
  | made
  | failed
deriving DecidableEq, Repr

namespace Tally

def counter : Tally → Counter
  | .made => .nodesMarked
  | .failed => .markFailures

/-- What a call adds, by its answer, to what is to be counted. -/
def adds (k : Tally) : (c : Call) → Except StoreError c.Answer → Nat
  | .mark _, .ok _ => if k = .made then 1 else 0
  | .mark _, .error _ => if k = .failed then 1 else 0
  | _, _ => 0

end Tally

namespace Program

variable {α β : Type} {k : Tally} {Q : α → Nat → Prop} {R : β → Nat → Prop} {n : Nat}

/-- Of a program that owes `n`, whatever its calls are answered: where it ends, in `Q` with what it then
owes. -/
def Owes (k : Tally) (Q : α → Nat → Prop) : Program α → Nat → Prop
  | .done a, n => Q a n
  | .note m next, n => ∃ rest, n = m.raises k.counter + rest ∧ next.Owes k Q rest
  | .call c next, n => ∀ answer, (next answer).Owes k Q (n + k.adds c answer)

theorem Owes.bind {p : Program α} {f : α → Program β} (hp : p.Owes k Q n)
    (hf : ∀ a n, Q a n → (f a).Owes k R n) : (p >>= f).Owes k R n := by
  change (p.bind f).Owes k R n
  induction p generalizing n with
  | done a => exact hf a n hp
  | note m next ih =>
      obtain ⟨rest, hn, hp⟩ := hp
      exact ⟨rest, hn, ih hp⟩
  | call c next ih => exact fun answer => ih answer (hp answer)

/-- The program owes nothing at its ends if it owes nothing when it starts. -/
def Pays (k : Tally) (p : Program α) : Prop := p.Owes k (fun _ n => n = 0) 0

theorem pays_done (a : α) : (Program.done a).Pays k := rfl

theorem Pays.bind {p : Program α} {f : α → Program β} (hp : p.Pays k)
    (hf : ∀ a, (f a).Pays k) : (p >>= f).Pays k := by
  refine Owes.bind hp fun a n hn => ?_
  rw [hn]
  exact hf a

theorem pays_note {m : Measure} {next : Program α} (hm : m.raises k.counter = 0)
    (h : next.Pays k) : (Program.note m next).Pays k := ⟨0, by rw [hm], h⟩

theorem pays_call {c : Call} {next : Except StoreError c.Answer → Program α}
    (hc : ∀ answer, k.adds c answer = 0) (h : ∀ answer, (next answer).Pays k) :
    (Program.call c next).Pays k := by
  intro answer
  rw [hc answer]
  exact h answer

end Program

namespace Action

variable {ε α β : Type} {k : Tally}

theorem pays_bind {a : ExceptT ε Program α} {f : α → ExceptT ε Program β} (ha : a.run.Pays k)
    (hf : ∀ x, (f x).run.Pays k) : (a >>= f).run.Pays k := by
  rw [ExceptT.run_bind]
  refine ha.bind fun r => ?_
  cases r with
  | ok x => exact hf x
  | error e => exact Program.pays_done _

theorem pays_pure (a : α) : (pure a : Action α).run.Pays k := rfl

theorem pays_check (r : Except Failure α) : (check r).run.Pays k := rfl

theorem pays_ask {c : Call} (hc : ∀ answer, k.adds c answer = 0) : (ask c).run.Pays k := by
  refine Program.pays_call hc fun answer => ?_
  cases answer <;> rfl

theorem pays_find (x : EntityRef) : (ask (.find x)).run.Pays k := pays_ask fun _ => rfl

theorem pays_findNode (id : Int) : (findNode id).run.Pays k :=
  pays_bind (pays_find _) fun _ => rfl

theorem pays_findCluster (id : Int) : (findCluster id).run.Pays k :=
  pays_bind (pays_find _) fun _ => rfl

end Action

variable {k : Tally}

/-! ## Propagations -/

theorem pays_visit (w : Walk) (x : EntityRef) : (w.visit x).run.Pays k := by
  obtain ⟨kind, id⟩ := x
  cases kind with
  | node =>
      refine pays_bind (pays_findNode id) fun n => ?_
      cases n <;> exact pays_pure _
  | cluster => exact pays_bind (pays_ask fun _ => rfl) fun _ => pays_pure _
  | server | serverGroup | reverseProxy | origin =>
      exact pays_bind (pays_ask fun _ => rfl) fun _ => pays_pure _

theorem pays_foldlM_visit (xs : List EntityRef) (w : Walk) :
    (xs.foldlM Walk.visit w).run.Pays k := by
  induction xs generalizing w with
  | nil => exact pays_pure _
  | cons x xs ih =>
      rw [List.foldlM_cons]
      exact pays_bind (pays_visit w x) fun w => ih w

theorem pays_rounds (n : Nat) (round : List EntityRef) (w : Walk) :
    (Walk.rounds n round w).run.Pays k := by
  induction n generalizing round w with
  | zero => exact pays_pure _
  | succ n ih => exact pays_bind (pays_foldlM_visit _ _) fun w => ih _ w

theorem pays_affectedNodes (x : EntityRef) : (affectedNodes x).run.Pays k :=
  pays_bind (pays_rounds _ _ _) fun _ => pays_pure _

/-- The marks that a propagation has made are counted when it has tried them all; those that failed are
counted at once. -/
def Tally.due (k : Tally) (report : Report) : Nat :=
  match k with
  | .made => report.marked.size
  | .failed => 0

theorem run_markAll_cons (n : Int) (l : List Int) (report : Report) (error : Option StoreError) :
    (markAll (n :: l) report error).run = .call (.mark n) fun
      | .ok _ => (markAll l { report with marked := report.marked.add n } error).run
      | .error e => .note (.count .markFailures 1)
          (markAll l { report with failed := report.failed.add n } (error.or (some e))).run := by
  refine congrArg (Program.call (.mark n)) (funext fun answer => ?_)
  cases answer <;> rfl

theorem owes_markAll {l : List Int} (hl : l.Nodup) (report : Report) (error : Option StoreError)
    (hnew : ∀ n ∈ l, ¬ n ∈ report.marked) :
    (markAll l report error).run.Owes k
      (fun r n => ∃ x, r = .ok x ∧ n = k.due x.1) (k.due report) := by
  induction l generalizing report error with
  | nil => exact ⟨_, rfl, rfl⟩
  | cons n l ih =>
      obtain ⟨hn, hl⟩ := List.nodup_cons.1 hl
      obtain ⟨hnmarked, hnew⟩ := List.forall_mem_cons.1 hnew
      rw [run_markAll_cons]
      intro answer
      cases answer with
      | ok version =>
          have hdue : k.due report + k.adds (.mark n) (.ok version)
              = k.due { report with marked := report.marked.add n } := by
            cases k with
            | made => exact (OrdSet.size_add hnmarked).symm
            | failed => rfl
          rw [hdue]
          refine ih hl _ error fun m hm => ?_
          rw [OrdSet.mem_add, not_or]
          exact ⟨fun h => hn (h ▸ hm), hnew m hm⟩
      | error e =>
          have hpaid : k.due report + k.adds (.mark n) (.error e)
              = (Measure.count .markFailures 1).raises k.counter
                + k.due { report with failed := report.failed.add n } := by
            cases k with
            | made => exact (Nat.zero_add _).symm
            | failed => rfl
          exact ⟨_, hpaid, ih hl _ _ hnew⟩

/-- A propagation pays what it owes before it ends, also with an error. -/
theorem pays_notify (x : EntityRef) : (notify x).run.Pays k := by
  refine pays_bind (pays_check _) fun _ => pays_bind (pays_affectedNodes x) fun nodes => ?_
  have hmarked : (markAll nodes.toList {} none).run.Owes k
      (fun r n => ∃ x, r = .ok x ∧ n = k.due x.1) 0 := by
    have hempty : k.due {} = 0 := by cases k <;> rfl
    have howes := owes_markAll (k := k) (OrdMap.keys_nodup nodes) {} none
      fun n _ => OrdSet.not_mem_empty n
    rwa [hempty] at howes
  rw [ExceptT.run_bind]
  refine hmarked.bind fun r n ⟨x, hr, hn⟩ => ?_
  obtain ⟨report, error⟩ := x
  subst hr
  have hpaid : n = (Measure.count .nodesMarked report.marked.size).raises k.counter + 0 := by
    rw [hn]
    cases k <;> rfl
  cases error with
  | none => exact ⟨0, hpaid, rfl⟩
  | some e => exact ⟨0, hpaid, rfl⟩

theorem pays_notifyOf (x : EntityRef) : (notifyOf x).run.Pays k :=
  pays_bind (pays_notify x) fun _ => pays_pure _

/-! ## Mutations -/

theorem pays_previousCluster (r : Server) : (previousCluster r).run.Pays k := by
  unfold previousCluster
  split
  · exact pays_bind (pays_bind (pays_find _) fun _ => pays_pure _) fun _ => pays_pure _
  · exact pays_pure _

theorem pays_requireServerGroup (id : Int) : (requireServerGroup id).run.Pays k := by
  refine pays_bind (pays_bind (pays_find _) fun _ => pays_pure _) fun g => ?_
  cases g <;> rfl

theorem pays_readGroups (earlier ids : List Int) : (readGroups earlier ids).run.Pays k := by
  induction ids generalizing earlier with
  | nil => exact pays_pure _
  | cons id ids ih =>
      refine pays_bind (pays_check _) fun _ => ?_
      split
      · rfl
      · exact pays_bind (pays_requireServerGroup id) fun _ =>
          pays_bind (ih _) fun _ => pays_pure _

theorem pays_saveServer (r : Server) : (saveServer r).run.Pays k := by
  refine pays_bind (pays_previousCluster r) fun previous => ?_
  refine pays_bind (pays_ask fun _ => rfl) fun id => ?_
  refine pays_bind (pays_notifyOf _) fun o => ?_
  cases previous with
  | none => exact pays_pure _
  | some old =>
      dsimp only
      split
      · exact pays_bind (pays_notify _) fun _ => pays_pure _
      · exact pays_pure _

theorem pays_saveRecord (r : Record) : (saveRecord r).run.Pays k := by
  refine pays_bind (pays_check _) fun _ => ?_
  cases r with
  | server r => exact pays_saveServer r
  | cluster _ | node _ | serverGroup _ | reverseProxy _ | origin _ =>
      exact pays_bind (pays_ask fun _ => rfl) fun _ => pays_notifyOf _

theorem pays_setGroupProxy (id : Int) (p : Protocol) (r : Option ReverseProxyRef) :
    (setGroupProxy id p r).run.Pays k := by
  refine pays_bind (pays_check _) fun _ => ?_
  refine pays_bind (pays_requireServerGroup id) fun _ => pays_bind (pays_check _) fun _ => ?_
  exact pays_bind (pays_ask fun _ => rfl) fun _ => pays_notifyOf _

theorem pays_rankGroups (groups : List ServerGroup) (report : Report) :
    (rankGroups groups report).run.Pays k := by
  induction groups generalizing report with
  | nil => exact pays_pure _
  | cons g groups ih =>
      refine pays_bind (pays_ask fun _ => rfl) fun _ => ?_
      exact pays_bind (pays_notify _) fun _ => ih _

theorem pays_orderGroups (ids : List Int) : (orderGroups ids).run.Pays k := by
  unfold orderGroups
  split
  · rfl
  · exact pays_bind (pays_readGroups [] ids) fun _ => pays_rankGroups _ _

theorem pays_setState (x : EntityRef) (enabled : Bool) : (setState x enabled).run.Pays k := by
  refine pays_bind (pays_check _) fun _ => pays_bind (pays_ask fun _ => rfl) fun found => ?_
  cases found with
  | false => rfl
  | true => exact pays_notifyOf _

theorem pays_map {α β : Type} {f : α → β} {a : Action α} (h : a.run.Pays k) :
    (f <$> a).run.Pays k := by
  rw [← bind_pure_comp]
  exact pays_bind h fun _ => pays_pure _

theorem Mutation.pays (m : Mutation) : m.action.run.Pays k := by
  cases m with
  | save r => exact pays_map (pays_saveRecord r)
  | setGroupProxy id p r => exact pays_map (pays_setGroupProxy id p r)
  | orderGroups ids => exact pays_orderGroups ids
  | setState x enabled => exact pays_map (pays_setState x enabled)

/-! ## Configs and acknowledgements -/

namespace Composing

variable {α β ρ : Type}

/-- From every cache. -/
def Pays (k : Tally) (x : Composing α) : Prop := ∀ cache, (x.run.run cache).Pays k

theorem Pays.bind {x : Composing α} {f : α → Composing β} (hx : Pays k x)
    (hf : ∀ a, Pays k (f a)) : Pays k (x >>= f) := by
  intro cache
  rw [ExceptT.run_bind, StateT.run_bind]
  refine (hx cache).bind fun ⟨r, cache⟩ => ?_
  cases r with
  | ok a => exact hf a cache
  | error e => rfl

theorem pays_settled {key : EntityRef} {wrap : α → Config} {pick : Record → Option ρ}
    {f : Option ρ → Composing (Option α)} (hf : ∀ r, Pays k (f r)) :
    Pays k (settled key wrap (ofAction (found key pick) >>= f)) := by
  intro cache
  have hbuild : ((ofAction (found key pick) >>= f).run.run (cache.begin key)).Pays k := by
    rw [run_found_bind]
    refine Program.pays_call (fun _ => rfl) fun answer => ?_
    cases answer with
    | ok r => exact hf _ _
    | error e => rfl
  refine hbuild.bind fun ⟨r, cache⟩ => ?_
  cases r <;> rfl

theorem pays_entity {key : EntityRef} {wrap : α → Config} {unwrap : Config → Option α}
    {pick : Record → Option ρ} {f : Option ρ → Composing (Option α)} (hf : ∀ r, Pays k (f r)) :
    Pays k (cached key wrap unwrap (ofAction (found key pick) >>= f)) := by
  intro cache
  by_cases hpos : 0 < key.id
  · rw [run_cached hpos]
    rcases cache.lookup key with e | ⟨_ | _ | config, cache'⟩
    · rfl
    · exact pays_settled hf cache'
    · rfl
    · refine Program.pays_note ?_ ?_
      · cases k <;> rfl
      · cases unwrap config with
        | some a => rfl
        | none => exact pays_settled hf cache'
  · rw [run_cached_of_not_pos hpos]
    rfl

theorem Below.pays {t : Nat} {x : Composing α} (h : Below t x) : Pays k x := by
  induction h with
  | outcome r => exact fun _ => rfl
  | servers cluster =>
      intro cache
      rw [← id_map (Action.ask (.enabledServers cluster)), run_ofAction_map_ask]
      refine Program.pays_call (fun _ => rfl) fun answer => ?_
      cases answer <;> rfl
  | bind _ _ hx hf => exact hx.bind hf
  | entity _ _ _ hf => exact pays_entity hf

theorem pays_any (target : EntityRef) : Pays k (entity target) := by
  obtain ⟨_, _, _, _, hrooted⟩ := exists_rooted target
  rw [hrooted.entry.entity_eq]
  exact ((hrooted.below (Nat.lt_succ_self _)).map).pays

end Composing

theorem pays_composeFresh (target : EntityRef) : (composeFresh target).run.Pays k := by
  refine Program.Pays.bind ?_ fun _ => rfl
  refine (Composing.pays_any target .empty).bind fun ⟨result, cache⟩ => ?_
  refine Program.pays_note ?_ (Program.pays_note rfl rfl)
  cases k <;> rfl

theorem pays_fetch (target : EntityRef) : (fetch target).run.Pays k :=
  pays_bind (pays_check _) fun _ => pays_composeFresh target

theorem pays_fetchNode (id : Int) : (fetchNode id).run.Pays k := by
  refine pays_bind (pays_check _) fun _ => pays_bind (pays_ask fun _ => rfl) fun version => ?_
  exact pays_bind (pays_composeFresh _) fun _ => pays_pure _

theorem pays_ackNode (id : Int) (version : Nat) : (ackNode id version).run.Pays k := by
  refine pays_bind (pays_check _) fun _ => pays_bind (pays_findNode id) fun node => ?_
  cases node with
  | none => rfl
  | some a => exact pays_ask fun _ => rfl

theorem pays_clustersOf (nodes : List Int) (found : OrdSet Int) :
    (clustersOf nodes found).run.Pays k := by
  induction nodes generalizing found with
  | nil => exact pays_pure _
  | cons n nodes ih =>
      refine pays_bind (pays_findNode n) fun node => ?_
      cases node with
      | none => exact ih found
      | some node =>
          dsimp only
          split
          · exact ih found
          · refine pays_bind (pays_findCluster _) fun cluster => ?_
            cases cluster <;> exact ih _

theorem pays_listPending (scope : PendingScope) : (listPending scope).run.Pays k := by
  refine pays_bind (pays_ask fun _ => rfl) fun nodes => ?_
  refine pays_bind (Program.pays_note rfl rfl) fun _ => ?_
  cases scope with
  | nodes => exact pays_pure _
  | clusters => exact pays_clustersOf nodes .empty

end Fleet
