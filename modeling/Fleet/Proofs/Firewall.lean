import Fleet.Proofs.Http.Polled

/-!
# Firewall events recorded

What reports leave in the outbox while others change the store between any two of their calls, and any
call may fail.
-/

namespace Fleet

open Fleet.Action

/-! ## Reads of a store that changes -/

/-- What every call finds is given ahead; the state is the number of calls made. -/
def FaultyStore.changing (moments : Nat → FaultyStore) : Program.Host Nat where
  answer c t := (((moments t).answer c).1, t + 1)
  hear _ t := t

/-- The record is looked up without a failure. -/
def FaultyStore.Answers (s : FaultyStore) (x : EntityRef) : Prop := s.faults.error? (.find x) = none

section Reads

variable {moments : Nat → FaultyStore} {t : Nat} {x : EntityRef}

theorem FaultyStore.answer_find_of_answers {s : FaultyStore} (h : s.Answers x) :
    (s.answer (.find x)).1 = .ok (s.store.find? x) := by
  have hcounted : (s.count (.find x)).faults.error? (.find x) = none := h
  simp only [answer, hcounted]
  rfl

theorem FaultyStore.answer_find_of_not_answers {s : FaultyStore} (h : ¬ s.Answers x) :
    ∃ e, (s.answer (.find x)).1 = .error e := by
  obtain ⟨e, he⟩ := Option.ne_none_iff_exists'.1 h
  have hcounted : (s.count (.find x)).faults.error? (.find x) = some e := he
  refine ⟨e, ?_⟩
  simp only [answer, hcounted]

theorem run_find_of_answers (h : (moments t).Answers x) :
    (ask (.find x)).run.run (FaultyStore.changing moments) t
      = (.ok ((moments t).store.find? x), t + 1) := by
  rw [run_ask]
  simp only [FaultyStore.changing, FaultyStore.answer_find_of_answers h]
  rfl

theorem run_find_of_not_answers (h : ¬ (moments t).Answers x) :
    ∃ e, (ask (.find x)).run.run (FaultyStore.changing moments) t = (.error e, t + 1) := by
  obtain ⟨e, he⟩ := FaultyStore.answer_find_of_not_answers h
  refine ⟨.store e, ?_⟩
  rw [run_ask]
  simp only [FaultyStore.changing, he]
  rfl

/-! What is read may be taken from the record. -/

variable {α : Type} {f : Option Record → α}

theorem run_read_of_answers (h : (moments t).Answers x) :
    (do return f (← ask (.find x)) : Action α).run.run (FaultyStore.changing moments) t
      = (.ok (f ((moments t).store.find? x)), t + 1) := by
  rw [run_bind_ok (run_find_of_answers h)]
  rfl

theorem of_run_read {a : α} {t' : Nat}
    (h : (do return f (← ask (.find x)) : Action α).run.run (FaultyStore.changing moments) t
      = (.ok a, t')) :
    (moments t).Answers x ∧ f ((moments t).store.find? x) = a ∧ t + 1 = t' := by
  by_cases hx : (moments t).Answers x
  · rw [run_read_of_answers hx] at h
    cases h
    exact ⟨hx, rfl, rfl⟩
  · obtain ⟨e, he⟩ := run_find_of_not_answers hx
    rw [run_bind_error he] at h
    cases h

end Reads

/-! ## One report -/

namespace FirewallReport

variable {moments : Nat → FaultyStore} {t : Nat} {r : FirewallReport} {a : Node}

/-- The report is of a node that is stored and in a cluster, and none of its reads fails. -/
structure Accepted (moments : Nat → FaultyStore) (t : Nat) (r : FirewallReport) (a : Node) : Prop where
  positive : 0 < r.nodeId
  nodeRead : (moments t).Answers ⟨.node, r.nodeId⟩
  stored : (moments t).store.find? ⟨.node, r.nodeId⟩ = some (.node a)
  clustered : 0 < a.clusterId
  clusterRead : (moments (t + 1)).Answers ⟨.cluster, a.clusterId⟩
  serverRead : (moments (t + 2)).Answers ⟨.server, r.event.serverId⟩

/-- The message says where the node was when it was read. -/
theorem run_message?_of_accepted (h : r.Accepted moments t a) :
    ∃ draft t', r.message?.run.run (FaultyStore.changing moments) t = (.ok (some draft), t') ∧
      draft.target = ⟨a.clusterId, a.id, r.event.serverId⟩ := by
  have hcheck : (check (requireId "node_id" r.nodeId)).run.run (FaultyStore.changing moments) t
      = (.ok (), t) := by
    rw [requireId, if_neg (by simpa using h.positive)]
    rfl
  have hnode : (findNode r.nodeId).run.run (FaultyStore.changing moments) t = (.ok (some a), t + 1) := by
    rw [findNode, run_read_of_answers h.nodeRead, h.stored]
    rfl
  have hcluster : ∃ cluster, (findCluster a.clusterId).run.run (FaultyStore.changing moments) (t + 1)
      = (.ok cluster, t + 2) := ⟨_, run_read_of_answers h.clusterRead⟩
  have hserver : ∃ server, (findServer r.event.serverId).run.run (FaultyStore.changing moments) (t + 2)
      = (.ok server, t + 3) := ⟨_, run_read_of_answers h.serverRead⟩
  obtain ⟨cluster, hcluster⟩ := hcluster
  obtain ⟨server, hserver⟩ := hserver
  refine ⟨r.event.message a (cluster.elim "" (·.name))
    ((server.filter (·.state.isEnabled)).elim "" (·.name)), t + 3, ?_, rfl⟩
  rw [message?, run_bind_ok hcheck, run_bind_ok hnode]
  simp only [if_neg (Int.not_le.2 h.clustered)]
  rw [run_bind_ok hcluster, run_bind_ok hserver]
  rfl

theorem accepted_of_run_message? {draft : MessageDraft} {t' : Nat}
    (h : r.message?.run.run (FaultyStore.changing moments) t = (.ok (some draft), t')) :
    ∃ a, r.Accepted moments t a := by
  obtain ⟨u, t₀, hcheck, h⟩ := run_bind_eq_ok h
  obtain ⟨hpositive, rfl⟩ : 0 < r.nodeId ∧ t = t₀ := by
    change (requireId "node_id" r.nodeId, t) = _ at hcheck
    rw [requireId] at hcheck
    split at hcheck
    · cases hcheck
    · cases hcheck
      exact ⟨by omega, rfl⟩
  obtain ⟨node, t₁, hnode, h⟩ := run_bind_eq_ok h
  obtain ⟨hnodeRead, hfound, rfl⟩ := of_run_read hnode
  cases node with
  | none => cases h
  | some a =>
      dsimp only at h
      split at h
      · cases h
      rename_i hclustered
      obtain ⟨cluster, t₂, hcluster, h⟩ := run_bind_eq_ok h
      obtain ⟨hclusterRead, -, rfl⟩ := of_run_read hcluster
      obtain ⟨server, t₃, hserver, -⟩ := run_bind_eq_ok h
      obtain ⟨hserverRead, -, -⟩ := of_run_read hserver
      obtain ⟨record, hstored, hrecord⟩ := Option.bind_eq_some_iff.1 hfound
      obtain rfl := Record.node?_eq_some_iff.1 hrecord
      exact ⟨a, hpositive, hnodeRead, hstored, by omega, hclusterRead, hserverRead⟩

theorem run_deliver (r : FirewallReport) (outbox : Outbox) (t : Nat) :
    (r.deliver outbox).run (FaultyStore.changing moments) t
      = match r.message?.run.run (FaultyStore.changing moments) t with
        | (.ok (some draft), t') => ((.ok (some (outbox.record draft).1), (outbox.record draft).2), t')
        | (.ok none, t') => ((.ok none, outbox), t')
        | (.error e, t') => ((.error e, outbox), t') := by
  rw [deliver, Program.run_bind]
  rcases r.message?.run.run (FaultyStore.changing moments) t with ⟨_ | _ | _, t'⟩ <;> rfl

end FirewallReport

/-! ## Many reports -/

/-- The numbers ascend, and the next one is above them all. -/
structure Outbox.Numbered (o : Outbox) : Prop where
  ascending : (o.messages.map (·.id)).Pairwise (· < ·)
  below : ∀ m ∈ o.messages, m.id < o.nextId

theorem Outbox.numbered_empty : ({} : Outbox).Numbered := ⟨.nil, by simp⟩

theorem Outbox.Numbered.record {o : Outbox} (h : o.Numbered) (draft : MessageDraft) :
    (o.record draft).2.Numbered := by
  constructor
  · simp only [Outbox.record, List.map_append, List.map_cons, List.map_nil, List.pairwise_append,
      List.mem_map, forall_exists_index, and_imp, forall_apply_eq_imp_iff₂, List.mem_singleton,
      forall_eq]
    exact ⟨h.ascending, List.pairwise_singleton _ _, h.below⟩
  · intro m hm
    rcases List.mem_append.1 hm with hm | hm
    · have hlt := h.below m hm
      change m.id < o.nextId + 1
      omega
    · rw [List.mem_singleton.1 hm]
      exact Int.lt_succ o.nextId

namespace FirewallReport

/-- Reports one after another, and what they leave in the outbox. -/
def deliverAll : List FirewallReport → Outbox → Program Outbox
  | [], outbox => return outbox
  | r :: rest, outbox => do
    let (_, outbox) ← r.deliver outbox
    deliverAll rest outbox

theorem returns_deliver_numbered (r : FirewallReport) {outbox : Outbox} (h : outbox.Numbered) :
    (r.deliver outbox).Returns fun x => x.2.Numbered := by
  refine (Http.returns_deliver r outbox).imp fun x hx => ?_
  rcases hx with hx | ⟨draft, hx⟩
  · rw [hx]
    exact h
  · rw [hx]
    exact h.record draft

theorem returns_deliverAll_numbered (reports : List FirewallReport) {outbox : Outbox}
    (h : outbox.Numbered) : (deliverAll reports outbox).Returns Outbox.Numbered := by
  induction reports generalizing outbox with
  | nil => exact h
  | cons r reports ih => exact (r.returns_deliver_numbered h).bind fun _ hx => ih hx

/-- Of reports that come in one after another, each is recorded once, as a message about the cluster that
its node is then in, or leaves the outbox as it was. -/
theorem deliver_exact {moments : Nat → FaultyStore} {earlier : List FirewallReport} {r : FirewallReport}
    {result : Except Failure (Option Int)} {before after : Outbox} {t t' : Nat}
    (hreach : ∀ t, (moments t).store.Reachable)
    (hearlier : (deliverAll earlier {}).run (FaultyStore.changing moments) 0 = (before, t))
    (hrun : (r.deliver before).run (FaultyStore.changing moments) t = ((result, after), t')) :
    (after.messages.map (·.id)).Pairwise (· < ·) ∧
      ((∃ a m, r.Accepted moments t a ∧ result = .ok (some m.id) ∧
          after.messages = before.messages ++ [m] ∧
          m.target = ⟨a.clusterId, r.nodeId, r.event.serverId⟩) ∨
        (∀ a, ¬ r.Accepted moments t a) ∧ (result = .ok none ∨ ∃ e, result = .error e) ∧
          after = before) := by
  have hbefore : before.Numbered := by
    have hnumbered := (returns_deliverAll_numbered earlier Outbox.numbered_empty).run
      (FaultyStore.changing moments) 0
    rwa [hearlier] at hnumbered
  have hafter : after.Numbered := by
    have hnumbered := (r.returns_deliver_numbered hbefore).run (FaultyStore.changing moments) t
    rwa [hrun] at hnumbered
  refine ⟨hafter.ascending, ?_⟩
  rw [run_deliver] at hrun
  by_cases haccepted : ∃ a, r.Accepted moments t a
  · obtain ⟨a, ha⟩ := haccepted
    obtain ⟨draft, u, hmessage, htarget⟩ := run_message?_of_accepted ha
    have hid : a.id = r.nodeId := congrArg EntityRef.id ((hreach t).sound.own ha.stored)
    rw [hmessage] at hrun
    cases hrun
    exact .inl ⟨a, { draft with id := before.nextId }, ha, rfl, rfl, hid ▸ htarget⟩
  · refine .inr ⟨not_exists.1 haccepted, ?_⟩
    rcases hmessage : r.message?.run.run (FaultyStore.changing moments) t with ⟨e | _ | draft, u⟩
    · rw [hmessage] at hrun
      cases hrun
      exact ⟨.inr ⟨e, rfl⟩, rfl⟩
    · rw [hmessage] at hrun
      cases hrun
      exact ⟨.inl rfl, rfl⟩
    · exact absurd (accepted_of_run_message? hmessage) haccepted

end FirewallReport

/-- A store with a node that moves to another cluster while servers cannot be read. -/
def FaultyStore.moving (t : Nat) : FaultyStore :=
  let seeded := (Store.empty.loadSeed {
    clusters := [{ id := 1 }, { id := 2 }]
    nodes := [{ id := 10, clusterId := 1 }] }).2
  let moved := (seeded.answer (.save (.node { id := 10, clusterId := 2 }))).2
  if t < 3 then { store := seeded }
  else if t < 6 then { store := moved, faults := { methods := [(.find .server, .unavailable "lost")] } }
  else { store := moved }

theorem FaultyStore.reachable_moving (t : Nat) : (moving t).store.Reachable := by
  unfold moving
  split
  · exact .seed _ .empty
  · split
    · exact .call _ (.seed _ .empty)
    · exact .call _ (.seed _ .empty)

namespace FirewallReport

/-- The second of three reports is lost. -/
theorem deliver_exact_moving :
    let r : FirewallReport := ⟨10, ⟨20, "", "", 0⟩⟩
    let m : Message := { r.event.message { id := 10, clusterId := 1 } "" "" with id := 1 }
    let m' : Message := { r.event.message { id := 10, clusterId := 2 } "" "" with id := 2 }
    (∀ t, (FaultyStore.moving t).store.Reachable) ∧
      (deliverAll [r, r] {}).run (FaultyStore.changing .moving) 0 = (⟨[m], 2⟩, 6) ∧
      (r.deliver ⟨[m], 2⟩).run (FaultyStore.changing .moving) 6 = ((.ok (some 2), ⟨[m, m'], 3⟩), 9) ∧
      ([m, m'].map (·.id)).Pairwise (· < ·) ∧
      ∃ a, r.Accepted .moving 6 a ∧ m'.target = ⟨a.clusterId, 10, 20⟩ := by
  intro r m m'
  have hearlier : (deliverAll [r, r] {}).run (FaultyStore.changing .moving) 0 = (⟨[m], 2⟩, 6) := by
    decide +kernel
  have hrun : (r.deliver ⟨[m], 2⟩).run (FaultyStore.changing .moving) 6
      = ((.ok (some 2), ⟨[m, m'], 3⟩), 9) := by decide +kernel
  have hreach := FaultyStore.reachable_moving
  obtain ⟨hids, ⟨a, m'', ha, -, happended, htarget⟩ | ⟨-, hsilent, -⟩⟩ :=
    deliver_exact hreach hearlier hrun
  · have hm : m' = m'' := List.head_eq_of_cons_eq (List.tail_eq_of_cons_eq happended)
    exact ⟨hreach, hearlier, hrun, hids, a, ha, hm ▸ htarget⟩
  · simp at hsilent

end FirewallReport

end Fleet
