import Fleet.Proofs.Health.Target
import Fleet.Proofs.Measure
import Fleet.Proofs.Store.Linked

/-!
# Results of health checks

A health check comes to one result for each enabled node of its cluster, in the order of the ids,
whatever the probes come back with and in whichever order they end.
-/

namespace Fleet

open Fleet.Action Json.Decoder

variable {network : Network} {probe : Probe} {a : Node} {address : String}

/-! ## One node -/

/-- Why a node is not probed: its addresses cannot be read, or none of them says anything. -/
inductive Unaddressed (a : Node) : ProbeFault → Prop where
  | malformed {e : Json.Refusal} (h : a.accessAddrs.decode (list string) = .error e) :
      Unaddressed a .addressesMalformed
  | blank {addresses : Option (List String)} (h : a.accessAddrs.decode (list string) = .ok addresses)
      (hblank : ∀ text ∈ addresses.getD [], Text.isBlankText text = true) : Unaddressed a .noAddress

/-- The probe of the node comes back with a status of the 200s. -/
def Network.Passes (network : Network) (probe : Probe) (a : Node) : Prop :=
  ∃ url, probedUrl? probe a = some url ∧
    ∃ code, network.reply a url probe.timeout = .status code ∧ 200 ≤ code ∧ code < 300

/-- What a result says about its node. -/
structure NodeHealth.Tells (network : Network) (probe : Probe) (a : Node) (r : NodeHealth) : Prop where
  nodeId : r.nodeId = a.id
  nodeName : r.nodeName = a.name
  isOk : r.isOk = true ↔ network.Passes probe a
  unaddressed : ∀ fault, Unaddressed a fault →
    probedUrl? probe a = none ∧ r = ⟨a.id, a.name, "", false, fault.message⟩

theorem NodeHealth.isOk_ofOutcome {outcome : Except ProbeFault Unit} :
    (ofOutcome a address outcome).isOk = true ↔ outcome = .ok () := by
  rcases outcome with fault | ⟨⟩ <;> simp [ofOutcome]

theorem Reply.outcome_eq_ok {timeout : Nat} {reply : Reply} :
    reply.outcome timeout = .ok () ↔ ∃ code, reply = .status code ∧ 200 ≤ code ∧ code < 300 := by
  cases reply with
  | status code => simp [outcome]
  | lost | late => simp [outcome]

theorem Unaddressed.accessAddress {fault : ProbeFault} (h : Unaddressed a fault) :
    accessAddress a = .error fault := by
  cases h with
  | malformed h => simp only [Fleet.accessAddress, h]
  | @blank addresses h hblank =>
      have hnone : (addresses.getD []).find? (fun text => !Text.isBlankText text) = none :=
        List.find?_eq_none.2 fun text htext => by simp [hblank text htext]
      simp only [Fleet.accessAddress, h, hnone]
      rfl

theorem isOk_checkNode : (checkNode network probe a).isOk = true ↔ network.Passes probe a := by
  unfold checkNode Network.Passes probedUrl?
  cases haddress : accessAddress a with
  | error fault => simp [NodeHealth.isOk_ofOutcome, Except.toOption]
  | ok address =>
      rw [NodeHealth.isOk_ofOutcome]
      cases htarget : probeTarget address probe with
      | error fault => simp [Except.toOption, htarget, bind, Except.bind]
      | ok target =>
          change (network.replyFrom a target probe.timeout).outcome probe.timeout = .ok () ↔ _
          rw [Reply.outcome_eq_ok, Network.replyFrom]
          cases hurl : target.http? with
          | none => simp [Except.toOption, htarget, hurl]
          | some url => simp [Except.toOption, htarget, hurl]

theorem tells_checkNode : NodeHealth.Tells network probe a (checkNode network probe a) := by
  have hof : ∃ address outcome, checkNode network probe a = .ofOutcome a address outcome := by
    unfold checkNode
    cases accessAddress a with
    | error fault => exact ⟨_, _, rfl⟩
    | ok address => exact ⟨_, _, rfl⟩
  obtain ⟨address, outcome, hof⟩ := hof
  refine ⟨?_, ?_, isOk_checkNode, fun fault h => ⟨?_, ?_⟩⟩
  · rw [hof]
    rcases outcome with fault | ⟨⟩ <;> rfl
  · rw [hof]
    rcases outcome with fault | ⟨⟩ <;> rfl
  · rw [probedUrl?, h.accessAddress]
    rfl
  · rw [checkNode, h.accessAddress]
    rfl

/-! ## The nodes of a cluster -/

variable {s : Store} {m : Metrics} {k : Int} {nodes : List Node}

theorem run_storedNodes (s : Store) (m : Metrics) (ids : List Int) :
    (storedNodes ids).run.run Store.metered (s, m)
      = (.ok (ids.filterMap fun id => (s.find? ⟨.node, id⟩).bind Record.node?), (s, m)) := by
  induction ids with
  | nil => rfl
  | cons id ids ih =>
      have hnode : (Action.findNode id).run.run Store.metered (s, m)
          = (.ok ((s.find? ⟨.node, id⟩).bind Record.node?), (s, m)) := rfl
      rw [storedNodes, run_bind_ok hnode, run_bind_ok ih, List.filterMap_cons]
      cases (s.find? ⟨.node, id⟩).bind Record.node? <;> rfl

/-- The enabled nodes of the cluster, as they are read for a health check. -/
def Store.checkedNodes (s : Store) (k : Int) : List Node :=
  (s.enabledNodes k).filterMap fun id => (s.find? ⟨.node, id⟩).bind Record.node?

/-- The nodes that a health check of the cluster is about, in the order of their ids. -/
structure Store.Checks (s : Store) (k : Int) (nodes : List Node) : Prop where
  ascending : nodes.Pairwise (·.id < ·.id)
  mem : ∀ a, a ∈ nodes ↔
    s.find? ⟨.node, a.id⟩ = some (.node a) ∧ a.state.isEnabled = true ∧ a.clusterId = k

theorem Store.Checks.eq {nodes' : List Node} (h : s.Checks k nodes) (h' : s.Checks k nodes') :
    nodes = nodes' := by
  have hnodup {l : List Node} (hl : s.Checks k l) : l.Nodup :=
    hl.ascending.imp fun {a b} hab heq => (lt_irrefl _ (heq ▸ hab)).elim
  have hperm : nodes.Perm nodes' :=
    (List.perm_ext_iff_of_nodup (hnodup h) (hnodup h')).2 fun a => (h.mem a).trans (h'.mem a).symm
  exact hperm.eq_of_pairwise (fun a b _ _ hab hba => (lt_asymm hab hba).elim) h.ascending h'.ascending

theorem Store.checks_checkedNodes (hs : s.Sound) (k : Int) : s.Checks k (s.checkedNodes k) := by
  have hid {id : Int} {a : Node} (h : (s.find? ⟨.node, id⟩).bind Record.node? = some a) :
      s.find? ⟨.node, id⟩ = some (.node a) ∧ a.id = id := by
    obtain ⟨r, hr, hra⟩ := Option.bind_eq_some_iff.1 h
    obtain rfl := Record.node?_eq_some_iff.1 hra
    exact ⟨hr, congrArg EntityRef.id (hs.own hr)⟩
  constructor
  · rw [checkedNodes, List.pairwise_filterMap]
    refine (hs.enabledNodes_ascending k).imp fun {i j} hij a ha b hb => ?_
    rw [(hid ha).2, (hid hb).2]
    exact hij
  · intro a
    rw [checkedNodes, List.mem_filterMap]
    constructor
    · rintro ⟨id, hmem, ha⟩
      obtain ⟨hstored, rfl⟩ := hid ha
      obtain ⟨b, hb, hcluster, henabled⟩ := (mem_enabledNodes hs).1 hmem
      obtain rfl := Record.node.inj (Option.some.inj (hb.symm.trans hstored))
      exact ⟨hstored, henabled, hcluster⟩
    · rintro ⟨hstored, henabled, hcluster⟩
      exact ⟨a.id, (mem_enabledNodes hs).2 ⟨a, hstored, hcluster, henabled⟩, by rw [hstored]; rfl⟩

/-! ## The results -/

/-- Results of different nodes come out in the order of the ids, however they came in. -/
theorem inIdOrder_of_perm {results results' : List NodeHealth}
    (hascending : results.Pairwise (·.nodeId < ·.nodeId)) (h : results'.Perm results) :
    inIdOrder results' = results := by
  have hsorted : (inIdOrder results').Pairwise (·.nodeId ≤ ·.nodeId) := by
    refine (List.pairwise_mergeSort (fun a b c hab hbc => ?_) (fun a b => ?_) results').imp
      of_decide_eq_true
    · simp only [decide_eq_true_eq] at *
      omega
    · simp only [Bool.or_eq_true, decide_eq_true_eq]
      omega
  refine ((List.mergeSort_perm _ _).trans h).eq_of_pairwise ?_ hsorted (hascending.imp le_of_lt)
  intro r r' hr hr' hle hge
  have hnodup : (results.map (·.nodeId)).Nodup := List.pairwise_map.2 (hascending.imp ne_of_lt)
  have hmem : r ∈ results := h.mem_iff.1 ((List.mergeSort_perm _ _).mem_iff.1 hr)
  exact List.inj_on_of_nodup_map hnodup hmem hr' (le_antisymm hle hge)

/-- Every result is counted once, as the probe that passed or did not. -/
structure Metrics.Counts (m m' : Metrics) (results : List NodeHealth) : Prop where
  probes : ∀ ok, m'.counter (.probes ok) = m.counter (.probes ok) + results.countP (·.isOk == ok)
  others : ∀ c, (∀ ok, c ≠ .probes ok) → m'.counter c = m.counter c

theorem run_countResults (s : Store) (m : Metrics) (results : List NodeHealth) :
    ∃ m', (countResults results).run.run Store.metered (s, m) = (.ok (), (s, m')) ∧
      m.Counts m' results := by
  induction results generalizing m with
  | nil => exact ⟨m, rfl, fun _ => rfl, fun _ _ => rfl⟩
  | cons r results ih =>
      obtain ⟨m', hrun, hcounts⟩ := ih (m.record (.count (.probes r.isOk) 1))
      refine ⟨m', hrun, fun ok => ?_, fun c hc => ?_⟩
      · rw [hcounts.probes, Metrics.counter_record, List.countP_cons]
        simp only [Measure.raises, Counter.probes.injEq, beq_iff_eq]
        omega
      · rw [hcounts.others c hc, Metrics.counter_record, Measure.raises, if_neg (hc r.isOk).symm]
        rfl

/-- A health check counts the results as they come in, and tells them in order. -/
theorem run_healthCheck (hs : s.Sound) {c : Cluster} {policy : Option HealthPolicy}
    (hcluster : s.find? ⟨.cluster, k⟩ = some (.cluster c))
    (hpolicy : c.healthCheck.decode HealthPolicy.decoder = .ok policy) (settings : ProbeSettings)
    (network : Network) (m : Metrics) :
    let results := (network.order (s.checkedNodes k)).map (checkNode network (.ofPolicy settings policy))
    ∃ m', (healthCheck settings network k).run.run Store.metered (s, m)
        = (.ok (inIdOrder results), (s, m')) ∧ m.Counts m' results := by
  have hid : (check (requireId "cluster_id" k)).run.run Store.metered (s, m) = (.ok (), (s, m)) := by
    rw [requireId, if_neg (Int.not_le.2 (hs.positive hcluster))]
    rfl
  have hfound : (findCluster k).run.run Store.metered (s, m) = (.ok (some c), (s, m)) := by
    change (Except.ok ((s.find? ⟨.cluster, k⟩).bind Record.cluster?), (s, m)) = _
    rw [hcluster]
    rfl
  have hprobe : (check c.policy).run.run Store.metered (s, m) = (.ok policy, (s, m)) := by
    rw [Cluster.policy, hpolicy]
    rfl
  have hids : (ask (.enabledNodes k)).run.run Store.metered (s, m)
      = (.ok (s.enabledNodes k), (s, m)) := rfl
  intro results
  obtain ⟨m', hcount, hcounts⟩ := run_countResults s m results
  refine ⟨m', ?_, hcounts⟩
  rw [healthCheck, run_bind_ok hid, run_bind_ok hfound]
  dsimp only
  rw [run_bind_ok hprobe, run_bind_ok hids, run_bind_ok (run_storedNodes s m _), ← Store.checkedNodes,
    run_bind_ok hcount]
  rfl

/-- A health check comes to the same results in whichever order the probes end, and counts them. -/
theorem healthCheck_exact (hreach : s.Reachable) {c : Cluster} {policy : Option HealthPolicy}
    (hcluster : s.find? ⟨.cluster, k⟩ = some (.cluster c))
    (hpolicy : c.healthCheck.decode HealthPolicy.decoder = .ok policy) (settings : ProbeSettings)
    (network : Network) :
    ∃ nodes, s.Checks k nodes ∧
      let probe := Probe.ofPolicy settings policy
      let results := nodes.map (checkNode network probe)
      (∀ a ∈ nodes, NodeHealth.Tells network probe a (checkNode network probe a)) ∧
        ∀ (network' : Network) (m : Metrics),
          (∀ a ∈ nodes, ∀ url ∈ probedUrl? probe a,
            network'.reply a url probe.timeout = network.reply a url probe.timeout) →
          ∃ m', (healthCheck settings network' k).run.run Store.metered (s, m)
              = (.ok results, (s, m')) ∧ m.Counts m' results := by
  have hchecks := Store.checks_checkedNodes hreach.sound k
  refine ⟨s.checkedNodes k, hchecks, fun a _ => tells_checkNode, fun network' m hreply => ?_⟩
  have hresults : (s.checkedNodes k).map (checkNode network' (.ofPolicy settings policy))
      = (s.checkedNodes k).map (checkNode network (.ofPolicy settings policy)) :=
    List.map_congr_left fun a ha => checkNode_congr (hreply a ha)
  have hperm := hresults ▸ (network'.order_perm (s.checkedNodes k)).map
    (checkNode network' (.ofPolicy settings policy))
  have hascending : ((s.checkedNodes k).map (checkNode network (.ofPolicy settings policy))).Pairwise
      (·.nodeId < ·.nodeId) := by
    rw [List.pairwise_map]
    exact hchecks.ascending.imp fun {a b} hab => by
      rw [tells_checkNode.nodeId, tells_checkNode.nodeId]
      exact hab
  obtain ⟨m', hrun, hcounts⟩ := run_healthCheck hreach.sound hcluster hpolicy settings network' m
  rw [inIdOrder_of_perm hascending hperm] at hrun
  refine ⟨m', hrun, fun ok => ?_, hcounts.others⟩
  rw [hcounts.probes, hperm.countP_eq]

/-- A cluster with a node that passes, one that does not, one whose addresses cannot be read, one whose
address is blank and a disabled one, and a node of another cluster. -/
def Store.mixed : Store :=
  (Store.empty.loadSeed {
    clusters := [{ id := 1, healthCheck := ⟨"\x7b\"isOn\":true,\"port\":8080\x7d"⟩ }, { id := 2 }]
    nodes := [{ id := 14, clusterId := 1, name := "e", accessAddrs := ⟨"[\"10.0.0.4\"]"⟩ },
      { id := 10, clusterId := 1, name := "a", accessAddrs := ⟨"[\"10.0.0.1\"]"⟩ },
      { id := 11, clusterId := 1, name := "b", accessAddrs := ⟨"[1]"⟩ },
      { id := 12, clusterId := 1, name := "c", accessAddrs := ⟨"[\" \"]"⟩ },
      { id := 13, clusterId := 1, state := .disabled, accessAddrs := ⟨"[\"10.0.0.3\"]"⟩ },
      { id := 15, clusterId := 2, accessAddrs := ⟨"[\"10.0.0.5\"]"⟩ }] }).2

/-- A network in which one node passes, and the last probe ends first. -/
def Network.uneven : Network where
  accepts := true
  reply a _ _ := if a.id = 10 then .status 204 else .status 503
  order := List.reverse
  order_perm := List.reverse_perm

theorem healthCheck_exact_mixed :
    let policy : HealthPolicy := ⟨true, 8080, "", none⟩
    let c : Cluster := { id := 1, healthCheck := ⟨"\x7b\"isOn\":true,\"port\":8080\x7d"⟩ }
    let results : List NodeHealth := [⟨10, "a", "10.0.0.1", true, ""⟩,
      ⟨11, "b", "", false, "invalid access addresses"⟩,
      ⟨12, "c", "", false, "node has no access address"⟩,
      ⟨14, "e", "10.0.0.4", false, "unexpected status 503 Service Unavailable"⟩]
    Store.mixed.Reachable ∧ Store.mixed.find? ⟨.cluster, 1⟩ = some (.cluster c) ∧
      c.healthCheck.decode HealthPolicy.decoder = .ok (some policy) ∧
      (∃ nodes, Store.mixed.Checks 1 nodes ∧
        nodes.map (checkNode .uneven (.ofPolicy {} (some policy))) = results) ∧
      ∃ m', (healthCheck {} .uneven 1).run.run Store.metered (.mixed, {}) = (.ok results, (.mixed, m')) ∧
        m'.counter (.probes true) = 1 ∧ m'.counter (.probes false) = 3 := by
  intro policy c results
  have hreach : Store.mixed.Reachable := .seed _ .empty
  have hcluster : Store.mixed.find? ⟨.cluster, 1⟩ = some (.cluster c) := by decide +kernel
  have hpolicy : c.healthCheck.decode HealthPolicy.decoder = .ok (some policy) := by decide +kernel
  have hnodes : Store.mixed.checkedNodes 1
    = [{ id := 10, clusterId := 1, name := "a", accessAddrs := ⟨"[\"10.0.0.1\"]"⟩ },
      { id := 11, clusterId := 1, name := "b", accessAddrs := ⟨"[1]"⟩ },
      { id := 12, clusterId := 1, name := "c", accessAddrs := ⟨"[\" \"]"⟩ },
      { id := 14, clusterId := 1, name := "e", accessAddrs := ⟨"[\"10.0.0.4\"]"⟩ }] := by
    decide +kernel
  obtain ⟨nodes, hchecks, -, hall⟩ := healthCheck_exact hreach hcluster hpolicy {} .uneven
  obtain ⟨m', hrun, hcounts⟩ := hall .uneven {} fun _ _ _ _ => rfl
  have heq : nodes.map (checkNode .uneven (.ofPolicy {} (some policy))) = results := by
    rw [hchecks.eq (Store.checks_checkedNodes hreach.sound 1), hnodes]
    decide +kernel
  rw [heq] at hrun hcounts
  refine ⟨hreach, hcluster, hpolicy, ⟨nodes, hchecks, heq⟩, m', hrun, ?_, ?_⟩
  · rw [hcounts.probes]
    decide
  · rw [hcounts.probes]
    decide

end Fleet
