import Fleet.Plane
import Fleet.Proofs.Composition.Calls
import Fleet.Proofs.Mutation.Strained

/-!
# Requests of nodes

What a request to the listener for nodes can change, whoever sends it, whatever is in it and whatever
the store does meanwhile: a stored node acknowledges a version, or a message to the operators is recorded.
-/

namespace Fleet

namespace Http

/-! ## Requests that change something -/

/-- The request acknowledges a version for the node. -/
structure Request.Acknowledges (r : Request) (n : Int) : Prop where
  post : r.method = "POST"
  path : ∃ id text, r.segments.map String.ofList = ["api", "v1", "sync", "nodes", id, "ack"] ∧
    segmentText? id.toList = some text ∧ Text.readInt64? text.toList = some n

/-- The request reports a firewall event. -/
structure Request.ReportsEvent (r : Request) : Prop where
  post : r.method = "POST"
  path : r.segments.map String.ofList = ["api", "v1", "firewall", "events"]

/-- A request acknowledges a version for one node at most. -/
theorem Request.Acknowledges.eq {r : Request} {m n : Int} (hm : r.Acknowledges m)
    (hn : r.Acknowledges n) : m = n := by
  obtain ⟨-, id, text, hpath, htext, hm⟩ := hm
  obtain ⟨-, id', text', hpath', htext', hn⟩ := hn
  rw [hpath] at hpath'
  cases hpath'
  rw [htext] at htext'
  cases htext'
  rw [hm] at hn
  cases hn
  rfl

theorem Method.serves_post {name : String} : Method.post.serves name = true ↔ name = "POST" := by
  change _ ↔ name = Method.post.name
  simp [Method.serves]

theorem SyncRoute.of_nodeAck {segments : List (List Char)} {id : List Char}
    (h : ofSegments? segments = some (.nodeAck id)) :
    segments.map String.ofList = ["api", "v1", "sync", "nodes", String.ofList id, "ack"] := by
  unfold ofSegments? at h
  split at h
  all_goals grind [String.ofList_toList]

theorem SyncRoute.of_firewallEvents {segments : List (List Char)}
    (h : ofSegments? segments = some .firewallEvents) :
    segments.map String.ofList = ["api", "v1", "firewall", "events"] := by
  unfold ofSegments? at h
  split at h
  all_goals grind

end Http

/-! ## Requests that only read -/

def Call.Reads (c : Call) : Prop := c.isRead = true

theorem makes_findNode (id : Int) : (Action.findNode id).run.Makes Call.Reads :=
  Action.makes_bind (Action.makes_ask rfl) fun _ => trivial

theorem makes_findCluster (id : Int) : (Action.findCluster id).run.Makes Call.Reads :=
  Action.makes_bind (Action.makes_ask rfl) fun _ => trivial

theorem makes_findServer (id : Int) : (Action.findServer id).run.Makes Call.Reads :=
  Action.makes_bind (Action.makes_ask rfl) fun _ => trivial

theorem makes_clustersOf (nodes : List Int) (found : OrdSet Int) :
    (clustersOf nodes found).run.Makes Call.Reads := by
  induction nodes generalizing found with
  | nil => trivial
  | cons n nodes ih =>
      refine Action.makes_bind (makes_findNode n) fun node => ?_
      cases node with
      | none => exact ih found
      | some node =>
          dsimp only
          split
          · exact ih found
          · refine Action.makes_bind (makes_findCluster _) fun cluster => ?_
            cases cluster with
            | none => exact ih found
            | some cluster => exact ih _

theorem makes_listPending (scope : PendingScope) : (listPending scope).run.Makes Call.Reads := by
  refine Action.makes_bind (Action.makes_ask rfl) fun nodes => ?_
  refine Action.makes_bind trivial fun _ => ?_
  cases scope with
  | nodes => trivial
  | clusters => exact makes_clustersOf nodes .empty

theorem makes_fetch (target : EntityRef) : (fetch target).run.Makes Call.Reads :=
  Action.makes_bind trivial fun _ => (makes_composeFresh target).imp fun _ h => h.isRead

theorem makes_fetchNode (id : Int) : (fetchNode id).run.Makes Call.Reads := by
  refine Action.makes_bind trivial fun _ => Action.makes_bind (Action.makes_ask rfl) fun version => ?_
  exact Action.makes_bind ((makes_composeFresh ⟨.node, id⟩).imp fun _ h => h.isRead) fun _ => trivial

theorem FirewallReport.makes_message? (r : FirewallReport) : r.message?.run.Makes Call.Reads := by
  refine Action.makes_bind trivial fun _ => Action.makes_bind (makes_findNode r.nodeId) fun node => ?_
  cases node with
  | none => trivial
  | some node =>
      dsimp only
      split
      · trivial
      · refine Action.makes_bind (makes_findCluster _) fun _ => ?_
        exact Action.makes_bind (makes_findServer _) fun _ => trivial

theorem FirewallReport.makes_deliver (r : FirewallReport) (outbox : Outbox) :
    (r.deliver outbox).Makes Call.Reads := by
  refine r.makes_message?.bind fun result => ?_
  rcases result with _ | _ | _ <;> trivial

/-! ## Handlers -/

namespace Http

namespace Handler

variable {α : Type} {C : Call → Prop}

theorem makes_act {a : Action α} (h : a.run.Makes C) : (act a).run.Makes C := by
  refine Program.Makes.bind h fun r => ?_
  cases r <;> trivial

theorem makes_response {h : Handler Response} (hh : h.run.Makes C) : (response h).Makes C := by
  refine Program.Makes.bind hh fun r => ?_
  cases r <;> trivial

theorem makes_word (r : Except UnknownWord α) : (word r).run.Makes C := by cases r <;> trivial

theorem makes_segment (cs : List Char) : (segment cs).run.Makes C := by
  unfold segment
  cases segmentText? cs <;> trivial

theorem makes_idSegment (cs : List Char) : (idSegment cs).run.Makes C := by
  refine Action.makes_bind (makes_segment cs) fun text => ?_
  cases Text.readInt64? text.toList <;> trivial

theorem makes_body (d : Json.Decoder α) (r : Request) : (body d r).run.Makes C := by
  unfold body
  split
  · trivial
  · split <;> trivial

end Handler

open Handler

theorem makes_pendingHandler (query : List Char) : (pendingHandler query).run.Makes Call.Reads := by
  have hscope : (queryScope query).run.Makes Call.Reads := by
    unfold queryScope
    split
    · trivial
    · exact makes_word _
    · trivial
  exact Action.makes_bind hscope fun scope =>
    Action.makes_bind (makes_act (makes_listPending scope)) fun _ => trivial

theorem makes_configHandler (kind id : List Char) : (configHandler kind id).run.Makes Call.Reads := by
  refine Action.makes_bind (makes_segment kind) fun _ => Action.makes_bind (makes_idSegment id) fun _ => ?_
  refine Action.makes_bind (makes_word _) fun _ => Action.makes_bind (makes_act (makes_fetch _)) fun c => ?_
  cases c <;> trivial

theorem makes_nodeConfigHandler (id : List Char) : (nodeConfigHandler id).run.Makes Call.Reads := by
  refine Action.makes_bind (makes_idSegment id) fun _ => ?_
  refine Action.makes_bind (makes_act (makes_fetchNode _)) fun snapshot => ?_
  cases snapshot <;> trivial

theorem makes_firewallHandler (outbox : Outbox) (r : Request) :
    (firewallHandler outbox r).run.Makes Call.Reads :=
  Action.makes_bind (makes_body _ r) fun report =>
    (report.makes_deliver outbox).bind fun result => by
      obtain ⟨_ | _, _⟩ := result <;> trivial

/-- Only the acknowledgement of a version does more than read. -/
theorem SyncRoute.makes_serve {route : SyncRoute} (h : ∀ id, route ≠ .nodeAck id) (outbox : Outbox)
    (r : Request) : (route.serve outbox r).Makes Call.Reads := by
  have kept {x : Handler Response} (hx : x.run.Makes Call.Reads) :
      ((·, outbox) <$> response x).Makes Call.Reads := by
    rw [← bind_pure_comp]
    exact (makes_response hx).bind fun _ => trivial
  cases route with
  | health => trivial
  | pending => exact kept (makes_pendingHandler r.query)
  | config kind id => exact kept (makes_configHandler kind id)
  | nodeConfig id => exact kept (makes_nodeConfigHandler id)
  | nodeAck id => exact absurd rfl (h id)
  | firewallEvents =>
      refine (makes_firewallHandler outbox r).bind fun result => ?_
      cases result <;> trivial

/-! ## Acknowledgements -/

/-- The store after an acknowledgement for the node, which is stored. -/
def Acked (n : Int) (s t : Store) : Prop :=
  (∃ a, s.find? ⟨.node, n⟩ = some (.node a)) ∧ ∃ v, t = s.ack n v

end Http

namespace Program

/-- A program that only reads leaves the store as it was, whatever calls fail. -/
theorem Hampered.eq_of_reads {α : Type} {p : Program α} {s t : Store} {a : α} (h : p.Hampered s a t)
    (hp : p.Makes Call.Reads) : s = t := by
  induction h with
  | done => rfl
  | note _ ih => exact ih hp
  | failed _ ih => exact ih (hp.2 _)
  | answered _ ih =>
      have hnext := ih (hp.2 _)
      rwa [Store.answer_of_isRead hp.1] at hnext

theorem Hampered.of_map {α β : Type} {p : Program α} {f : α → β} {s t : Store} {b : β}
    (h : (f <$> p).Hampered s b t) : ∃ a, p.Hampered s a t ∧ f a = b := by
  rw [← bind_pure_comp] at h
  obtain ⟨a, u, hp, hf⟩ := h.of_bind
  cases hf
  exact ⟨a, hp, rfl⟩

end Program

namespace Http

open Handler Fleet.Action

variable {s t : Store}

theorem hampered_findNode {n : Int} {o : Option Node}
    (h : (findNode n).run.Hampered s (.ok o) t) : s = t ∧ (s.find? ⟨.node, n⟩).bind Record.node? = o := by
  obtain ⟨r, u, hr, h⟩ := hampered_bind_ok h
  obtain ⟨rfl, rfl⟩ := hampered_find hr
  cases h
  exact ⟨rfl, rfl⟩

theorem hampered_ackNode {n : Int} {v : Nat} {o : Except Failure NodeVersion}
    (h : (ackNode n v).run.Hampered s o t) : s = t ∨ Acked n s t := by
  rcases hampered_bind h with ⟨e, hcheck, -⟩ | ⟨x, u, hcheck, h⟩
  · exact .inl (hampered_check hcheck).2
  obtain ⟨-, rfl⟩ := hampered_check hcheck
  rcases hampered_bind h with ⟨e, hfind, -⟩ | ⟨node, u, hfind, h⟩
  · exact .inl (hfind.eq_of_reads (makes_findNode n))
  obtain ⟨rfl, hnode⟩ := hampered_findNode hfind
  cases node with
  | none =>
      cases h
      exact .inl rfl
  | some a =>
      obtain ⟨r, hr, hra⟩ := Option.bind_eq_some_iff.1 hnode
      obtain rfl := Record.node?_eq_some_iff.1 hra
      cases h with
      | answered h =>
          cases h
          exact .inr ⟨⟨a, hr⟩, v, rfl⟩
      | failed h =>
          cases h
          exact .inl rfl

theorem hampered_act {α : Type} {a : Action α} {o : Except Response α}
    (h : (act a).run.Hampered s o t) : ∃ x, a.run.Hampered s x t := by
  obtain ⟨x, u, ha, h⟩ := Program.Hampered.of_bind h
  refine ⟨x, ?_⟩
  cases x <;> cases h <;> exact ha

theorem hampered_idSegment {cs : List Char} {n : Int} (h : (idSegment cs).run.Hampered s (.ok n) t) :
    ∃ text, segmentText? cs = some text ∧ Text.readInt64? text.toList = some n := by
  rcases hampered_bind h with ⟨e, -, he⟩ | ⟨text, u, hsegment, h⟩
  · cases he
  refine ⟨text, ?_, ?_⟩
  · unfold Handler.segment at hsegment
    cases htext : segmentText? cs with
    | none =>
        rw [htext] at hsegment
        cases hsegment
    | some x =>
        rw [htext] at hsegment
        cases hsegment
        rfl
  · cases hn : Text.readInt64? text.toList with
    | none =>
        rw [hn] at h
        cases h
    | some x =>
        rw [hn] at h
        cases h
        rfl

/-- An acknowledgement for the node that its path names, or none. -/
theorem hampered_ackHandler {id : List Char} {r : Request} {o : Except Response Response}
    (h : (ackHandler id r).run.Hampered s o t) :
    s = t ∨ ∃ text n, segmentText? id = some text ∧ Text.readInt64? text.toList = some n ∧ Acked n s t := by
  rcases hampered_bind h with ⟨e, hid, -⟩ | ⟨n, u, hid, h⟩
  · exact .inl (hid.eq_of_reads (makes_idSegment id))
  obtain rfl := hid.eq_of_reads (makes_idSegment id)
  obtain ⟨text, htext, hn⟩ := hampered_idSegment hid
  rcases hampered_bind h with ⟨e, hbody, -⟩ | ⟨v, u, hbody, h⟩
  · exact .inl (hbody.eq_of_reads (makes_body _ r))
  obtain rfl := hbody.eq_of_reads (makes_body _ r)
  have hacked : ∃ o, (act (ackNode n v)).run.Hampered s o t := by
    rcases hampered_bind h with ⟨e, hact, -⟩ | ⟨x, u, hact, h⟩
    · exact ⟨_, hact⟩
    · cases h
      exact ⟨_, hact⟩
  obtain ⟨o, hact⟩ := hacked
  obtain ⟨x, hack⟩ := hampered_act hact
  exact (hampered_ackNode hack).imp_right fun hacked => ⟨text, n, htext, hn, hacked⟩

theorem hampered_response {h : Handler Response} {o : Response} (hr : (response h).Hampered s o t) :
    ∃ x, h.run.Hampered s x t := by
  obtain ⟨x, u, hh, hr⟩ := Program.Hampered.of_bind hr
  refine ⟨x, ?_⟩
  cases x <;> cases hr <;> exact hh

/-- The only thing that a request of nodes can do to the store. -/
theorem hampered_serveSync {outbox : Outbox} {r : Request} {o : Response × Outbox}
    (h : (serveSync outbox r).Hampered s o t) : s = t ∨ ∃ n, r.Acknowledges n ∧ Acked n s t := by
  unfold serveSync at h
  split at h
  · cases h
    exact .inl rfl
  · rename_i route hroute
    split at h
    · cases h
      exact .inl rfl
    · rename_i hmethod
      obtain ⟨result, u, hserve, h⟩ := h.of_bind
      cases h
      by_cases hack : ∃ id, route = .nodeAck id
      · obtain ⟨id, rfl⟩ := hack
        obtain ⟨response, hresponse, -⟩ := hserve.of_map
        obtain ⟨x, hhandler⟩ := hampered_response hresponse
        refine (hampered_ackHandler hhandler).imp_right ?_
        rintro ⟨text, n, htext, hn, hacked⟩
        refine ⟨n, ⟨?_, String.ofList id, text, SyncRoute.of_nodeAck hroute, ?_, hn⟩, hacked⟩
        · exact Method.serves_post.1 (by simpa [SyncRoute.method] using hmethod)
        · rwa [String.toList_ofList]
      · exact .inl (hserve.eq_of_reads (SyncRoute.makes_serve (fun id hid => hack ⟨id, hid⟩) outbox r))

/-! ## Messages -/

/-- The outbox is as it was, or a message was recorded in it. -/
def Recorded (outbox after : Outbox) : Prop :=
  after = outbox ∨ ∃ draft, after = (outbox.record draft).2

theorem returns_deliver (report : FirewallReport) (outbox : Outbox) :
    (report.deliver outbox).Returns fun x => Recorded outbox x.2 := by
  refine report.message?.run.returns_true.bind fun result _ => ?_
  rcases result with e | _ | draft
  · exact .inl rfl
  · exact .inl rfl
  · exact .inr ⟨draft, rfl⟩

theorem returns_firewallHandler (outbox : Outbox) (r : Request) :
    (firewallHandler outbox r).run.Returns fun result =>
      ∀ x, result = .ok x → Recorded outbox x.2 := by
  refine returns_bind (by simp) fun report => ?_
  refine (returns_deliver report outbox).bind fun result hresult => ?_
  obtain ⟨e | id, after⟩ := result
  · exact fun x hx => nomatch hx
  · rintro x ⟨⟩
    exact hresult

/-- The only thing that a request of nodes can do to the messages. -/
theorem returns_serveSync (outbox : Outbox) (r : Request) :
    (serveSync outbox r).Returns fun result =>
      result.2 = outbox ∨ r.ReportsEvent ∧ Recorded outbox result.2 := by
  unfold serveSync
  split
  · exact .inl rfl
  · rename_i route hroute
    split
    · exact .inl rfl
    · rename_i hmethod
      have kept {h : Handler Response} : ((·, outbox) <$> response h).Returns fun result =>
          result.2 = outbox ∨ r.ReportsEvent ∧ Recorded outbox result.2 := by
        rw [← bind_pure_comp]
        exact (response h).returns_true.bind fun _ _ => .inl rfl
      refine Program.Returns.bind ?_ fun _ h => h
      cases route with
      | health => exact .inl rfl
      | pending | config | nodeConfig | nodeAck => exact kept
      | firewallEvents =>
          have hreports : r.ReportsEvent :=
            ⟨Method.serves_post.1 (by simpa [SyncRoute.method] using hmethod),
              SyncRoute.of_firewallEvents hroute⟩
          refine (returns_firewallHandler outbox r).bind fun result hresult => ?_
          cases result with
          | ok x => exact .inr ⟨hreports, hresult x rfl⟩
          | error response => exact .inl rfl

end Http

/-! ## The control plane -/

namespace Plane

theorem host_isFaulty : Program.Host.IsFaulty host fun p => p.store.store where
  hear _ _ := rfl
  answer c p := FaultyStore.answer_faulty c p.store

/-- What a request of nodes leaves of the store. -/
structure KeepsConfig (r : Http.Request) (s t : Store) : Prop where
  records : t.records = s.records
  index : t.index = s.index
  nextId : t.nextId = s.nextId
  version : ∀ n, (t.version n).version = (s.version n).version
  applied_le : ∀ n, (s.version n).applied ≤ (t.version n).applied
  /-- Where an applied version changes, the request acknowledges one for that node, which is stored. -/
  acknowledged : ∀ n, (t.version n).applied ≠ (s.version n).applied →
    r.Acknowledges n ∧ (∃ a, s.find? ⟨.node, n⟩ = some (.node a)) ∧ ∀ m ≠ n, t.version m = s.version m

theorem KeepsConfig.refl (r : Http.Request) (s : Store) : KeepsConfig r s s where
  records := rfl
  index := rfl
  nextId := rfl
  version _ := rfl
  applied_le _ := Nat.le_refl _
  acknowledged _ h := absurd rfl h

theorem KeepsConfig.ack {r : Http.Request} {s t : Store} {n : Int} (hr : r.Acknowledges n)
    (h : Http.Acked n s t) : KeepsConfig r s t := by
  obtain ⟨hstored, v, rfl⟩ := h
  have hother {m : Int} (hm : m ≠ n) : (s.ack n v).version m = s.version m := by
    rw [Store.version_ack, if_neg hm]
  have hown : (s.ack n v).version n = (s.version n).ack v := by rw [Store.version_ack, if_pos rfl]
  refine ⟨rfl, rfl, rfl, fun m => ?_, fun m => ?_, fun m hm => ?_⟩
  · by_cases hmn : m = n
    · subst hmn
      rw [hown]
      rfl
    · rw [hother hmn]
  · by_cases hmn : m = n
    · subst hmn
      rw [hown]
      exact Nat.le_max_left ..
    · rw [hother hmn]
  · by_cases hmn : m = n
    · subst hmn
      exact ⟨hr, hstored, fun _ => hother⟩
    · rw [hother hmn] at hm
      exact absurd rfl hm

/-- Nodes cannot change configuration: whatever they send, and whatever calls of the store fail, the
store keeps it, and at most one message is recorded, which takes the report of a firewall event. -/
theorem exchange_sync_keepsConfig (p : Plane) (r : Http.Request) :
    let q := (p.exchange .sync r).2
    KeepsConfig r p.store.store q.store.store ∧
      (q.outbox.messages = p.outbox.messages ∨
        r.ReportsEvent ∧ ∃ m, q.outbox.messages = p.outbox.messages ++ [m]) := by
  have hstore := Http.hampered_serveSync (host_isFaulty.hampered (Http.serveSync p.outbox r) p)
  have hmessages := (Http.returns_serveSync p.outbox r).run host p
  unfold exchange respond
  generalize (Http.serveSync p.outbox r).run host p = result at hstore hmessages ⊢
  constructor
  · rcases hstore with h | ⟨n, hr, hacked⟩
    · exact h ▸ .refl r _
    · exact .ack hr hacked
  · rcases hmessages with h | ⟨hr, h | ⟨draft, h⟩⟩
    · exact .inl (congrArg Outbox.messages h)
    · exact .inl (congrArg Outbox.messages h)
    · exact .inr ⟨hr, _, congrArg Outbox.messages h⟩

end Plane

end Fleet
