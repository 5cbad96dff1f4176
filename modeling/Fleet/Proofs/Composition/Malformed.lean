import Fleet.Proofs.Composition.Alike
import Fleet.Proofs.Mutation.Basic
import Mathlib.Logic.Relation

/-!
# Why compositions fail

A composition fails exactly if it comes to an enabled record with a reference that does not decode,
and it says which: from the record that is asked for, it follows the references that decode, from
enabled records only.
-/

namespace Fleet

open Json.Decoder

theorem Protocol.exists_iff {P : Protocol → Prop} : (∃ p, P p) ↔ P .http ∨ P .tcp ∨ P .udp :=
  ⟨fun ⟨p, hp⟩ => by cases p <;> simp [hp], fun h => by rcases h with h | h | h <;> exact ⟨_, h⟩⟩

/-! ## Malformed references -/

/-- The text is a reference that is not what the field asks for. -/
def RefText.Malformed {α : Type} (d : Json.Decoder α) (r : RefText) : Prop :=
  r.isEmpty = false ∧ ∃ e, Json.decode d r.text = .error e

/-- The field of the record is a malformed reference. -/
def Record.Malformed : Record → String → Prop
  | .cluster r, field =>
    field = "api_nodes" ∧ r.apiNodes.Malformed (list int64) ∨
      field = "health_check" ∧ r.healthCheck.Malformed HealthPolicy.decoder
  | .node r, field => field = "access_addrs" ∧ r.accessAddrs.Malformed (list string)
  | .server r, field =>
    (∃ p : Protocol, field = p.field ∧ (r.slot p).Malformed ReverseProxyRef.decoder) ∨
      field = "group_ids" ∧ r.groupIds.Malformed (list int64)
  | .serverGroup r, field =>
    ∃ p : Protocol, field = p.field ∧ (r.slot p).Malformed ReverseProxyRef.decoder
  | .reverseProxy r, field =>
    field = "scheduling" ∧ r.scheduling.Malformed Scheduling.decoder ∨
      field = "primary_origins" ∧ r.primaryOrigins.Malformed (list OriginRef.decoder) ∨
        field = "backup_origins" ∧ r.backupOrigins.Malformed (list OriginRef.decoder)
  | .origin _, _ => False

/-! ## The way down -/

namespace RefText

/-- The reference of a slot names the proxy, be it on or not. -/
def NamesProxy (r : RefText) (y : EntityRef) : Prop :=
  ∃ ref, r.decode ReverseProxyRef.decoder = .ok (some ref) ∧ y = ⟨.reverseProxy, ref.reverseProxyId⟩

def NamesGroup (r : RefText) (y : EntityRef) : Prop :=
  ∃ ids, r.decode (list int64) = .ok (some ids) ∧ ∃ id ∈ ids, y = ⟨.serverGroup, id⟩

/-- One of the references that are on names the origin. -/
def NamesOrigin (r : RefText) (y : EntityRef) : Prop :=
  ∃ refs, r.decode (list OriginRef.decoder) = .ok (some refs) ∧
    ∃ ref ∈ refs, ref.isOn = true ∧ y = ⟨.origin, ref.originId⟩

end RefText

namespace Store

variable (s : Store)

/-- The composition of the record leads to the entity. -/
def Follows : Record → EntityRef → Prop
  | .cluster _, _ => False
  | .node r, y =>
    y = ⟨.cluster, r.clusterId⟩ ∨
      s.isEnabled ⟨.cluster, r.clusterId⟩ = true ∧
        ∃ a, s.find? y = some (.server a) ∧ a.clusterId = r.clusterId
  | .server r, y => (∃ p, (r.slot p).NamesProxy y) ∨ r.groupIds.NamesGroup y
  | .serverGroup r, y => ∃ p, (r.slot p).NamesProxy y
  | .reverseProxy r, y => r.primaryOrigins.NamesOrigin y ∨ r.backupOrigins.NamesOrigin y
  | .origin _, _ => False

/-- The record of the first entity is enabled and leads to the second one. -/
def Leads (x y : EntityRef) : Prop := ∃ r, s.find? x = some r ∧ r.isEnabled = true ∧ s.Follows r y

/-- On the way down from the target stands an enabled record, `x`, whose field is malformed. -/
def Blames (target x : EntityRef) (field : String) : Prop :=
  Relation.ReflTransGen s.Leads target x ∧
    ∃ r, s.find? x = some r ∧ r.isEnabled = true ∧ r.Malformed field

/-- The field of the record is malformed, or the record leads to a malformed field. -/
def BlamesIn (r : Record) (x : EntityRef) (field : String) : Prop :=
  x = r.ref ∧ r.Malformed field ∨ ∃ y, s.Follows r y ∧ s.Blames y x field

variable {s}

theorem blames_iff (hs : s.Sound) {target x : EntityRef} {field : String} :
    s.Blames target x field ↔
      ∃ r, s.find? target = some r ∧ r.isEnabled = true ∧ s.BlamesIn r x field := by
  constructor
  · rintro ⟨hreach, r, hr, he, hmal⟩
    rcases hreach.cases_head with rfl | ⟨y, ⟨r', hr', he', hy⟩, hreach⟩
    · exact ⟨r, hr, he, .inl ⟨(hs.own hr).symm, hmal⟩⟩
    · exact ⟨r', hr', he', .inr ⟨y, hy, hreach, r, hr, he, hmal⟩⟩
  · rintro ⟨r, hr, he, ⟨rfl, hmal⟩ | ⟨y, hy, hreach, hmal⟩⟩
    · rw [hs.own hr]
      exact ⟨.refl, r, hr, he, hmal⟩
    · exact ⟨hreach.head ⟨r, hr, he, hy⟩, hmal⟩

end Store

namespace Plain

variable {α β ρ : Type} {s : Store} {F G : EntityRef → String → Prop}

/-! ## Reasons -/

/-- The outcome is a failure exactly if there is a reason, and it names one. -/
inductive FailsFor (F : EntityRef → String → Prop) : Except Failure α → Prop where
  | ok {a : α} : (∀ x field, ¬F x field) → FailsFor F (.ok a)
  | error {x : EntityRef} {field : String} : F x field → FailsFor F (.error (.undecodable x field))

theorem failsFor_pure (a : α) : FailsFor (fun _ _ => False) (.ok a) := .ok fun _ _ h => h

theorem FailsFor.congr {p : Except Failure α} (h : FailsFor F p)
    (hiff : ∀ x field, F x field ↔ G x field) : FailsFor G p := by
  have heq : F = G := funext fun x => funext fun field => propext (hiff x field)
  exact heq ▸ h

theorem FailsFor.of_error {p : Except Failure α} (h : FailsFor F p) {e : Failure}
    (he : p = .error e) : ∃ x field, e = .undecodable x field ∧ F x field := by
  cases h with
  | ok hF => cases he
  | error hF =>
      cases he
      exact ⟨_, _, rfl, hF⟩

theorem FailsFor.exists_error_iff {p : Except Failure α} (h : FailsFor F p) :
    (∃ e, p = .error e) ↔ ∃ x field, F x field := by
  cases h with
  | ok hF => simp [hF]
  | error hF => exact ⟨fun _ => ⟨_, _, hF⟩, fun _ => ⟨_, rfl⟩⟩

/-- What comes second may fail for reasons of its own; they count also where it is not reached. -/
theorem FailsFor.bind {p : Except Failure α} {q : α → Except Failure β} (hp : FailsFor F p)
    (hq : ∀ a, p = .ok a → FailsFor G (q a)) :
    FailsFor (fun x field => F x field ∨ G x field) (p >>= q) := by
  cases hp with
  | error hF => exact .error (.inl hF)
  | @ok a hF =>
      have hG := hq a rfl
      change FailsFor _ (q a)
      cases hqa : q a with
      | error e =>
          rw [hqa] at hG
          cases hG with
          | error hG => exact .error (.inr hG)
      | ok b =>
          rw [hqa] at hG
          cases hG with
          | ok hG => exact .ok fun x field h => h.elim (hF x field) (hG x field)

/-- What comes second cannot fail. -/
theorem FailsFor.map {p : Except Failure α} (f : α → β) (hp : FailsFor F p) :
    FailsFor F (f <$> p) := by
  cases hp with
  | error hF => exact .error hF
  | ok hF => exact .ok hF

theorem failsFor_reference (owner : EntityRef) (field : String) (d : Json.Decoder α) (r : RefText) :
    FailsFor (fun x f => x = owner ∧ f = field ∧ r.Malformed d) (reference owner field d r) := by
  unfold reference RefText.decode
  cases hempty : r.isEmpty with
  | true =>
      refine .ok ?_
      rintro x f ⟨-, -, hmal, -⟩
      rw [hempty] at hmal
      cases hmal
  | false =>
      cases hd : Json.decode d r.text with
      | error e => exact .error ⟨rfl, rfl, hempty, e, hd⟩
      | ok a =>
          refine .ok ?_
          rintro x f ⟨-, -, -, e, he⟩
          rw [hd] at he
          cases he

theorem failsFor_present {f : β → Except Failure (Option α)} {R : β → EntityRef → String → Prop}
    (h : ∀ b, FailsFor (R b) (f b)) (l : List β) :
    FailsFor (fun x field => ∃ b ∈ l, R b x field) (present f l) := by
  induction l with
  | nil => exact .ok (by simp)
  | cons b l ih =>
      refine FailsFor.congr ((h b).bind fun a _ => ih.map _) ?_
      simp

/-- An entity fails for what its record fails for, if it is enabled. -/
theorem failsFor_built (hs : s.Sound) {key : EntityRef} {wrap : ρ → Record}
    {pick : Record → Option ρ} {state : ρ → EntityState} {fill : ρ → Except Failure α}
    (hp : Picks key.kind wrap pick state)
    (hfill : ∀ r, FailsFor (s.BlamesIn (wrap r)) (fill r)) :
    FailsFor (s.Blames key) (built s key pick state fill) := by
  rcases built_cases hs hp fill with ⟨hoff, hb⟩ | ⟨r, hr, he, hb⟩
  · rw [hb]
    refine .ok fun x field h => ?_
    obtain ⟨r, hr, he, -⟩ := (Store.blames_iff hs).1 h
    rw [Store.isEnabled_iff.2 ⟨r, hr, he⟩] at hoff
    cases hoff
  · rw [hb]
    refine FailsFor.congr ((hfill r).map some) fun x field => ?_
    rw [Store.blames_iff hs, hr]
    simp [he]

/-! ## Builders -/

variable (hs : s.Sound)

include hs

theorem failsFor_origin (id : Int) : FailsFor (s.Blames ⟨.origin, id⟩) (origin s id) :=
  failsFor_built hs picks_origin fun r => .ok fun x field => by
    simp [Store.BlamesIn, Store.Follows, Record.Malformed]

theorem failsFor_origins {r : RefText} {o : Option (List OriginRef)}
    (ho : r.decode (list OriginRef.decoder) = .ok o) :
    FailsFor (fun x field => ∃ y, r.NamesOrigin y ∧ s.Blames y x field)
      (origins s (o.getD [])) := by
  refine FailsFor.congr (failsFor_present (fun ref : OriginRef => failsFor_origin hs ref.originId) _)
    fun x field => ?_
  cases o <;> simp [RefText.NamesOrigin, ho, and_assoc]

theorem failsFor_fillReverseProxy (r : ReverseProxy) :
    FailsFor (s.BlamesIn (.reverseProxy r)) (fillReverseProxy s r) := by
  -- the reasons of the parts, in the order of the reads, are put together to those of the record
  refine FailsFor.congr ((failsFor_reference _ _ _ _).bind fun _ _ =>
    (failsFor_reference _ _ _ _).bind fun _ hprimary =>
      (failsFor_reference _ _ _ _).bind fun _ hbackup =>
        (failsFor_origins hs (of_reference hprimary)).bind fun _ _ =>
          (failsFor_origins hs (of_reference hbackup)).bind fun _ _ =>
            failsFor_pure _) fun x field => ?_
  simp only [Store.BlamesIn, Store.Follows, Record.Malformed, Record.ref, Record.kind, Record.id,
    and_or_left, or_and_right, exists_or, or_assoc, or_false]

theorem failsFor_reverseProxy (id : Int) :
    FailsFor (s.Blames ⟨.reverseProxy, id⟩) (reverseProxy s id) :=
  failsFor_built hs picks_reverseProxy (failsFor_fillReverseProxy hs)

theorem failsFor_slot (owner : EntityRef) (p : Protocol) (r : RefText) :
    FailsFor (fun x field => x = owner ∧ field = p.field ∧ r.Malformed ReverseProxyRef.decoder ∨
      ∃ y, r.NamesProxy y ∧ s.Blames y x field) (slot s owner p r) := by
  refine (failsFor_reference _ _ _ _).bind fun ref href => ?_
  have href := of_reference href
  cases ref with
  | none => exact .ok (by simp [RefText.NamesProxy, href])
  | some ref =>
      refine FailsFor.congr ((failsFor_reverseProxy hs _).bind fun _ _ => failsFor_pure _)
        fun x field => ?_
      simp [RefText.NamesProxy, href]

theorem failsFor_slots (owner : EntityRef) (r : Protocol → RefText) :
    FailsFor (fun x field =>
      x = owner ∧ (∃ p : Protocol, field = p.field ∧ (r p).Malformed ReverseProxyRef.decoder) ∨
        ∃ y, (∃ p, (r p).NamesProxy y) ∧ s.Blames y x field) (slots s owner r) := by
  refine FailsFor.congr ((failsFor_slot hs owner .http (r .http)).bind fun _ _ =>
    (failsFor_slot hs owner .tcp (r .tcp)).bind fun _ _ =>
      (failsFor_slot hs owner .udp (r .udp)).bind fun _ _ => failsFor_pure _) fun x field => ?_
  simp only [Protocol.exists_iff, and_or_left, or_and_right, exists_or, or_false]
  grind

theorem failsFor_serverGroup (id : Int) :
    FailsFor (s.Blames ⟨.serverGroup, id⟩) (serverGroup s id) := by
  refine failsFor_built hs picks_serverGroup fun g => ?_
  refine FailsFor.congr ((failsFor_slots hs _ _).bind fun _ _ => failsFor_pure _) fun x field => ?_
  simp only [Store.BlamesIn, Store.Follows, Record.Malformed, Record.ref, Record.kind, Record.id,
    or_false]

theorem failsFor_groups {r : RefText} {o : Option (List Int)} (ho : r.decode (list int64) = .ok o) :
    FailsFor (fun x field => ∃ y, r.NamesGroup y ∧ s.Blames y x field)
      (present (serverGroup s) (o.getD [])) := by
  refine FailsFor.congr (failsFor_present (failsFor_serverGroup hs) _) fun x field => ?_
  cases o <;> simp [RefText.NamesGroup, ho]

theorem failsFor_server (id : Int) : FailsFor (s.Blames ⟨.server, id⟩) (server s id) := by
  refine failsFor_built hs picks_server fun r => ?_
  refine FailsFor.congr ((failsFor_slots hs _ _).bind fun _ _ =>
    (failsFor_reference _ _ _ _).bind fun _ hids =>
      (failsFor_groups hs (of_reference hids)).bind fun _ _ => failsFor_pure _) fun x field => ?_
  simp only [Store.BlamesIn, Store.Follows, Record.Malformed, Record.ref, Record.kind, Record.id,
    and_or_left, or_and_right, exists_or, or_false]
  exact or_or_or_comm

theorem failsFor_cluster (id : Int) : FailsFor (s.Blames ⟨.cluster, id⟩) (cluster s id) := by
  refine failsFor_built hs picks_cluster fun r => ?_
  refine FailsFor.congr ((failsFor_reference _ _ _ _).bind fun _ _ =>
    (failsFor_reference _ _ _ _).bind fun _ _ => failsFor_pure _) fun x field => ?_
  simp only [Store.BlamesIn, Store.Follows, Record.Malformed, Record.ref, Record.kind, Record.id,
    and_or_left, or_false, false_and, exists_false]

/-- The servers of a cluster that is there. -/
theorem failsFor_clusterServers {id : Int} {o : Option ClusterConfig} (ho : cluster s id = .ok o) :
    FailsFor (fun x field => ∃ y, (s.isEnabled ⟨.cluster, id⟩ = true ∧
      ∃ a, s.find? y = some (.server a) ∧ a.clusterId = id) ∧ s.Blames y x field)
      (clusterServers s o id) := by
  unfold clusterServers
  rw [isSome_of_built hs picks_cluster ho]
  cases he : s.isEnabled ⟨.cluster, id⟩ with
  | false => exact .ok (by simp)
  | true =>
      refine FailsFor.congr (failsFor_present (failsFor_server hs) _) fun x field => ?_
      constructor
      · rintro ⟨i, hi, hb⟩
        obtain ⟨a, ha, hk, -⟩ := (Store.mem_enabledServers hs).1 hi
        exact ⟨⟨.server, i⟩, ⟨rfl, a, ha, hk⟩, hb⟩
      · rintro ⟨y, ⟨-, a, ha, hk⟩, hb⟩
        -- a server that leads to a malformed field is enabled, so it is listed
        obtain ⟨r, hr, hon, -⟩ := (Store.blames_iff hs).1 hb
        obtain rfl : r = .server a := Option.some.inj (hr.symm.trans ha)
        obtain rfl : (⟨.server, a.id⟩ : EntityRef) = y := hs.own ha
        exact ⟨a.id, (Store.mem_enabledServers hs).2 ⟨a, ha, hk, hon⟩, hb⟩

theorem failsFor_node (id : Int) : FailsFor (s.Blames ⟨.node, id⟩) (node s id) := by
  refine failsFor_built hs picks_node fun r => ?_
  refine FailsFor.congr ((failsFor_reference _ _ _ _).bind fun _ _ =>
    (failsFor_cluster hs r.clusterId).bind fun _ hcluster =>
      (failsFor_clusterServers hs hcluster).bind fun _ _ => failsFor_pure _) fun x field => ?_
  simp only [Store.BlamesIn, Store.Follows, Record.Malformed, Record.ref, Record.kind, Record.id,
    or_and_right, exists_or, exists_eq_left, or_false]

theorem failsFor_entity (target : EntityRef) : FailsFor (s.Blames target) (entity s target) := by
  obtain ⟨kind, id⟩ := target
  cases kind with
  | cluster => exact (failsFor_cluster hs id).map _
  | node => exact (failsFor_node hs id).map _
  | server => exact (failsFor_server hs id).map _
  | serverGroup => exact (failsFor_serverGroup hs id).map _
  | reverseProxy => exact (failsFor_reverseProxy hs id).map _
  | origin => exact (failsFor_origin hs id).map _

end Plain

/-- Where records keep to the widths of their fields and scheduling options nest fewer than 100 levels,
a composition fails exactly if an enabled record on the way down has a malformed field, and it names
such a record and such a field. -/
theorem composeFresh_fails_iff {s : Store} (h : s.Reachable) (hwidths : s.InWidths)
    (hshallow : ∀ x r o, s.find? x = some (.reverseProxy r) →
      r.scheduling.decode Scheduling.decoder = .ok (some o) → Json.depthMembers o.options < 100)
    (target : EntityRef) :
    ((∃ e, (Action.on (composeFresh target) s).1 = .error e) ↔
        ∃ x field, s.Blames target x field) ∧
      ∀ e, (Action.on (composeFresh target) s).1 = .error e →
        ∃ x field, e = .undecodable x field ∧ s.Blames target x field := by
  have hsuits : s.Suits .blurred 99 := Store.suits_blurred hwidths fun x r o hr ho =>
    Nat.le_of_lt_succ (hshallow x r o hr ho)
  have hlax : 117 < 99 → False := by decide
  have hfails := Plain.failsFor_entity h.sound target
  have herror : ∀ e, (Action.on (composeFresh target) s).1 = .error e ↔
      Plain.entity s target = .error e := (composeFresh_alike hsuits hlax target).error_iff
  simp only [herror]
  exact ⟨hfails.exists_error_iff, fun e he => hfails.of_error he⟩

/-- A server with a disabled group and a proxy, by a reference that is off. -/
def Server.astray : Server where
  id := 5
  groupIds := ⟨"[3]"⟩
  httpReverseProxy := ⟨"\x7b\"reverseProxyId\":2,\"isOn\":false\x7d"⟩

def ServerGroup.astray : ServerGroup where
  id := 3
  state := .disabled
  httpReverseProxy := ⟨"3"⟩

def ReverseProxy.astray : ReverseProxy where
  id := 2
  backupOrigins := ⟨"[\x7b\"originId\":true\x7d]"⟩

/-- Both the group and the proxy are malformed. -/
def Store.astray : Store :=
  (((Store.empty.answer (.save (.server .astray))).2.answer
    (.save (.serverGroup .astray))).2.answer (.save (.reverseProxy .astray))).2

/-- The proxy is blamed. -/
theorem composeFresh_fails_iff_astray :
    Store.astray.Reachable ∧ Store.astray.InWidths ∧
      (∀ x r o, Store.astray.find? x = some (.reverseProxy r) →
        r.scheduling.decode Scheduling.decoder = .ok (some o) →
          Json.depthMembers o.options < 100) ∧
      ∃ x field, Failure.undecodable ⟨.reverseProxy, 2⟩ "backup_origins" = .undecodable x field ∧
        Store.astray.Blames ⟨.server, 5⟩ x field := by
  have hreach : Store.astray.Reachable := .call _ (.call _ (.call _ .empty))
  have hvalues : Store.astray.records.values
      = [.server .astray, .serverGroup .astray, .reverseProxy .astray] := by decide +kernel
  have hwidths : Store.astray.InWidths := by
    constructor
    rw [Store.forall_find?_iff, hvalues]
    simp [Record.Fits, Server.astray, ServerGroup.astray, ReverseProxy.astray, Text.fitsInt64,
      Text.minInt64, Text.maxInt64]
  have hshallow : ∀ x r o, Store.astray.find? x = some (.reverseProxy r) →
      r.scheduling.decode Scheduling.decoder = .ok (some o) →
        Json.depthMembers o.options < 100 := by
    intro x r o hr ho
    have hmem := OrdMap.mem_values_iff.2 ⟨x, hr⟩
    rw [hvalues] at hmem
    obtain rfl : r = .astray := by simpa using hmem
    cases ho
  have hfails : (Action.on (composeFresh ⟨.server, 5⟩) Store.astray).1
      = .error (.undecodable ⟨.reverseProxy, 2⟩ "backup_origins") := by decide +kernel
  exact ⟨hreach, hwidths, hshallow, (composeFresh_fails_iff hreach hwidths hshallow _).2 _ hfails⟩

end Fleet
