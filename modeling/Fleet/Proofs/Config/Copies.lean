import Fleet.Config.Cache
import Fleet.Proofs.Config.Renumber

/-!
# Copies of configs

A copy goes through the wire form. A config that fits comes back with the numbers of its scheduling
options read again; where its wire form nests too deep for the reader it does not come back at all.
-/

namespace Fleet

open Json Json.Decoder Json.Fields Text

/-! ## Parts -/

variable {v : Number.View} {n : Nat}

theorem takes_fits {i : Int} (h : fitsInt64 i = true) : int64.Takes n (.int i) i := by
  have hle : minInt64 ≤ i ∧ i ≤ maxInt64 := by simpa [fitsInt64] using h
  exact takes_int64 hle.1 hle.2

theorem TimeUnit.takes (u : TimeUnit) : TimeUnit.decoder.Takes n u.toJson u := by
  cases u <;> exact takes_oneOf (by decide)

theorem TimeDuration.takes {d : TimeDuration} (h : d.Fits) :
    TimeDuration.decoder.Takes (n + 1) d.toJson d :=
  (((takes_required "count" (takes_natTo le_rfl h)).map TimeDuration.mk).seq
    (takes_defaulted "unit" TimeUnit.second (TimeUnit.takes d.unit)) (by simp)).decoder

theorem NetworkAddress.takes (a : NetworkAddress) :
    NetworkAddress.decoder.Takes (n + 1) a.toJson a :=
  ((((takes_required "protocol" (takes_string a.protocol)).map NetworkAddress.mk).seq
    (takes_required "host" (takes_string a.host)) (by simp)).seq
    (takes_required "portRange" (takes_string a.portRange)) (by simp)).decoder

theorem OriginRef.takes {r : OriginRef} (h : r.Fits) : OriginRef.decoder.Takes (n + 1) r.toJson r :=
  (((takes_required "originId" (takes_fits h)).map OriginRef.mk).seq
    (takes_defaulted "isOn" true (takes_bool r.isOn)) (by simp)).decoder

theorem ReverseProxyRef.takes {r : ReverseProxyRef} (h : r.Fits) :
    ReverseProxyRef.decoder.Takes (n + 1) r.toJson r :=
  ((((takes_required "reverseProxyId" (takes_fits h)).map ReverseProxyRef.mk).seq
    (takes_defaulted "isOn" true (takes_bool r.isOn)) (by simp)).seq
    (takes_defaulted "isPrior" false (takes_bool r.isPrior)) (by simp)).decoder

theorem Scheduling.takes {s : Scheduling} (h : s.Fits v n) :
    Scheduling.decoder.Takes (n + 2) s.toJson (s.renumber Number.reread) :=
  (((takes_required "code" (takes_string s.code)).map Scheduling.mk).seq
    (takes_defaulted "options" []
      (takes_anyObject (MembersAll.imp v.readable _ h.fair) h.sorted h.shallow))
    (by simp)).decoder

theorem HealthPolicy.takes {p : HealthPolicy} (h : p.Fits) :
    HealthPolicy.decoder.Takes (n + 2) p.toJson p := by
  have htimeout : (option TimeDuration.decoder).Takes (n + 1)
      (.ofOption TimeDuration.toJson p.timeout) p.timeout :=
    takes_option_self (fun _ => nofun) fun d hd => TimeDuration.takes (h.2 d hd)
  exact (((((takes_defaulted "isOn" false (takes_bool p.isOn)).map HealthPolicy.mk).seq
    (takes_defaulted "port" 0 (takes_natTo (by decide) h.1)) (by simp)).seq
    (takes_defaulted "urlPath" "" (takes_string p.urlPath)) (by simp)).seq
    (takes_defaulted "timeout" none htimeout) (by simp)).decoder

theorem takes_timeout {o : Option TimeDuration} (name : String) (h : ∀ d ∈ o, d.Fits) :
    (optional name TimeDuration.decoder).Takes (n + 1)
      [(name, .ofOption TimeDuration.toJson o)] o :=
  takes_optional_self name (fun _ => nofun) fun d hd => TimeDuration.takes (h d hd)

theorem takes_strings (l : List String) : (list string).Takes (n + 1) (.ofList .string l) l :=
  takes_list_self fun s _ => takes_string s

/-! ## Configs -/

theorem takes_nat32 {k : Nat} (h : k ≤ 4294967295) : nat32.Takes n (.nat k) k :=
  takes_natTo (by decide) h

theorem OriginConfig.takes {c : OriginConfig} (h : c.Fits) :
    OriginConfig.decoder.Takes (n + 2) c.toJson c := by
  have h₁ := (takes_required (n := n + 1) "id" (takes_fits h.id)).map OriginConfig.mk
  have h₂ := h₁.seq (takes_required "isOn" (takes_bool c.isOn)) (by simp)
  have h₃ := h₂.seq (takes_required "name" (takes_string c.name)) (by simp)
  have h₄ := h₃.seq (takes_required "description" (takes_string c.description)) (by simp)
  have h₅ := h₄.seq (takes_required "addr" (NetworkAddress.takes c.addr)) (by simp)
  have h₆ := h₅.seq (takes_required "weight" (takes_nat32 h.weight)) (by simp)
  have h₇ := h₆.seq (takes_timeout "connTimeout" h.connTimeout) (by simp)
  have h₈ := h₇.seq (takes_timeout "readTimeout" h.readTimeout) (by simp)
  have h₉ := h₈.seq (takes_timeout "idleTimeout" h.idleTimeout) (by simp)
  have h₁₀ := h₉.seq (takes_required "maxConns" (takes_nat32 h.maxConns)) (by simp)
  have h₁₁ := h₁₀.seq (takes_required "maxIdleConns" (takes_nat32 h.maxIdleConns)) (by simp)
  have h₁₂ := h₁₁.seq (takes_required "domains" (takes_strings c.domains)) (by simp)
  exact h₁₂.decoder

theorem takes_originRefs {l : List OriginRef} (h : ∀ r ∈ l, r.Fits) :
    (list OriginRef.decoder).Takes (n + 2) (.ofList OriginRef.toJson l) l :=
  takes_list_self fun r hr => OriginRef.takes (h r hr)

theorem takes_origins {l : List OriginConfig} (h : ∀ o ∈ l, o.Fits) :
    (list OriginConfig.decoder).Takes (n + 3) (.ofList OriginConfig.toJson l) l :=
  takes_list_self fun o ho => OriginConfig.takes (h o ho)

theorem ReverseProxyConfig.takes {c : ReverseProxyConfig} (h : c.Fits v n) :
    ReverseProxyConfig.decoder.Takes (n + 4) c.toJson (c.renumber Number.reread) := by
  have hscheduling : (optional "scheduling" Scheduling.decoder).Takes (n + 3)
      [("scheduling", .ofOption Scheduling.toJson c.scheduling)]
      (c.scheduling.map (·.renumber Number.reread)) :=
    takes_optional _ (fun _ => nofun) fun s hs =>
      (Scheduling.takes (h.scheduling s hs)).mono (Nat.le_succ _)
  have h₁ := (takes_required (n := n + 3) "id" (takes_fits h.id)).map ReverseProxyConfig.mk
  have h₂ := h₁.seq (takes_required "isOn" (takes_bool c.isOn)) (by simp)
  have h₃ := h₂.seq hscheduling (by simp)
  have h₄ := h₃.seq (takes_required "primaryOriginRefs" (takes_originRefs h.primaryOriginRefs))
    (by simp)
  have h₅ := h₄.seq (takes_required "backupOriginRefs" (takes_originRefs h.backupOriginRefs))
    (by simp)
  have h₆ := h₅.seq (takes_required "primaryOrigins" (takes_origins h.primaryOrigins)) (by simp)
  have h₇ := h₆.seq (takes_required "backupOrigins" (takes_origins h.backupOrigins)) (by simp)
  have h₈ := h₇.seq (takes_required "requestHost" (takes_string c.requestHost)) (by simp)
  have h₉ := h₈.seq (takes_required "stripPrefix" (takes_string c.stripPrefix)) (by simp)
  exact h₉.decoder

theorem takes_slot {s : ProxySlot} (reference config : String) (hne : config ≠ reference)
    (h : s.Fits v n) :
    (ProxySlots.slotFields reference config).Takes (n + 4)
      (ProxySlots.slotMembers reference config s) (s.renumber Number.reread) := by
  have href : (optional reference ReverseProxyRef.decoder).Takes (n + 4)
      [(reference, .ofOption ReverseProxyRef.toJson s.reference)] s.reference :=
    takes_optional_self _ (fun _ => nofun) fun r hr => ReverseProxyRef.takes (h.reference r hr)
  have hconfig : (optional config ReverseProxyConfig.decoder).Takes (n + 4)
      [(config, .ofOption ReverseProxyConfig.toJson s.config)]
      (s.config.map (·.renumber Number.reread)) :=
    takes_optional _ (fun _ => nofun) fun c hc => ReverseProxyConfig.takes (h.config c hc)
  exact (href.map ProxySlot.mk).seq hconfig (by simpa using hne)

theorem ProxySlots.takes {s : ProxySlots} (h : s.Fits v n) :
    ProxySlots.fields.Takes (n + 4) s.members (s.renumber Number.reread) := by
  have hhttp := takes_slot "httpReverseProxyRef" "httpReverseProxy" (by decide) (h .http)
  have htcp := takes_slot "tcpReverseProxyRef" "tcpReverseProxy" (by decide) (h .tcp)
  have hudp := takes_slot "udpReverseProxyRef" "udpReverseProxy" (by decide) (h .udp)
  exact ((hhttp.map ProxySlots.mk).seq htcp (by simp [slotFields, slotMembers])).seq hudp
    (by simp [slotFields, slotMembers])

/-- The names of the slots are none of those of the records they stand in. -/
theorem named_slots {key : String} :
    ProxySlots.fields.named key = none ↔
      key ≠ "httpReverseProxyRef" ∧ key ≠ "httpReverseProxy" ∧ key ≠ "tcpReverseProxyRef" ∧
        key ≠ "tcpReverseProxy" ∧ key ≠ "udpReverseProxyRef" ∧ key ≠ "udpReverseProxy" := by
  simp [ProxySlots.fields, ProxySlots.slotFields, and_assoc]

theorem ServerGroupConfig.takes {c : ServerGroupConfig} (h : c.Fits v n) :
    ServerGroupConfig.decoder.Takes (n + 5) c.toJson (c.renumber Number.reread) := by
  have h₁ := (takes_required (n := n + 4) "id" (takes_fits h.id)).map ServerGroupConfig.mk
  have h₂ := h₁.seq (takes_required "name" (takes_string c.name)) (by simp)
  have h₃ := h₂.seq (takes_required "isOn" (takes_bool c.isOn)) (by simp)
  have h₄ := h₃.seq (takes_required "order" (takes_int32 h.order.1 h.order.2)) (by simp)
  refine Takes.spread (l := [("id", .int c.id), ("name", .string c.name), ("isOn", .bool c.isOn),
    ("order", .int c.order)]) (m := []) h₄ (ProxySlots.takes h.proxies) ?_ ?_
  · simp [named_slots]
  · simp [ProxySlots.members, ProxySlots.slotMembers]

theorem ServerType.takes (t : ServerType) : ServerType.decoder.Takes n t.toJson t := by
  cases t <;> exact takes_oneOf (by decide)

theorem ServerConfig.takes {c : ServerConfig} (h : c.Fits v n) :
    ServerConfig.decoder.Takes (n + 7) c.toJson (c.renumber Number.reread) := by
  have hgroups : (list ServerGroupConfig.decoder).Takes (n + 6)
      (.ofList ServerGroupConfig.toJson c.groups) (c.groups.map (·.renumber Number.reread)) :=
    takes_list fun g hg => ServerGroupConfig.takes (h.groups g hg)
  have h₁ := (takes_required (n := n + 6) "id" (takes_fits h.id)).map
    fun id clusterId name isOn serverType groups proxies =>
      (⟨id, clusterId, name, isOn, serverType, proxies, groups⟩ : ServerConfig)
  have h₂ := h₁.seq (takes_required "clusterId" (takes_fits h.clusterId)) (by simp)
  have h₃ := h₂.seq (takes_required "name" (takes_string c.name)) (by simp)
  have h₄ := h₃.seq (takes_required "isOn" (takes_bool c.isOn)) (by simp)
  have h₅ := h₄.seq (takes_required "serverType" (ServerType.takes c.serverType)) (by simp)
  have h₆ := h₅.seq (takes_required "groups" hgroups) (by simp)
  refine Takes.spread (m := [("groups", .ofList ServerGroupConfig.toJson c.groups)]) h₆
    ((ProxySlots.takes h.proxies).mono (by omega)) ?_ ?_
  · simp [named_slots]
  · simp [ProxySlots.members, ProxySlots.slotMembers]

theorem ClusterConfig.takes {c : ClusterConfig} (h : c.Fits) :
    ClusterConfig.decoder.Takes (n + 3) c.toJson c := by
  have hnodes : (list int64).Takes (n + 2) (.ofList .int c.apiNodeIds) c.apiNodeIds :=
    takes_list_self fun i hi => takes_fits (h.apiNodeIds i hi)
  have hhealth : (optional "healthCheck" HealthPolicy.decoder).Takes (n + 2)
      [("healthCheck", .ofOption HealthPolicy.toJson c.healthCheck)] c.healthCheck :=
    takes_optional_self _ (fun _ => nofun) fun p hp => HealthPolicy.takes (h.healthCheck p hp)
  have h₁ := (takes_required (n := n + 2) "id" (takes_fits h.id)).map ClusterConfig.mk
  have h₂ := h₁.seq (takes_required "name" (takes_string c.name)) (by simp)
  have h₃ := h₂.seq (takes_required "installDir" (takes_string c.installDir)) (by simp)
  have h₄ := h₃.seq (takes_required "useAllApiNodes" (takes_bool c.useAllApiNodes)) (by simp)
  have h₅ := h₄.seq (takes_required "apiNodeIds" hnodes) (by simp)
  exact (h₅.seq hhealth (by simp)).decoder

theorem NodeConfig.takes {c : NodeConfig} (h : c.Fits v n) :
    NodeConfig.decoder.Takes (n + 9) c.toJson (c.renumber Number.reread) := by
  have hcluster : (optional "cluster" ClusterConfig.decoder).Takes (n + 8)
      [("cluster", .ofOption ClusterConfig.toJson c.cluster)] c.cluster :=
    takes_optional_self _ (fun _ => nofun) fun k hk => ClusterConfig.takes (h.cluster k hk)
  have hservers : (list ServerConfig.decoder).Takes (n + 8)
      (.ofList ServerConfig.toJson c.servers) (c.servers.map (·.renumber Number.reread)) :=
    takes_list fun s hs => ServerConfig.takes (h.servers s hs)
  have h₁ := (takes_required (n := n + 8) "id" (takes_fits h.id)).map NodeConfig.mk
  have h₂ := h₁.seq (takes_required "name" (takes_string c.name)) (by simp)
  have h₃ := h₂.seq (takes_required "isOn" (takes_bool c.isOn)) (by simp)
  have h₄ := h₃.seq (takes_required "clusterId" (takes_fits h.clusterId)) (by simp)
  have h₅ := h₄.seq (takes_required "accessAddrs" (takes_strings c.accessAddrs)) (by simp)
  have h₆ := h₅.seq hcluster (by simp)
  exact (h₆.seq (takes_required "servers" hservers) (by simp)).decoder

/-! ## Configs with their kind -/

namespace Config

theorem takes_kind (k : Kind) : Kind.decoder.Takes n k.toJson k := by
  cases k <;> exact takes_oneOf (by decide)

theorem takes_body {c : Config} (h : c.Fits v n) :
    (bodyDecoder c.kind).Takes (n + 9) c.bodyJson (c.renumber Number.reread) := by
  cases c with
  | cluster c => exact ((ClusterConfig.takes (n := n) h).mono (by omega)).map Config.cluster
  | node c => exact (NodeConfig.takes h).map Config.node
  | server c => exact ((ServerConfig.takes h).mono (by omega)).map Config.server
  | serverGroup c => exact ((ServerGroupConfig.takes h).mono (by omega)).map Config.serverGroup
  | reverseProxy c => exact ((ReverseProxyConfig.takes h).mono (by omega)).map Config.reverseProxy
  | origin c => exact ((OriginConfig.takes (n := n) h).mono (by omega)).map Config.origin

theorem takes {c : Config} (h : c.Fits v n) :
    Config.decoder.Takes (n + 10) c.toJson (c.renumber Number.reread) := by
  have hkind := takes_kind (n := n + 9) c.kind
  have hbody := takes_body h
  refine ⟨⟨hkind.readable, hbody.readable, trivial⟩, ?_, fun _ => yields_enter fun d => ?_⟩
  · exact Nat.succ_le_succ (Nat.max_le.2 ⟨hkind.depth, Nat.max_le.2 ⟨hbody.depth, Nat.zero_le _⟩⟩)
  · have hrest : Yields (d.Allows c.bodyJson.depth)
        (object d (.member (some "config") c.bodyJson.reread.toReading .done) (.kind c.kind))
        (c.renumber Number.reread) := by
      simp only [object, String.reduceEq, if_false, if_true]
      exact (hbody.decodes d).bind_ok rfl
    simp only [mapMembers, toMembers, object, if_true, depthMembers, Context.allows_max,
      Nat.max_zero]
    exact (hkind.decodes d).bind hrest

/-- The copy of a config is the config with its numbers read again. Exactly where its wire form nests
too deep the config has no copy. -/
theorem copy_yields {c : Config} (h : c.Fits v n) :
    Yields (c.toJson.depth ≤ 127) c.copy (c.renumber Number.reread) := by
  have htakes := takes h
  rw [copy, decode_render htakes.readable]
  exact htakes.decodes .start

/-- A copy looks as the config does, and a config that nests few levels has one. -/
theorem copy_cases {c : Config} (h : c.Fits v n) :
    (∃ d, c.copy = .ok d ∧ d.renumber v.see = c.renumber v.see) ∨
      117 < n ∧ ∃ e, c.copy = .error e := by
  have hdepth := (takes h).depth
  rcases (copy_yields h).cases_eq with ⟨-, hcopy⟩ | ⟨hdeep, he⟩
  · exact .inl ⟨_, hcopy, see_reread h⟩
  · exact .inr ⟨by omega, he⟩

/-! Whether it fits or not, a copy keeps the kind of the config, which its text names first. -/

theorem kind_of_body {k : Kind} {c : Context} {r : Reading} {d : Config}
    (h : bodyDecoder k c r = .ok d) : d.kind = k := by
  cases k <;>
  · obtain ⟨_, -, rfl⟩ := of_map_eq_ok h
    rfl

/-- All that was met so far is of the kind. -/
def Draft.IsOf (k : Kind) : Draft → Prop
  | .kind l => l = k
  | .config c => c.kind = k
  | .blank | .body _ => False

/-- Once the kind is met, what is read is of this kind, whatever comes after it. -/
theorem kind_of_object {c : Context} {k : Kind} {d : Config} :
    (members : Members) → {draft : Draft} → draft.IsOf k → object c members draft = .ok d →
      d.kind = k
  | .fault, _, _, h => by
    simp [object] at h
  | .done, .config config, hk, h => by
    cases h
    exact hk
  | .done, .kind _, _, h => by
    simp [object] at h
  | .member none _ _, _, _, h => by
    simp [object] at h
  | .member (some key) value rest, draft, hk, h => by
    simp only [object] at h
    split at h
    · cases draft with
      | kind _ | config _ => cases h
      | blank | body _ => exact hk.elim
    split at h
    · cases draft with
      | kind l =>
          obtain ⟨config, hconfig, h⟩ := of_bind_eq_ok h
          have hof : Draft.IsOf k (.config config) := (kind_of_body hconfig).trans hk
          exact kind_of_object rest hof h
      | config _ => cases h
      | blank | body _ => exact hk.elim
    · obtain ⟨-, -, h⟩ := of_bind_eq_ok h
      exact kind_of_object rest hk h

/-- The text of a config is read as an object that names its kind first. -/
theorem exists_ofText (c : Config) : ∃ members rest,
    Reading.ofText c.toJson.chars
      = (.object (.member (some "kind") (.string (some c.kind.name)) members), rest) := by
  have htext : c.toJson.chars = '\x7b' :: '"' :: (['k', 'i', 'n', 'd', '"', ':']
      ++ (quoted c.kind.name ++ ',' :: (quoted "config" ++ ':' :: (c.bodyJson.chars ++ ['\x7d'])))) := by
    simp [toJson, chars, membersChars, Kind.toJson, quoted, escape]
  have hkind : ∀ fuel left, readMembers (fuel + 2) ('"' :: (['k', 'i', 'n', 'd', '"', ':']
      ++ (quoted c.kind.name ++ ',' :: left)))
      = (.member (some "kind") (.string (some c.kind.name)) (readMembers (fuel + 1) left).1,
        (readMembers (fuel + 1) left).2) := fun fuel left =>
    readMembers_comma "kind" (readValue_string c.kind.name fuel _) rfl
  unfold Reading.ofText
  rw [htext, List.length_cons, List.length_cons, readValue_object, List.length_append, List.length_cons,
    hkind]
  exact ⟨_, _, rfl⟩

theorem kind_of_copy {c d : Config} (h : c.copy = .ok d) : d.kind = c.kind := by
  obtain ⟨members, rest, htext⟩ := c.exists_ofText
  have hkind : Kind.decoder (.live 126) (.string (some c.kind.name)) = .ok c.kind := by
    cases c <;> rfl
  unfold copy Json.decode at h
  rw [Json.render, String.toList_ofList, htext] at h
  obtain ⟨e, he, h⟩ := of_bind_eq_ok h
  have hd : object (.live 126) members (.kind c.kind) = .ok e := by
    simpa [decoder, Context.start, Context.enter, object, hkind, Draft.withKind, bind, Except.bind] using he
  have hof : Draft.IsOf c.kind (.kind c.kind) := rfl
  split at h <;> cases h
  exact kind_of_object members hof hd

end Config

end Fleet
