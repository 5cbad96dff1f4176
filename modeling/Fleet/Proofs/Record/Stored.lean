import Fleet.Proofs.Config.Wire
import Fleet.Store.Seed

/-!
# Stored forms

What is stored is read as it was written: a record and a seed document with the texts of their
references letter by letter, whatever those texts are, and a reference as the value it was made of.
-/

namespace Fleet

open Json Json.Decoder Json.Fields Text

variable {n : Nat}

/-! ## Records -/

theorem EntityState.takes (s : EntityState) : EntityState.decoder.Takes n s.toJson s := by
  cases s <;> exact takes_oneOf (by decide)

/-- A reference is written as a string, and a string is the text itself. -/
theorem RefText.takes (r : RefText) : RefText.decoder.Takes n r.toJson r :=
  ⟨trivial, Nat.zero_le n, fun _ => .ok Context.allows_zero r⟩

theorem takes_refField (name : String) (r : RefText) :
    (refField name).Takes n [(name, r.toJson)] r := takes_defaulted name RefText.empty r.takes

@[simp] theorem named_refField_eq_none {name key : String} :
    (refField name).named key = none ↔ key ≠ name := named_defaulted_eq_none

theorem Cluster.takes {r : Cluster} (h : (Record.cluster r).Fits) :
    Cluster.decoder.Takes (n + 1) r.toJson r := by
  have h₁ := (takes_defaulted (n := n) "id" 0 (takes_fits h)).map Cluster.mk
  have h₂ := h₁.seq (takes_defaulted "state" .enabled r.state.takes) (by simp)
  have h₃ := h₂.seq (takes_defaulted "name" "" (takes_string r.name)) (by simp)
  have h₄ := h₃.seq (takes_defaulted "install_dir" "" (takes_string r.installDir)) (by simp)
  have h₅ := h₄.seq (takes_defaulted "use_all_api_nodes" false (takes_bool r.useAllApiNodes)) (by simp)
  have h₆ := h₅.seq (takes_refField "api_nodes" r.apiNodes) (by simp)
  have h₇ := h₆.seq (takes_refField "health_check" r.healthCheck) (by simp)
  exact h₇.decoder

theorem Node.takes {r : Node} (h : (Record.node r).Fits) :
    Node.decoder.Takes (n + 1) r.toJson r := by
  have h₁ := (takes_defaulted (n := n) "id" 0 (takes_fits h.1)).map Node.mk
  have h₂ := h₁.seq (takes_defaulted "cluster_id" 0 (takes_fits h.2)) (by simp)
  have h₃ := h₂.seq (takes_defaulted "state" .enabled r.state.takes) (by simp)
  have h₄ := h₃.seq (takes_defaulted "is_on" true (takes_bool r.isOn)) (by simp)
  have h₅ := h₄.seq (takes_defaulted "name" "" (takes_string r.name)) (by simp)
  have h₆ := h₅.seq (takes_refField "access_addrs" r.accessAddrs) (by simp)
  exact h₆.decoder

theorem Server.takes {r : Server} (h : (Record.server r).Fits) :
    Server.decoder.Takes (n + 1) r.toJson r := by
  have h₁ := (takes_defaulted (n := n) "id" 0 (takes_fits h.1)).map Server.mk
  have h₂ := h₁.seq (takes_defaulted "cluster_id" 0 (takes_fits h.2)) (by simp)
  have h₃ := h₂.seq (takes_defaulted "state" .enabled r.state.takes) (by simp)
  have h₄ := h₃.seq (takes_defaulted "is_on" true (takes_bool r.isOn)) (by simp)
  have h₅ := h₄.seq (takes_defaulted "name" "" (takes_string r.name)) (by simp)
  have h₆ := h₅.seq (takes_defaulted "server_type" .httpProxy r.serverType.takes) (by simp)
  have h₇ := h₆.seq (takes_refField "group_ids" r.groupIds) (by simp)
  have h₈ := h₇.seq (takes_refField "http_reverse_proxy" r.httpReverseProxy) (by simp)
  have h₉ := h₈.seq (takes_refField "tcp_reverse_proxy" r.tcpReverseProxy) (by simp)
  have h₁₀ := h₉.seq (takes_refField "udp_reverse_proxy" r.udpReverseProxy) (by simp)
  exact h₁₀.decoder

theorem ServerGroup.takes {r : ServerGroup} (h : (Record.serverGroup r).Fits) :
    ServerGroup.decoder.Takes (n + 1) r.toJson r := by
  have h₁ := (takes_defaulted (n := n) "id" 0 (takes_fits h.1)).map ServerGroup.mk
  have h₂ := h₁.seq (takes_defaulted "state" .enabled r.state.takes) (by simp)
  have h₃ := h₂.seq (takes_defaulted "is_on" true (takes_bool r.isOn)) (by simp)
  have h₄ := h₃.seq (takes_defaulted "name" "" (takes_string r.name)) (by simp)
  have h₅ := h₄.seq (takes_defaulted "order" 0 (takes_int32 h.2.1 h.2.2)) (by simp)
  have h₆ := h₅.seq (takes_refField "http_reverse_proxy" r.httpReverseProxy) (by simp)
  have h₇ := h₆.seq (takes_refField "tcp_reverse_proxy" r.tcpReverseProxy) (by simp)
  have h₈ := h₇.seq (takes_refField "udp_reverse_proxy" r.udpReverseProxy) (by simp)
  exact h₈.decoder

theorem ReverseProxy.takes {r : ReverseProxy} (h : (Record.reverseProxy r).Fits) :
    ReverseProxy.decoder.Takes (n + 1) r.toJson r := by
  have h₁ := (takes_defaulted (n := n) "id" 0 (takes_fits h)).map ReverseProxy.mk
  have h₂ := h₁.seq (takes_defaulted "state" .enabled r.state.takes) (by simp)
  have h₃ := h₂.seq (takes_defaulted "is_on" true (takes_bool r.isOn)) (by simp)
  have h₄ := h₃.seq (takes_refField "scheduling" r.scheduling) (by simp)
  have h₅ := h₄.seq (takes_refField "primary_origins" r.primaryOrigins) (by simp)
  have h₆ := h₅.seq (takes_refField "backup_origins" r.backupOrigins) (by simp)
  have h₇ := h₆.seq (takes_defaulted "request_host" "" (takes_string r.requestHost)) (by simp)
  have h₈ := h₇.seq (takes_defaulted "strip_prefix" "" (takes_string r.stripPrefix)) (by simp)
  exact h₈.decoder

theorem takes_timeoutField {o : Option TimeDuration} (name : String) (h : ∀ d ∈ o, d.Fits) :
    (Origin.timeoutField name).Takes (n + 1) [(name, .ofOption TimeDuration.toJson o)] o :=
  takes_defaulted name none (takes_option_self (fun _ => nofun) fun d hd => TimeDuration.takes (h d hd))

@[simp] theorem named_timeoutField_eq_none {name key : String} :
    (Origin.timeoutField name).named key = none ↔ key ≠ name := named_defaulted_eq_none

theorem Origin.takes {r : Origin} (h : (Record.origin r).Fits) :
    Origin.decoder.Takes (n + 2) r.toJson r := by
  obtain ⟨hid, hweight, hconn, hread, hidle, hconns, hidleConns⟩ := h
  have h₁ := (takes_defaulted (n := n + 1) "id" 0 (takes_fits hid)).map Origin.mk
  have h₂ := h₁.seq (takes_defaulted "state" .enabled r.state.takes) (by simp)
  have h₃ := h₂.seq (takes_defaulted "is_on" true (takes_bool r.isOn)) (by simp)
  have h₄ := h₃.seq (takes_defaulted "name" "" (takes_string r.name)) (by simp)
  have h₅ := h₄.seq (takes_defaulted "description" "" (takes_string r.description)) (by simp)
  have h₆ := h₅.seq (takes_defaulted "addr" ⟨"", "", ""⟩ (NetworkAddress.takes r.addr)) (by simp)
  have h₇ := h₆.seq (takes_defaulted "weight" 0 (takes_nat32 hweight)) (by simp)
  have h₈ := h₇.seq (takes_timeoutField "conn_timeout" hconn) (by simp)
  have h₉ := h₈.seq (takes_timeoutField "read_timeout" hread) (by simp)
  have h₁₀ := h₉.seq (takes_timeoutField "idle_timeout" hidle) (by simp)
  have h₁₁ := h₁₀.seq (takes_defaulted "max_conns" 0 (takes_nat32 hconns)) (by simp)
  have h₁₂ := h₁₁.seq (takes_defaulted "max_idle_conns" 0 (takes_nat32 hidleConns)) (by simp)
  have h₁₃ := h₁₂.seq (takes_defaulted "domains" [] (takes_strings r.domains)) (by simp)
  exact h₁₃.decoder

theorem Record.takes {r : Record} (h : r.Fits) : (Record.decoder r.kind).Takes (n + 2) r.toJson r := by
  cases r with
  | cluster r => exact (Cluster.takes h).map Record.cluster
  | node r => exact (Node.takes h).map Record.node
  | server r => exact (Server.takes h).map Record.server
  | serverGroup r => exact (ServerGroup.takes h).map Record.serverGroup
  | reverseProxy r => exact (ReverseProxy.takes h).map Record.reverseProxy
  | origin r => exact (Origin.takes h).map Record.origin

/-! ## Seeds -/

theorem takes_records {α : Type} {toJson : α → Json} {d : Decoder α} {toRecord : α → Record}
    {l : List α} (hd : ∀ r, (toRecord r).Fits → d.Takes (n + 2) (toJson r) r)
    (h : ∀ r ∈ l.map toRecord, r.Fits) : (list d).Takes (n + 3) (.ofList toJson l) l :=
  takes_list_self fun r hr => hd r (h _ (List.mem_map_of_mem hr))

theorem Seed.takes {s : Seed} (h : ∀ r ∈ s.records, r.Fits) :
    Seed.decoder.Takes (n + 4) s.toJson s := by
  simp only [records, List.mem_append, or_imp, forall_and] at h
  obtain ⟨⟨⟨⟨⟨hclusters, hnodes⟩, hservers⟩, hgroups⟩, hproxies⟩, horigins⟩ := h
  have h₁ := (takes_defaulted (n := n + 3) "clusters" []
    (takes_records (fun _ => Cluster.takes) hclusters)).map Seed.mk
  have h₂ := h₁.seq (takes_defaulted "nodes" [] (takes_records (fun _ => Node.takes) hnodes)) (by simp)
  have h₃ := h₂.seq
    (takes_defaulted "servers" [] (takes_records (fun _ => Server.takes) hservers)) (by simp)
  have h₄ := h₃.seq
    (takes_defaulted "groups" [] (takes_records (fun _ => ServerGroup.takes) hgroups)) (by simp)
  have h₅ := h₄.seq
    (takes_defaulted "reverse_proxies" [] (takes_records (fun _ => ReverseProxy.takes) hproxies))
    (by simp)
  have h₆ := h₅.seq
    (takes_defaulted "origins" [] (takes_records (fun _ => Origin.takes) horigins)) (by simp)
  exact h₆.decoder

/-! ## References -/

theorem Text.exists_trimEnd_cons {x : Char} (h : isBlank x = false) (cs : List Char) :
    ∃ ds, trimEnd (x :: cs) = x :: ds := by
  unfold trimEnd
  rw [List.reverse_cons, List.dropWhile_append]
  split
  · exact ⟨[], by simp [h]⟩
  · exact ⟨_, List.reverse_append⟩

/-- The text is a reference, and this is its value. -/
def RefText.Holds {α : Type} (r : RefText) (d : Decoder α) (a : α) : Prop :=
  r.isEmpty = false ∧ r.decode d = .ok (some a)

/-- A text that begins with neither a blank nor the first letter of `null` is a reference. -/
theorem RefText.isEmpty_encode {j : Json} {c : Char} {cs : List Char} (hj : j.chars = c :: cs)
    (hblank : isBlank c = false) (hc : c ≠ 'n') : (RefText.encode j).isEmpty = false := by
  have htext : (RefText.encode j).text.toList = c :: cs := String.toList_ofList.trans hj
  have hstart : trimStart (c :: cs) = c :: cs := List.dropWhile_cons_of_neg (by simp [hblank])
  obtain ⟨ds, hend⟩ := exists_trimEnd_cons hblank cs
  unfold RefText.isEmpty
  rw [htext, trim, hstart, hend]
  simp [hc]

theorem RefText.isEmpty_encode_object (ms : List (String × Json)) :
    (RefText.encode (.object ms)).isEmpty = false := by
  cases ms with
  | nil => exact isEmpty_encode rfl rfl (by decide)
  | cons m ms => exact isEmpty_encode rfl rfl (by decide)

theorem RefText.isEmpty_encode_array (items : List Json) :
    (RefText.encode (.array items)).isEmpty = false := by
  cases items with
  | nil => exact isEmpty_encode rfl rfl (by decide)
  | cons j items => exact isEmpty_encode rfl rfl (by decide)

theorem RefText.decode_encode {α : Type} {d : Decoder α} {j : Json} {a : α} (h : d.Takes n j a)
    (hempty : (RefText.encode j).isEmpty = false) :
    Yields (j.depth ≤ 127) ((RefText.encode j).decode d) (some a) := by
  rw [decode, hempty]
  exact h.decode_render.map some

theorem RefText.holds_encode {α : Type} {d : Decoder α} {j : Json} {a : α} (h : d.Takes n j a)
    (hempty : (RefText.encode j).isEmpty = false) (hn : n ≤ 127) : (RefText.encode j).Holds d a :=
  ⟨hempty, (decode_encode h hempty).eq_ok_iff.2 (h.depth.trans hn)⟩

/-- Free settings are read as they were written, if their numbers are, up to the depth that can be
read. -/
theorem Scheduling.decode_encode_iff {s : Scheduling} (h : s.Fits .exact n) :
    (RefText.encode s.toJson).decode Scheduling.decoder = .ok (some s) ↔ s.toJson.depth ≤ 127 := by
  have hreread : s.renumber Number.reread = s := by simpa [Number.View.exact] using see_reread h
  have hyields := RefText.decode_encode (Scheduling.takes h) (RefText.isEmpty_encode_object _)
  rw [hreread] at hyields
  exact hyields.eq_ok_iff

/-- Records and seed documents whose numbers keep to the widths of their fields are read from their texts
as they are, with the texts of their references letter by letter. What is stored for a value in a
reference is a reference, and is read as this value; if the value has free settings, whose numbers are
read as they were written, it is so exactly up to the depth that can be read. -/
theorem stored_reads_back :
    (∀ r : Record, r.Fits → Json.decode (Record.decoder r.kind) r.toJson.render = .ok r) ∧
    (∀ s : Seed, (∀ r ∈ s.records, r.Fits) → Json.decode Seed.decoder s.toJson.render = .ok s) ∧
    (∀ r : ReverseProxyRef, r.Fits →
      (RefText.encode r.toJson).Holds ReverseProxyRef.decoder r) ∧
    (∀ l : List OriginRef, (∀ r ∈ l, r.Fits) →
      (RefText.encode (.ofList OriginRef.toJson l)).Holds (list OriginRef.decoder) l) ∧
    (∀ l : List Int, (∀ i ∈ l, fitsInt64 i = true) →
      (RefText.encode (.ofList .int l)).Holds (list int64) l) ∧
    (∀ l : List String, (RefText.encode (.ofList .string l)).Holds (list string) l) ∧
    (∀ p : HealthPolicy, p.Fits → (RefText.encode p.toJson).Holds HealthPolicy.decoder p) ∧
    ∀ s : Scheduling, s.IsSorted → MembersStable s.options →
      (RefText.encode s.toJson).isEmpty = false ∧
        ((RefText.encode s.toJson).decode Scheduling.decoder = .ok (some s)
          ↔ s.toJson.depth ≤ 127) := by
  refine ⟨fun r h => ?_, fun s h => ?_, fun r h => ?_, fun l h => ?_, fun l h => ?_, fun l => ?_,
    fun p h => ?_, fun s hsorted hstable => ⟨RefText.isEmpty_encode_object _, ?_⟩⟩
  · have htakes := Record.takes (n := 0) h
    exact htakes.decode_render.eq_ok_iff.2 (htakes.depth.trans (by decide))
  · have htakes := Seed.takes (n := 0) h
    exact htakes.decode_render.eq_ok_iff.2 (htakes.depth.trans (by decide))
  · exact RefText.holds_encode (n := 1) (ReverseProxyRef.takes h) (RefText.isEmpty_encode_object _)
      (by decide)
  · exact RefText.holds_encode (n := 2) (takes_originRefs h) (RefText.isEmpty_encode_array _)
      (by decide)
  · exact RefText.holds_encode (n := 1) (takes_list_self fun i hi => takes_fits (h i hi))
      (RefText.isEmpty_encode_array _) (by decide)
  · exact RefText.holds_encode (n := 1) (takes_strings l) (RefText.isEmpty_encode_array _) (by decide)
  · exact RefText.holds_encode (n := 2) (HealthPolicy.takes h) (RefText.isEmpty_encode_object _)
      (by decide)
  · exact Scheduling.decode_encode_iff ⟨hsorted, le_rfl, (membersStable_iff s.options).1 hstable⟩

/-- Records with the least and the greatest numbers and with texts that are no reference, no JSON, JSON of
another shape, and a reference between blanks. -/
def Seed.odd : Seed where
  clusters := [{ id := -1, name := "null", healthCheck := ⟨"\x7bport:"⟩, apiNodes := ⟨"\u00a0[1]\n"⟩ }]
  nodes := [{ id := 9223372036854775807, clusterId := -9223372036854775808, isOn := false
              accessAddrs := ⟨"null"⟩ }]
  servers := [{ state := .disabled, serverType := .udpProxy, groupIds := ⟨" "⟩
                httpReverseProxy := ⟨"\"\\\x00é"⟩, tcpReverseProxy := ⟨"\x7b\"reverseProxyId\": 0\x7d"⟩ }]
  groups := [{ order := -2147483648, httpReverseProxy := ⟨"\"\""⟩ }]
  reverseProxies := [{ scheduling := ⟨"5e32"⟩, primaryOrigins := ⟨"[\x7b\"originId\":1\x7d,]"⟩ }]
  origins := [{ weight := 4294967295, connTimeout := some ⟨18446744073709551615, .hour⟩
                domains := ["", "null"] }]

theorem Seed.fits_odd : ∀ r ∈ odd.records, r.Fits := by
  simp [records, odd, Record.Fits, Origin.Fits, TimeDuration.Fits, fitsInt64, minInt64, maxInt64,
    maxNat64]

/-- Settings with a fraction, on several levels. -/
def Scheduling.mixed : Scheduling :=
  ⟨"hash", [("a", .array [.number (.float ⟨true, ⟨4503599627370496, -53⟩⟩), .null]),
    ("b", .object [("a", .int (-1))])]⟩

theorem Scheduling.stable_mixed : MembersStable mixed.options := by
  have hhalf : (Number.float ⟨true, ⟨4503599627370496, -53⟩⟩).IsStable := by decide +kernel
  have hminus : (Number.int (-1)).IsStable := by decide +kernel
  exact ⟨⟨hhalf, trivial, trivial⟩, ⟨hminus, trivial⟩, trivial⟩

theorem stored_reads_back_odd :
    (∀ r ∈ Seed.odd.records, r.Fits) ∧
      Json.decode Seed.decoder Seed.odd.toJson.render = .ok .odd ∧
      (∀ r ∈ Seed.odd.records, Json.decode (Record.decoder r.kind) r.toJson.render = .ok r) ∧
      Scheduling.mixed.IsSorted ∧ MembersStable Scheduling.mixed.options ∧
      (RefText.encode Scheduling.mixed.toJson).decode Scheduling.decoder = .ok (some .mixed) ∧
      (RefText.encode (.ofList OriginRef.toJson [⟨-1, false⟩])).Holds (list OriginRef.decoder)
        [⟨-1, false⟩] := by
  obtain ⟨hrecord, hseed, -, horigins, -, -, -, hscheduling⟩ := stored_reads_back
  have hsorted : Scheduling.mixed.IsSorted :=
    ⟨List.pairwise_pair.2 (by decide),
      ⟨trivial, trivial, trivial⟩, ⟨List.pairwise_singleton _ _, trivial, trivial⟩, trivial⟩
  refine ⟨Seed.fits_odd, hseed _ Seed.fits_odd, fun r hr => hrecord r (Seed.fits_odd r hr), hsorted,
    Scheduling.stable_mixed, ?_, horigins _ (by simp [OriginRef.Fits, fitsInt64, minInt64, maxInt64])⟩
  exact (hscheduling _ hsorted Scheduling.stable_mixed).2.2 (by decide)

end Fleet
