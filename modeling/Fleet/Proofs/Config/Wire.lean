import Fleet.Proofs.Config.Copies

/-!
# Configs over the wire

What a node reads is what was composed for it: the text of a config, or of a snapshot, is read as the
same config, exactly where it does not nest too deep for the reader. Only numbers in scheduling options
could come back as others, where their own text is read as another number.
-/

namespace Fleet

open Json Json.Decoder Json.Fields Text

variable {v : Number.View} {n : Nat}

/-- A value that a decoder takes is read from its text, exactly where all its levels may open. -/
theorem Json.Decoder.Takes.decode_render {α : Type} {d : Json.Decoder α} {j : Json} {a : α}
    (h : d.Takes n j a) : Yields (j.depth ≤ 127) (Json.decode d j.render) a := by
  rw [Json.decode_render h.readable]
  exact h.decodes .start

/-! ## Snapshots -/

namespace NodeSnapshot

structure Fits (v : Number.View) (n : Nat) (s : NodeSnapshot) : Prop where
  version : s.version ≤ maxNat64
  config : s.config.Fits v n

def renumber (f : Number → Number) (s : NodeSnapshot) : NodeSnapshot :=
  { s with config := s.config.renumber f }

theorem takes {s : NodeSnapshot} (h : s.Fits v n) :
    NodeSnapshot.decoder.Takes (n + 10) s.toJson (s.renumber Number.reread) :=
  (((takes_required "version" (takes_natTo le_rfl h.version)).map NodeSnapshot.mk).seq
    (takes_required "config" (NodeConfig.takes h.config)) (by simp)).decoder

theorem see_reread {s : NodeSnapshot} (h : s.Fits v n) :
    (s.renumber Number.reread).renumber v.see = s.renumber v.see := by
  simp only [renumber, NodeConfig.see_reread h.config]

end NodeSnapshot

/-! ## What is read of a text -/

theorem Json.Yields.eq_ok_iff {ε α : Type} {p : Prop} {x : Except ε α} {a : α} (h : Yields p x a) :
    x = .ok a ↔ p := by
  rcases h.cases_eq with ⟨hp, hx⟩ | ⟨hp, e, hx⟩
  · exact ⟨fun _ => hp, fun _ => hx⟩
  · exact ⟨fun hok => (nomatch hx.symm.trans hok), fun h => absurd h hp⟩

/-- Numbers that are read as they were written stay as they are. -/
theorem Config.reread_exact {c : Config} (h : c.Fits .exact n) : c.renumber Number.reread = c := by
  simpa [Number.View.exact] using see_reread h

theorem NodeSnapshot.reread_exact {s : NodeSnapshot} (h : s.Fits .exact n) :
    s.renumber Number.reread = s := by
  have hconfig : s.config.renumber Number.reread = s.config := by
    simpa [Number.View.exact] using NodeConfig.see_reread h.config
  rw [renumber, hconfig]

/-- Every config and every snapshot, its options of any depth and its numbers read as they were
written, is read from its text as it is, unless it nests too deep to be read at all. -/
theorem wire_reads_back :
    (∀ (c : Config) (n : Nat), c.Fits .exact n →
      (Json.decode Config.decoder c.toJson.render = .ok c ↔ c.toJson.depth ≤ 127)) ∧
    ∀ (s : NodeSnapshot) (n : Nat), s.Fits .exact n →
      (Json.decode NodeSnapshot.decoder s.toJson.render = .ok s ↔ s.toJson.depth ≤ 127) := by
  constructor
  · intro c n h
    have hreads := (Config.takes h).decode_render
    rw [Config.reread_exact h] at hreads
    exact hreads.eq_ok_iff
  · intro s n h
    have hreads := (NodeSnapshot.takes h).decode_render
    rw [NodeSnapshot.reread_exact h] at hreads
    exact hreads.eq_ok_iff

/-! A snapshot with the least and the greatest numbers, slots of every kind and odd texts: -/

namespace NodeSnapshot

def oddOrigin : OriginConfig where
  id := -9223372036854775808
  isOn := false
  name := "\"\\\n\x00é"
  description := ""
  addr := ⟨"https", "kind", "config"⟩
  weight := 4294967295
  connTimeout := some ⟨18446744073709551615, .ms⟩
  readTimeout := none
  idleTimeout := some ⟨0, .hour⟩
  maxConns := 0
  maxIdleConns := 0
  domains := ["", "null"]

def oddProxy : ReverseProxyConfig where
  id := -2
  isOn := true
  scheduling := some
    ⟨"id",
      [("config", .array [.object [("a", .null), ("b", .array [])], .number (.int (-1))]),
        ("kind", .object [("kind", .string "node")])]⟩
  primaryOriginRefs := [⟨0, false⟩, ⟨-1, true⟩]
  backupOriginRefs := []
  primaryOrigins := []
  backupOrigins := [oddOrigin]
  requestHost := "\x7b\x7d"
  stripPrefix := "/"

/-- A slot with both parts, one with the reference alone, and one with the config alone. -/
def oddSlots : ProxySlots where
  http := ⟨some ⟨2, true, false⟩, some oddProxy⟩
  tcp := ⟨some ⟨-2, false, true⟩, none⟩
  udp := ⟨none, some oddProxy⟩

def odd : NodeSnapshot where
  version := 18446744073709551615
  config :=
    { id := -1, name := "servers", isOn := false, clusterId := 0, accessAddrs := [""],
      cluster := some
        ⟨3, "", "", true, [-4], some ⟨true, 65535, "", some ⟨18446744073709551615, .second⟩⟩⟩,
      servers := [
        ⟨5, -6, "groups", true, .tcpProxy, oddSlots,
          [⟨-7, "udpReverseProxy", false, -2147483648, oddSlots⟩]⟩,
        ⟨5, -6, "", true, .tcpProxy, {}, []⟩] }

theorem fits_oddOrigin : oddOrigin.Fits := by
  constructor <;> simp [oddOrigin, TimeDuration.Fits, fitsInt64, minInt64, maxInt64, maxNat64]

theorem fits_oddProxy : oddProxy.Fits .exact 3 := by
  have hminus : (Number.int (-1)).IsStable := by decide +kernel
  have hscheduling (s : Scheduling) (hs : s ∈ oddProxy.scheduling) : s.Fits .exact 3 := by
    cases hs
    refine ⟨⟨List.pairwise_pair.mpr (by decide), ?_⟩, by decide, ?_⟩
    · exact ⟨⟨⟨List.pairwise_pair.mpr (by decide), trivial, trivial, trivial⟩, trivial, trivial⟩,
        ⟨List.pairwise_singleton _ _, trivial, trivial⟩, trivial⟩
    · exact ⟨⟨⟨trivial, trivial, trivial⟩, hminus, trivial⟩, ⟨trivial, trivial⟩, trivial⟩
  refine ⟨by decide, hscheduling, ?_, ?_, ?_, ?_⟩
  · simp [oddProxy, OriginRef.Fits, fitsInt64, minInt64, maxInt64]
  · simp [oddProxy]
  · simp [oddProxy]
  · simp [oddProxy, fits_oddOrigin]

theorem fits_oddSlots : oddSlots.Fits .exact 3 := by
  intro p
  cases p <;> constructor <;>
    simp [oddSlots, ProxySlots.get, ReverseProxyRef.Fits, fits_oddProxy, fitsInt64, minInt64, maxInt64]

theorem fits_odd : odd.Fits .exact 3 where
  version := by decide
  config := by
    have hcluster (c : ClusterConfig) (h : c ∈ odd.config.cluster) : c.Fits := by
      cases h
      constructor <;>
        simp [HealthPolicy.Fits, TimeDuration.Fits, fitsInt64, minInt64, maxInt64, maxNat64]
    have hempty : (⟨{}, {}, {}⟩ : ProxySlots).Fits .exact 3 := by
      intro p
      cases p <;> constructor <;> simp [ProxySlots.get]
    have hservers (c : ServerConfig) (h : c ∈ odd.config.servers) : c.Fits .exact 3 := by
      simp only [odd, List.mem_cons, List.not_mem_nil, or_false] at h
      rcases h with rfl | rfl
      · refine ⟨by decide, by decide, fits_oddSlots, ?_⟩
        simp only [List.mem_singleton, forall_eq]
        exact ⟨by decide, by decide, fits_oddSlots⟩
      · exact ⟨by decide, by decide, hempty, by simp⟩
    exact ⟨by decide, by decide, hcluster, hservers⟩

end NodeSnapshot

theorem wire_reads_back_odd :
    NodeSnapshot.odd.Fits .exact 3 ∧
      Json.decode Config.decoder (Config.node NodeSnapshot.odd.config).toJson.render
        = .ok (.node NodeSnapshot.odd.config) ∧
      Json.decode NodeSnapshot.decoder NodeSnapshot.odd.toJson.render = .ok NodeSnapshot.odd :=
  ⟨NodeSnapshot.fits_odd,
    (wire_reads_back.1 (.node NodeSnapshot.odd.config) 3 NodeSnapshot.fits_odd.config).2
      (by decide +kernel),
    (wire_reads_back.2 _ 3 NodeSnapshot.fits_odd).2 (by decide +kernel)⟩

end Fleet
