import Fleet.Health.Check
import Fleet.Proofs.Net.AccessAddress
import Fleet.Proofs.Net.Url

/-!
# Where probes go

A probe goes to the host of the node's access address, at the port of the address, of the policy or of
the settings, unless its path leads to a host of its own. Then all nodes are probed at one place.
-/

namespace Fleet

open Net

/-! ## Access addresses -/

namespace Net.AccessAddress

variable {host : List Char} {a : Address}

/-- The host of an access address is the text that its address is written with. -/
theorem exists_ofTrimmed (h : Host.Writes host a) : ∃ inner, urlHost inner = host ∧
    ofTrimmed host = .ok ⟨inner, none⟩ ∧
    ∀ digits, ':' ∉ digits → ofTrimmed (host ++ ':' :: digits)
      = (portOf (host ++ ':' :: digits) digits).map fun n => ⟨inner, some n⟩ := by
  cases h with
  | v4 h =>
      have hsubset := Host.subset_of_v4? h
      have hcolon : ':' ∉ host := fun hc => absurd (hsubset hc) (by decide)
      have hopen : host.head? ≠ some '[' := fun ho =>
        absurd (hsubset (List.mem_of_head? ho)) (by decide)
      exact ⟨host, by simp [urlHost, hcolon], ofTrimmed_host hopen hcolon,
        fun digits hdigits => ofTrimmed_port hopen hcolon hdigits⟩
  | @v6 cs groups h =>
      have hclose : ']' ∉ cs := fun hc => absurd (subset_of_v6? h hc) (by decide)
      refine ⟨cs, ?_, ofTrimmed_bracketed hclose, fun digits _ => ?_⟩
      · simp [urlHost, colon_mem_of_v6? h]
      · simpa using ofTrimmed_bracketed_port hclose digits

/-- What an access address says: the host as it is written, and the port if there is one. -/
theorem of_ofText {text : List Char} {digits : Option (List Char)} {split : AccessAddress}
    (hhost : Host.Writes host a) (htext : Text.trim text = host ++ Url.marked ':' digits)
    (hdigits : ∀ ds ∈ digits, ':' ∉ ds) (h : ofText text = .ok split) :
    urlHost split.host = host ∧ split.port.isSome = digits.isSome ∧
      split.port = digits.bind (Text.readUnsigned? 65535) := by
  obtain ⟨inner, hinner, hbare, hport⟩ := exists_ofTrimmed hhost
  rw [ofText, htext] at h
  cases digits with
  | none =>
      rw [Url.marked, Option.elim_none, List.append_nil, hbare] at h
      cases h
      exact ⟨hinner, rfl, rfl⟩
  | some ds =>
      rw [Url.marked, Option.elim_some, hport ds (hdigits ds rfl), portOf] at h
      cases hread : Text.readUnsigned? 65535 ds with
      | none =>
          rw [hread] at h
          cases h
      | some n =>
          rw [hread] at h
          cases h
          exact ⟨hinner, rfl, hread.symm⟩

end Net.AccessAddress

/-! ## Probes -/

/-- The URL that the request of a probe is sent to, if one is sent. -/
def probedUrl? (probe : Probe) (node : Node) : Option Url := do
  let address ← (accessAddress node).toOption
  let target ← (probeTarget address probe).toOption
  target.http?

/-- Nothing else is asked of the network. -/
theorem checkNode_congr {network network' : Network} {probe : Probe} {node : Node}
    (h : ∀ url ∈ probedUrl? probe node,
      network.reply node url probe.timeout = network'.reply node url probe.timeout) :
    checkNode network probe node = checkNode network' probe node := by
  unfold checkNode
  cases haddress : accessAddress node with
  | error fault => rfl
  | ok address =>
      have hreply (target : Location) (htarget : probeTarget address probe = .ok target) :
          network.replyFrom node target probe.timeout
            = network'.replyFrom node target probe.timeout := by
        unfold Network.replyFrom
        cases hurl : target.http? with
        | none => rfl
        | some url => exact h url (by simp [probedUrl?, haddress, htarget, hurl, Except.toOption])
      dsimp only
      refine congrArg (NodeHealth.ofOutcome node address) ?_
      cases htarget : probeTarget address probe with
      | error fault => rfl
      | ok target => exact congrArg (Reply.outcome probe.timeout) (hreply target htarget)

/-- The port of a probe: that of the address, else that of the policy if it is positive, else that of
the settings. -/
inductive ProbesPort (s : ProbeSettings) (policy : Option HealthPolicy) :
    Option (List Char) → Nat → Prop where
  | address {digits : List Char} {n : Nat} (h : Text.readUnsigned? 65535 digits = some n) :
      ProbesPort s policy (some digits) n
  | policy {p : HealthPolicy} (h : policy = some p) (hp : 0 < p.port) : ProbesPort s policy none p.port
  | settings (h : ∀ p, policy = some p → p.port = 0) : ProbesPort s policy none s.port

variable {s : ProbeSettings} {policy : Option HealthPolicy}

theorem probesPort_none : ProbesPort s policy none (Probe.ofPolicy s policy).port := by
  cases hpolicy : policy with
  | none => exact .settings (by simp)
  | some p =>
      by_cases hp : 0 < p.port
      · have hport : (Probe.ofPolicy s (some p)).port = p.port := by simp [Probe.ofPolicy, Option.filter, hp]
        exact hport ▸ .policy rfl hp
      · have hport : (Probe.ofPolicy s (some p)).port = s.port := by simp [Probe.ofPolicy, Option.filter, hp]
        exact hport ▸ .settings (by simpa using hp)

/-- The port of a probe is looked for in the address, the policy and the settings, in this order. -/
theorem probesPort_getD {digits : Option (List Char)} {port : Option Nat}
    (hsome : port.isSome = digits.isSome) (hport : port = digits.bind (Text.readUnsigned? 65535)) :
    ProbesPort s policy digits (port.getD (Probe.ofPolicy s policy).port) := by
  cases digits with
  | some ds =>
      obtain ⟨n, rfl⟩ := Option.isSome_iff_exists.1 hsome
      exact .address hport.symm
  | none =>
      subst hport
      exact probesPort_none

theorem of_baseUrl? {split : AccessAddress} {probe : Probe} {base : Url} {host : List Char}
    {a : Address} (hhost : Host.Writes host a) (hsplit : urlHost split.host = host)
    (h : baseUrl? split probe = some base) :
    base.scheme = ['h', 't', 't', 'p'] ∧ base.host = .address a ∧
      base.port = split.port.getD probe.port := by
  rw [baseUrl?, hsplit, Url.ofText?_http hhost] at h
  split at h
  · cases h
    exact ⟨rfl, rfl, rfl⟩
  · cases h

theorem scheme_baseUrl? {split : AccessAddress} {probe : Probe} {base : Url}
    (h : baseUrl? split probe = some base) : base.scheme = ['h', 't', 't', 'p'] := by
  rw [baseUrl?, List.append_assoc] at h
  exact Url.scheme_ofText?_http h

theorem exists_of_bind_eq_ok {ε α β : Type} {x : Except ε α} {f : α → Except ε β} {b : β}
    (h : x >>= f = .ok b) : ∃ a, x = .ok a ∧ f a = .ok b := by
  cases x with
  | error e => cases h
  | ok a => exact ⟨a, rfl, h⟩

theorem of_probeTarget {address : String} {probe : Probe} {target : Location}
    (h : probeTarget address probe = .ok target) :
    ∃ split base, AccessAddress.ofText address.toList = .ok split ∧ baseUrl? split probe = some base ∧
      Location.join? base probe.path.toList = some target := by
  obtain ⟨split, hsplit, h⟩ := exists_of_bind_eq_ok h
  have hsplit : AccessAddress.ofText address.toList = .ok split := by
    cases hread : AccessAddress.ofText address.toList with
    | error fault =>
        rw [hread] at hsplit
        cases hsplit
    | ok read =>
        rw [hread] at hsplit
        cases hsplit
        rfl
  split at h
  · cases h
  · rename_i found hjoin
    split at h
    · cases h
      obtain ⟨base, hbase, hfound⟩ := Option.bind_eq_some_iff.1 hjoin
      exact ⟨split, base, hsplit, hbase, hfound⟩
    · cases h

theorem of_probedUrl? {probe : Probe} {node : Node} {url : Url} (h : probedUrl? probe node = some url) :
    ∃ address target, accessAddress node = .ok address ∧ probeTarget address probe = .ok target ∧
      target.http? = some url := by
  have htoOption {ε α : Type} {x : Except ε α} {a : α} (hx : x.toOption = some a) : x = .ok a := by
    cases x <;> cases hx
    rfl
  obtain ⟨address, haddress, h⟩ := Option.bind_eq_some_iff.1 h
  obtain ⟨target, htarget, h⟩ := Option.bind_eq_some_iff.1 h
  exact ⟨address, target, htoOption haddress, htoOption htarget, h⟩

/-- A probe goes to its node unless its path leads to a host of its own. -/
theorem probe_at_node {node : Node} {address : String} {host : List Char} {a : Address}
    {digits : Option (List Char)} {url : Url} (haddress : accessAddress node = .ok address)
    (htext : Text.trim address.toList = host ++ Url.marked ':' digits)
    (hdigits : ∀ ds ∈ digits, ':' ∉ ds) (hhost : Host.Writes host a)
    (hpath : Url.namesHost ['h', 't', 't', 'p'] (Probe.ofPolicy s policy).path.toList = false)
    (hurl : probedUrl? (Probe.ofPolicy s policy) node = some url) :
    url.scheme = ['h', 't', 't', 'p'] ∧ url.host = .address a ∧ ProbesPort s policy digits url.port := by
  obtain ⟨address', target, haddress', htarget, hurl⟩ := of_probedUrl? hurl
  obtain rfl : address = address' := by
    rw [haddress] at haddress'
    cases haddress'
    rfl
  obtain ⟨split, base, hsplit, hbase, hjoin⟩ := of_probeTarget htarget
  obtain ⟨hinner, hsome, hport⟩ := AccessAddress.of_ofText hhost htext hdigits hsplit
  obtain ⟨hscheme, hbaseHost, hbasePort⟩ := of_baseUrl? hhost hinner hbase
  obtain ⟨found, hfound, hshares⟩ := Url.join?_sharesHost (hscheme ▸ hpath)
  rw [hjoin] at hfound
  cases hfound
  have hweb : url = found := by
    have hsent : (Location.web found).http? = some found := if_pos (hshares.scheme.trans hscheme)
    rw [hsent] at hurl
    cases hurl
    rfl
  subst hweb
  refine ⟨hshares.scheme.trans hscheme, hshares.host.trans hbaseHost, ?_⟩
  rw [hshares.port, hbasePort]
  exact probesPort_getD hsome hport

/-- A node whose first address is blank. -/
def Node.addressed : Node := { id := 7, accessAddrs := ⟨"[\"  \",\" 10.0.0.7:8080 \"]"⟩ }

theorem probe_at_node_addressed :
    let policy : HealthPolicy := ⟨true, 81, "/a/../status?x", none⟩
    let url : Url :=
      { scheme := ['h', 't', 't', 'p'], host := .address (.v4 [10, 0, 0, 7]), port := 8080,
        path := ["status".toList], query := some ['x'] }
    accessAddress .addressed = .ok " 10.0.0.7:8080 " ∧
      Text.trim " 10.0.0.7:8080 ".toList = "10.0.0.7".toList ++ Url.marked ':' (some "8080".toList) ∧
      (∀ ds ∈ some "8080".toList, ':' ∉ ds) ∧ Host.Writes "10.0.0.7".toList (.v4 [10, 0, 0, 7]) ∧
      Url.namesHost ['h', 't', 't', 'p'] (Probe.ofPolicy {} (some policy)).path.toList = false ∧
      probedUrl? (Probe.ofPolicy {} (some policy)) .addressed = some url ∧
      url.scheme = ['h', 't', 't', 'p'] ∧ url.host = .address (.v4 [10, 0, 0, 7]) ∧
      ProbesPort {} (some policy) (some "8080".toList) url.port := by
  intro policy url
  have haddress : accessAddress .addressed = .ok " 10.0.0.7:8080 " := by decide +kernel
  have htext : Text.trim " 10.0.0.7:8080 ".toList
      = "10.0.0.7".toList ++ Url.marked ':' (some "8080".toList) := by decide +kernel
  have hdigits : ∀ ds ∈ some "8080".toList, ':' ∉ ds := by decide +kernel
  have hhost : Host.Writes "10.0.0.7".toList (.v4 [10, 0, 0, 7]) := .v4 (by decide +kernel)
  have hpath : Url.namesHost ['h', 't', 't', 'p'] (Probe.ofPolicy {} (some policy)).path.toList = false := by
    decide +kernel
  have hurl : probedUrl? (Probe.ofPolicy {} (some policy)) .addressed = some url := by decide +kernel
  exact ⟨haddress, htext, hdigits, hhost, hpath, hurl,
    probe_at_node haddress htext hdigits hhost hpath hurl⟩

example : probedUrl? ⟨81, "/status", 5⟩ { accessAddrs := ⟨"[\"[2001:DB8::1]\"]"⟩ }
    = some { scheme := ['h', 't', 't', 'p'], host := .address (.v6 [0x2001, 0xdb8, 0, 0, 0, 0, 0, 1]),
             port := 81, path := ["status".toList] } := by decide +kernel

/-- Two slashes at the front of a path lead the probe away from the node, whether a policy says so or
settings that are accepted. -/
theorem probe_astray :
    let settings : Settings := { healthCheck := { path := "//10.9.9.9/x" } }
    let policy : HealthPolicy := ⟨true, 0, "//10.9.9.9/x", none⟩
    let url : Url :=
      { scheme := ['h', 't', 't', 'p'], host := .address (.v4 [10, 9, 9, 9]), port := 80, path := [['x']] }
    settings.isAccepted = true ∧ ({} : Settings).isAccepted = true ∧
      accessAddress .addressed = .ok " 10.0.0.7:8080 " ∧
      Text.trim " 10.0.0.7:8080 ".toList = "10.0.0.7".toList ++ Url.marked ':' (some "8080".toList) ∧
      Host.Writes "10.0.0.7".toList (.v4 [10, 0, 0, 7]) ∧
      probedUrl? (Probe.ofPolicy settings.healthCheck none) .addressed = some url ∧
      probedUrl? (Probe.ofPolicy ({} : Settings).healthCheck (some policy)) .addressed = some url ∧
      url.host ≠ .address (.v4 [10, 0, 0, 7]) ∧ url.port ≠ 8080 := by
  refine ⟨?_, ?_, ?_, ?_, .v4 ?_, ?_, ?_, ?_, ?_⟩
  all_goals decide +kernel

/-- Where the path leads to a host of its own, all nodes are probed at one place. -/
theorem probe_at_one_place {probe : Probe} {m n : Node} {u v : Url}
    (hpath : Url.namesHost ['h', 't', 't', 'p'] probe.path.toList = true)
    (hu : probedUrl? probe m = some u) (hv : probedUrl? probe n = some v) : u = v := by
  have hone {base base' : Url} {split split' : AccessAddress} (hbase : baseUrl? split probe = some base)
      (hbase' : baseUrl? split' probe = some base') :
      Location.join? base probe.path.toList = Location.join? base' probe.path.toList := by
    have hscheme := scheme_baseUrl? hbase'
    exact Url.join?_of_namesHost ((scheme_baseUrl? hbase).trans hscheme.symm) (hscheme ▸ hpath)
  obtain ⟨_, target, -, htarget, hu⟩ := of_probedUrl? hu
  obtain ⟨_, target', -, htarget', hv⟩ := of_probedUrl? hv
  obtain ⟨_, base, -, hbase, hjoin⟩ := of_probeTarget htarget
  obtain ⟨_, base', -, hbase', hjoin'⟩ := of_probeTarget htarget'
  rw [hone hbase hbase', hjoin'] at hjoin
  cases hjoin
  rw [hu] at hv
  cases hv
  rfl

end Fleet
