import Fleet.Proofs.Json.Given
import Fleet.Record.Codec

/-!
# Widths

The numbers of records and of their parts are of fixed widths. What is decoded from a stored reference
keeps to them, whatever the text.
-/

namespace Fleet

open Json Json.Decoder Json.Fields Text

/-! ## Parts -/

def TimeDuration.Fits (d : TimeDuration) : Prop := d.count ≤ maxNat64

def HealthPolicy.Fits (p : HealthPolicy) : Prop := p.port ≤ 65535 ∧ ∀ d ∈ p.timeout, d.Fits

def OriginRef.Fits (r : OriginRef) : Prop := fitsInt64 r.originId = true

def ReverseProxyRef.Fits (r : ReverseProxyRef) : Prop := fitsInt64 r.reverseProxyId = true

/-- The keys of the options are ascending, on every level. -/
def Scheduling.IsSorted (s : Scheduling) : Prop := Ascending s.options ∧ MembersSorted s.options

/-! ## Records -/

def Origin.Fits (r : Origin) : Prop :=
  fitsInt64 r.id = true ∧ r.weight ≤ 4294967295 ∧ (∀ d ∈ r.connTimeout, d.Fits) ∧
    (∀ d ∈ r.readTimeout, d.Fits) ∧ (∀ d ∈ r.idleTimeout, d.Fits) ∧ r.maxConns ≤ 4294967295 ∧
    r.maxIdleConns ≤ 4294967295

/-- The numbers of the record are within the widths of their fields. -/
def Record.Fits : Record → Prop
  | .cluster r => fitsInt64 r.id = true
  | .node r => fitsInt64 r.id = true ∧ fitsInt64 r.clusterId = true
  | .server r => fitsInt64 r.id = true ∧ fitsInt64 r.clusterId = true
  | .serverGroup r => fitsInt64 r.id = true ∧ -2147483648 ≤ r.order ∧ r.order ≤ 2147483647
  | .reverseProxy r => fitsInt64 r.id = true
  | .origin r => r.Fits

/-! ## Decoded parts -/

theorem gives_int64 : int64.Gives fun i => fitsInt64 i = true :=
  (gives_intIn _ _).imp fun i h => by simpa [fitsInt64] using h

theorem TimeDuration.gives : TimeDuration.decoder.Gives TimeDuration.Fits := by
  have hcount : nat64.Gives fun count => ∀ unit, True → TimeDuration.Fits ⟨count, unit⟩ :=
    (gives_natTo _).imp fun _ h _ _ => h
  exact ((gives_required hcount).map.seq (gives_defaulted gives_trivial trivial)).decoder

theorem OriginRef.gives : OriginRef.decoder.Gives OriginRef.Fits := by
  have hid : int64.Gives fun id => ∀ isOn, True → OriginRef.Fits ⟨id, isOn⟩ :=
    gives_int64.imp fun _ h _ _ => h
  exact ((gives_required hid).map.seq (gives_defaulted gives_trivial trivial)).decoder

theorem ReverseProxyRef.gives : ReverseProxyRef.decoder.Gives ReverseProxyRef.Fits := by
  have hid : int64.Gives fun id => ∀ isOn, True → ∀ isPrior, True →
      ReverseProxyRef.Fits ⟨id, isOn, isPrior⟩ := gives_int64.imp fun _ h _ _ _ _ => h
  exact (((gives_required hid).map.seq (gives_defaulted gives_trivial trivial)).seq
    (gives_defaulted gives_trivial trivial)).decoder

theorem HealthPolicy.gives : HealthPolicy.decoder.Gives HealthPolicy.Fits := by
  have hon : bool.Gives fun isOn => ∀ port, port ≤ 65535 → ∀ urlPath, True → ∀ timeout,
      (∀ d ∈ timeout, TimeDuration.Fits d) → HealthPolicy.Fits ⟨isOn, port, urlPath, timeout⟩ :=
    gives_trivial.imp fun _ _ _ hport _ _ _ htimeout => ⟨hport, htimeout⟩
  have hfalse := fun port (hport : port ≤ 65535) urlPath (_ : True) timeout
    (htimeout : ∀ d ∈ timeout, TimeDuration.Fits d) =>
      (⟨hport, htimeout⟩ : HealthPolicy.Fits ⟨false, port, urlPath, timeout⟩)
  exact ((((gives_defaulted hon hfalse).map.seq
    (gives_defaulted (gives_natTo _) (Nat.zero_le _))).seq
    (gives_defaulted gives_trivial trivial)).seq
    (gives_defaulted TimeDuration.gives.option fun _ h => (Option.not_mem_none _ h).elim)).decoder

theorem Scheduling.gives : Scheduling.decoder.Gives fun s =>
    s.IsSorted ∧ MembersAll Number.Bounded s.options := by
  have hcode : string.Gives fun code => ∀ options,
      (Ascending options ∧ MembersSorted options) ∧ MembersAll Number.Bounded options →
        Scheduling.IsSorted ⟨code, options⟩ ∧ MembersAll Number.Bounded options :=
    gives_trivial.imp fun _ _ _ h => h
  exact ((gives_required hcode).map.seq
    (gives_defaulted gives_anyObject ⟨⟨.nil, trivial⟩, trivial⟩)).decoder

/-! ## Stored references -/

/-- What a stored text is decoded to keeps to what the decoder asks for. -/
theorem RefText.decode_gives {α : Type} {d : Json.Decoder α} {P : α → Prop} (h : d.Gives P)
    {r : RefText} {a : α} (ha : r.decode d = .ok (some a)) : P a := by
  unfold RefText.decode at ha
  split at ha
  · cases ha
  · obtain ⟨b, hb, he⟩ := of_map_eq_ok ha
    cases he
    exact h.decode hb

end Fleet
