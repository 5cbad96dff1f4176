import Fleet.Plane
import Fleet.Proofs.Program
import Fleet.Proofs.Text

/-!
# Requests without the key

What a request to the listener for operators comes to that does not bring the key of the settings that
are current when it is made: it is turned away before anything else of it is looked at, and nothing
changes. A request that does bring the key is never turned away so.
-/

namespace Fleet

/-! ## Readable bytes -/

namespace Http

/-- A visible ASCII character, a space or a tab. -/
def IsVisible (b : UInt8) : Prop := b = 9 ∨ 32 ≤ b ∧ b ≤ 126

instance : DecidablePred IsVisible :=
  fun b => inferInstanceAs (Decidable (b = 9 ∨ 32 ≤ b ∧ b ≤ 126))

variable {b : UInt8} {value : List UInt8} {cs : List Char} {key : String} {r : Request}

theorem IsVisible.toNat_le (h : IsVisible b) : b.toNat ≤ 127 := by
  obtain rfl | ⟨-, h⟩ := h
  · decide
  · have hle : b.toNat ≤ 126 := UInt8.le_iff_toNat_le.mp h
    omega

/-- The bytes of a text of ASCII characters, one for each. -/
theorem ofNat_toNat_encode (h : ∀ b ∈ Text.Utf8.encode cs, b.toNat ≤ 127) :
    (Text.Utf8.encode cs).map (fun b => Char.ofNat b.toNat) = cs := by
  induction cs with
  | nil => rfl
  | cons c cs ih =>
      simp only [Text.Utf8.encode_cons, List.mem_append] at h
      have hc : c.toNat ≤ 127 := Text.Utf8.toNat_le_of_utf8EncodeChar fun b hb => h b (.inl hb)
      rw [Text.Utf8.encode_cons, Text.Utf8.utf8EncodeChar_of_le hc, List.singleton_append,
        List.map_cons, ih fun b hb => h b (.inr hb), Text.Utf8.toNat_toUInt8 hc, Char.ofNat_toNat]

theorem encode_ofNat_toNat (h : ∀ b ∈ value, b.toNat ≤ 127) :
    Text.Utf8.encode (value.map fun b => Char.ofNat b.toNat) = value := by
  induction value with
  | nil => rfl
  | cons b value ih =>
      simp only [List.mem_cons, forall_eq_or_imp] at h
      have hvalid : b.toNat.isValidChar := .inl (by omega)
      have hc : (Char.ofNat b.toNat).toNat = b.toNat := by
        rw [Char.ofNat, dif_pos hvalid]
        rfl
      have hbyte : (Char.ofNat b.toNat).val.toUInt8 = b := by
        apply UInt8.toNat_inj.mp
        rw [UInt32.toNat_toUInt8]
        have hval : (Char.ofNat b.toNat).val.toNat = b.toNat := hc
        rw [hval]
        exact Nat.mod_eq_of_lt b.toNat_lt
      rw [List.map_cons, Text.Utf8.encode_cons, Text.Utf8.utf8EncodeChar_of_le (by omega), hbyte,
        ih h.2, List.singleton_append]

/-- A value reads as a text exactly if all its bytes are visible and it is the bytes of the text. -/
theorem visibleText?_eq_some_iff :
    visibleText? value = some cs ↔ (∀ b ∈ value, IsVisible b) ∧ value = Text.Utf8.encode cs := by
  have hall : (value.all fun b => b = 9 || (32 ≤ b && b ≤ 126)) = true
      ↔ ∀ b ∈ value, IsVisible b := by
    simp [List.all_eq_true, IsVisible]
  unfold visibleText?
  constructor
  · intro h
    split at h
    · rename_i hvisible
      cases h
      have hvisible := hall.mp hvisible
      exact ⟨hvisible, (encode_ofNat_toNat fun b hb => (hvisible b hb).toNat_le).symm⟩
    · cases h
  · rintro ⟨hvisible, rfl⟩
    rw [if_pos (hall.mpr hvisible),
      ofNat_toNat_encode fun b hb => (hvisible b hb).toNat_le]

/-! ## Requests without the key -/

/-- The value of the header, where it is read byte by byte: `Bearer`, a space and the key. -/
def bearerValue (key : String) : List UInt8 := Text.Utf8.encode ("Bearer " ++ key).toList

/-- The request does not bring the key, or there is no key to bring. -/
inductive Request.Unkeyed (key : String) (r : Request) : Prop where
  | keyless (h : key = "")
  | missing (h : r.header? "authorization" = none)
  | unreadable {value : List UInt8} {b : UInt8} (h : r.header? "authorization" = some value)
      (hb : b ∈ value) (hidden : ¬IsVisible b)
  | other {value : List UInt8} (h : r.header? "authorization" = some value)
      (hne : value ≠ bearerValue key)

theorem bearerValue_eq : bearerValue key = Text.Utf8.encode (bearer ++ key.toList) := by
  rw [bearerValue, String.toList_append]
  rfl

theorem hasKey_iff :
    hasKey key r = true ↔ key ≠ "" ∧ ∃ value, r.header? "authorization" = some value ∧
      (∀ b ∈ value, IsVisible b) ∧ value = bearerValue key := by
  simp [hasKey, Option.bind_eq_some_iff, visibleText?_eq_some_iff, bearerValue_eq]

theorem hasKey_eq_false_iff : hasKey key r = false ↔ r.Unkeyed key := by
  rw [← Bool.not_eq_true, hasKey_iff]
  constructor
  · intro h
    by_cases hkey : key = ""
    · exact .keyless hkey
    cases hvalue : r.header? "authorization" with
    | none => exact .missing hvalue
    | some value =>
        by_cases hvisible : ∀ b ∈ value, IsVisible b
        · exact .other hvalue fun heq => h ⟨hkey, value, hvalue, hvisible, heq⟩
        · obtain ⟨b, h⟩ := Classical.not_forall.mp hvisible
          obtain ⟨hb, hidden⟩ := Classical.not_imp.mp h
          exact .unreadable hvalue hb hidden
  · rintro hunkeyed ⟨hkey, value, hvalue, hvisible, heq⟩
    cases hunkeyed with
    | keyless h => exact hkey h
    | missing h => simp [hvalue] at h
    | unreadable h hb hidden =>
        cases hvalue.symm.trans h
        exact hidden (hvisible _ hb)
    | other h hne =>
        cases hvalue.symm.trans h
        exact hne heq

/-- The response to a request that is turned away, whatever else it holds. -/
def unauthorized : Response := ⟨401, .none⟩

theorem serveAdmin_of_unkeyed {c : AdminContext} (h : r.Unkeyed key) :
    serveAdmin key c r = pure unauthorized := by
  simp [serveAdmin, hasKey_eq_false_iff.mpr h, unauthorized]

/-! ## Requests with the key -/

def Response.IsKnown (r : Response) : Prop := r.status ≠ unauthorized.status

namespace Handler

variable {α β : Type} {h : Handler α} {Q : α → Prop}

/-- The handler ends in `Q`, or in a response that does not turn the request away. -/
def Knows (h : Handler α) (Q : α → Prop) : Prop :=
  h.run.Returns fun
    | .ok a => Q a
    | .error r => r.IsKnown

theorem Knows.bind {f : α → Handler β} {R : β → Prop} (hh : h.Knows Q)
    (hf : ∀ a, Q a → (f a).Knows R) : (h >>= f).Knows R := by
  unfold Knows
  rw [ExceptT.run_bind]
  refine Program.Returns.bind hh fun r hr => ?_
  cases r with
  | ok a => exact hf a hr
  | error r => exact hr

theorem Knows.then {f : α → Handler β} {R : β → Prop} (hh : h.Knows fun _ => True)
    (hf : ∀ a, (f a).Knows R) : (h >>= f).Knows R := hh.bind fun a _ => hf a

theorem knows_pure {a : α} (ha : Q a) : (pure a : Handler α).Knows Q := ha

theorem knows_reject {status : Nat} (hs : status ≠ 401) : (reject status : Handler α).Knows Q := hs

theorem isKnown_badRequest (message : String) : (ApiError.badRequest message).response.IsKnown := by
  simp [Response.IsKnown, ApiError.badRequest, ApiError.response, unauthorized]

theorem isKnown_ofFailure (f : Failure) : (ApiError.ofFailure f).response.IsKnown := by
  rcases f with _ | _ | _ | (_ | _ | _) <;>
    simp [Response.IsKnown, ApiError.ofFailure, ApiError.response, unauthorized]

theorem knows_act (a : Action α) : (act a).Knows fun _ => True := by
  refine (Program.returns_true a.run).bind fun r _ => ?_
  cases r with
  | ok a => trivial
  | error f => exact isKnown_ofFailure f

theorem knows_segment (cs : List Char) : (segment cs).Knows fun _ => True := by
  unfold segment
  cases segmentText? cs with
  | none => exact knows_reject (by decide)
  | some text => trivial

theorem knows_idSegment (cs : List Char) : (idSegment cs).Knows fun _ => True := by
  refine (knows_segment cs).then fun text => ?_
  cases Text.readInt64? text.toList with
  | none => exact knows_reject (by decide)
  | some id => trivial

theorem knows_body (d : Json.Decoder α) (r : Request) : (body d r).Knows fun _ => True := by
  unfold body
  split
  · exact knows_reject (by decide)
  split
  · trivial
  all_goals exact knows_reject (by decide)

theorem knows_word (r : Except UnknownWord α) : (word r).Knows fun _ => True := by
  cases r with
  | ok a => trivial
  | error w => exact isKnown_badRequest w.message

theorem Knows.response {h : Handler Response} (hh : h.Knows Response.IsKnown) :
    (response h).Returns Response.IsKnown := by
  refine Program.Returns.bind hh fun r hr => ?_
  cases r <;> exact hr

theorem isKnown_json (j : Json) : (json j).IsKnown := by simp [Response.IsKnown, json, unauthorized]

end Handler

open Handler

theorem returns_serve (route : AdminRoute) (c : AdminContext) (r : Request) :
    (route.serve c r).Returns Response.IsKnown := by
  -- Every handler ends in an action whose result is shown as JSON.
  have shown {α : Type} (a : Action α) (f : α → Json) :
      (do return json (f (← act a)) : Handler Response).Knows Response.IsKnown :=
    (knows_act a).then fun _ => knows_pure (isKnown_json _)
  cases route with
  | status => exact (shown _ _).response
  | messages => exact isKnown_json _
  | save kind => exact ((knows_body _ _).then fun _ => shown _ _).response
  | groupOrders => exact ((knows_body _ _).then fun _ => shown _ _).response
  | groupProxy id protocol =>
      exact ((knows_idSegment _).then fun _ => (knows_segment _).then fun _ => (knows_body _ _).then
        fun _ => (knows_word _).then fun _ => shown _ _).response
  | healthCheck cluster =>
      exact ((knows_idSegment _).then fun _ => shown _ fun results => healthJson _ results).response
  | setState kind id enabled =>
      exact ((knows_segment _).then fun _ => (knows_idSegment _).then fun _ => (knows_word _).then
        fun _ => shown _ _).response

theorem returns_serveKeyed (c : AdminContext) (r : Request) :
    (serveKeyed c r).Returns Response.IsKnown := by
  unfold serveKeyed
  split
  · exact fun h => absurd h (by decide)
  · split
    · exact returns_serve _ c r
    · exact fun h => absurd h (by decide)

end Http

namespace Plane

open Http

/-! ## Runs of the control plane -/

/-- What happens to a running control plane: its settings are replaced, or a request is made. -/
inductive Event where
  | swap (settings : Settings)
  | request (l : Listener) (r : Request)
deriving DecidableEq, Repr, Inhabited

/-- Goes through the events, and gives the answers to the requests. -/
def play (p : Plane) : List Event → List Exchange × Plane
  | [] => ([], p)
  | .swap settings :: es => play { p with settings } es
  | .request l r :: es =>
    let (x, p) := p.exchange l r
    let (xs, p) := play p es
    (x :: xs, p)

/-- The settings that were put in last. -/
def current (settings : Settings) : List Event → Settings
  | [] => settings
  | .swap settings :: es => current settings es
  | .request _ _ :: es => current settings es

variable {p q : Plane} {es fs : List Event} {l : Listener} {r r' : Request}

theorem play_append : p.play (es ++ fs)
    = ((p.play es).1 ++ ((p.play es).2.play fs).1, ((p.play es).2.play fs).2) := by
  induction es generalizing p with
  | nil => rfl
  | cons e es ih =>
      cases e with
      | swap settings => exact ih
      | request l r => simp only [List.cons_append, play, ih]

/-- No program reaches the settings. -/
theorem settings_run {α : Type} (a : Program α) (p : Plane) :
    (a.run host p).2.settings = p.settings := by
  induction a generalizing p with
  | done a => rfl
  | note m next ih => exact ih _
  | call c next ih => exact ih _ _

theorem settings_respond : (p.respond l r).2.settings = p.settings := by
  unfold respond
  cases l with
  | sync => exact settings_run (serveSync p.outbox r) p
  | admin => exact settings_run (serveAdmin p.settings.admin.apiKey p.adminContext r) p

theorem settings_exchange : (p.exchange l r).2.settings = p.settings := settings_respond

theorem settings_play : (p.play es).2.settings = current p.settings es := by
  induction es generalizing p with
  | nil => rfl
  | cons e es ih =>
      cases e with
      | swap settings => exact ih
      | request l r => exact ih.trans (congrArg (current · es) settings_exchange)

/-! ## Requests without the key, among others -/

/-- What is sent back to a request that is turned away. -/
def refusal (r : Request) : Exchange := ⟨r.header? "x-request-id", unauthorized⟩

theorem exchange_of_unkeyed (h : r.Unkeyed p.settings.admin.apiKey) :
    p.exchange .admin r = (refusal r, p) := by
  simp only [exchange, respond, serveAdmin_of_unkeyed h, Program.run_pure, refusal]

/-- Nothing but a missing key is answered so. -/
theorem status_exchange_eq_iff : (p.exchange .admin r).1.response.status = 401
    ↔ r.Unkeyed p.settings.admin.apiKey := by
  constructor
  · intro hstatus
    refine hasKey_eq_false_iff.mp (Bool.eq_false_iff.mpr fun hkey => ?_)
    refine (returns_serveKeyed p.adminContext r).run host p (Eq.trans ?_ hstatus)
    simp only [exchange, respond, serveAdmin, hkey, ↓reduceIte, Program.run_bind]
    split <;> rfl
  · intro h
    rw [exchange_of_unkeyed h]
    rfl

/-- However the settings were replaced and whatever was asked before, a request that does not bring the
key of the settings as they are then is turned away, changes nothing, and leaves what follows as it would
be without it. What is sent back is the same for all such requests, but for the id of the request. -/
theorem unkeyed_refused (h : r.Unkeyed (current p.settings es).admin.apiKey) :
    (p.play es).2.exchange .admin r = (refusal r, (p.play es).2) ∧
    (∀ rest, p.play (es ++ .request .admin r :: rest)
      = ((p.play es).1 ++ refusal r :: ((p.play es).2.play rest).1, (p.play (es ++ rest)).2)) ∧
    ∀ (q : Plane) (fs : List Event) (r' : Request),
      r'.Unkeyed (current q.settings fs).admin.apiKey →
      r'.header? "x-request-id" = r.header? "x-request-id" →
      ((q.play fs).2.exchange .admin r').1 = ((p.play es).2.exchange .admin r).1 := by
  have hnow {q : Plane} {fs : List Event} {r' : Request}
      (h : r'.Unkeyed (current q.settings fs).admin.apiKey) :
      (q.play fs).2.exchange .admin r' = (refusal r', (q.play fs).2) :=
    exchange_of_unkeyed (settings_play ▸ h)
  refine ⟨hnow h, fun rest => ?_, fun q fs r' h' hid => ?_⟩
  · rw [play_append, play_append]
    simp only [play, hnow h]
  · rw [hnow h, hnow h']
    simp only [refusal, hid]

/-- A key that was replaced no longer opens anything, and the body that it brings is not read. -/
theorem unkeyed_refused_replaced_key :
    let p : Plane := { settings := { admin := { apiKey := "old" } } }
    let es : List Event := [.request .admin ⟨"PUT", "/admin/clusters", [], "\x7b"⟩,
      .swap { admin := { apiKey := "new" } }]
    let r : Request := ⟨"PUT", "/admin/clusters", [("Authorization", bearerValue "old")], "\x7b"⟩
    (p.play es).2.exchange .admin r
      = (⟨none, ⟨401, .none⟩⟩, { settings := { admin := { apiKey := "new" } } }) :=
  (unkeyed_refused (@Request.Unkeyed.other _ _ (bearerValue "old") rfl (by decide))).1

end Plane

end Fleet
