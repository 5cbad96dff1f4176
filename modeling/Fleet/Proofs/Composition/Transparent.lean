import Fleet.Proofs.Composition.Alike

/-!
# Compositions that share a cache

Composition with a cache ends as composition without one does, if nothing nests too deep and the
numbers in scheduling options are read as they were written.
-/

namespace Fleet

/-- Composes entities one after another, with one cache. -/
def composeEach : List EntityRef → Cache → Program (List (Except Failure (Option Config)) × Cache)
  | [], cache => return ([], cache)
  | target :: rest, cache => do
    let (result, cache) ← (compose target).run.run cache
    let (results, cache) ← composeEach rest cache
    return (result :: results, cache)

/-- One call more keeps the cache faithful. -/
theorem run_composeEach {s : Store} (hs : s.Fits) (targets : List EntityRef) {cache : Cache}
    (h : cache.Faithful s .exact fun _ => False) :
    ∃ cache', (composeEach targets cache).run Store.host s
        = ((targets.map (Plain.entity s), cache'), s) ∧ cache'.Faithful s .exact fun _ => False := by
  induction targets generalizing cache with
  | nil => exact ⟨cache, rfl, h⟩
  | cons target rest ih =>
      have hnone : ∀ k, Cache.Over k fun _ => False := fun _ _ hx => False.elim hx
      have hlax : 117 < 99 → False := by decide
      have hagrees := Composing.agrees_any hs.suits hlax hnone target
      obtain ⟨hcalls, hfaithful, hend⟩ := hagrees cache h
      have hstore : (Composing.on (Composing.entity target) cache s).2 = s :=
        Program.run_of_isRead fun c hc => (hcalls c hc).isRead
      have hon : ((compose target).run.run cache).run Store.host s
          = Composing.on (Composing.entity target) cache s := on_compose target cache s
      obtain ⟨cache', hrun, hfaithful'⟩ := ih hfaithful
      refine ⟨cache', ?_, hfaithful'⟩
      rw [composeEach, Program.run_bind, hon, hstore]
      dsimp only
      rw [Program.run_bind, hrun, hend.eq]
      rfl

/-- The outcomes of calls that share a cache, at first empty, are those of composition without a
cache, and no lookup comes to an entity that is being composed. -/
theorem composeEach_eq_plain {s : Store} (hs : s.Fits) (targets : List EntityRef) :
    ∃ cache, (composeEach targets .empty).run Store.host s
        = ((targets.map (Plain.entity s), cache), s) ∧ cache.cycles = 0 := by
  obtain ⟨cache, hrun, hfaithful⟩ := run_composeEach hs targets (faithful_empty s)
  exact ⟨cache, hrun, hfaithful.cycles⟩

/-- A proxy that names its origin twice. -/
def ReverseProxy.doubled : ReverseProxy where
  id := 2
  scheduling := ⟨"\x7b\"code\":\"hash\",\"options\":\x7b\"weights\":[0.5,1]\x7d\x7d"⟩
  primaryOrigins := ⟨"[\x7b\"originId\":1\x7d,\x7b\"originId\":1\x7d]"⟩

/-- A group with the proxy, the proxy and its origin. -/
def Store.doubled : Store :=
  ((Store.empty.put (.origin { id := 1 })).put (.reverseProxy .doubled)).put
    (.serverGroup { id := 3, httpReverseProxy := ⟨"\x7b\"reverseProxyId\":2\x7d"⟩ })

theorem ReverseProxy.schedulesPlainly_doubled : Record.SchedulesPlainly (.reverseProxy .doubled) := by
  let half : Json.Number := .float ⟨false, ⟨4503599627370496, -53⟩⟩
  have hhalf : half.IsStable := by decide +kernel
  have hone : (Json.Number.int 1).IsStable := by decide +kernel
  have hdecoded : ReverseProxy.doubled.scheduling.decode Scheduling.decoder
      = .ok (some ⟨"hash", [("weights", .array [.number half, .int 1])]⟩) := by decide +kernel
  intro o ho
  rw [hdecoded] at ho
  cases ho
  exact ⟨by decide, ⟨⟨hhalf, hone, trivial⟩, trivial⟩⟩

theorem Store.fits_doubled : Store.doubled.Fits := by
  have hnone : ∀ d ∈ (none : Option TimeDuration), d.Fits := fun _ h => nomatch h
  have horigin : Record.Fits (.origin { id := 1 }) :=
    ⟨rfl, by decide, hnone, hnone, hnone, by decide, by decide⟩
  have hproxy : Record.Fits (.reverseProxy .doubled) := rfl
  refine ((fits_empty.put horigin trivial).put hproxy
    ReverseProxy.schedulesPlainly_doubled).put ?_ trivial
  exact ⟨rfl, by decide, by decide⟩

/-- The proxy is answered from the cache that the group left, the third entity is missing. -/
theorem composeEach_eq_plain_doubled :
    Store.doubled.Fits ∧ ∃ cache,
      (composeEach [⟨.serverGroup, 3⟩, ⟨.reverseProxy, 2⟩, ⟨.origin, 9⟩] .empty).run Store.host
          Store.doubled
        = (([⟨.serverGroup, 3⟩, ⟨.reverseProxy, 2⟩, ⟨.origin, 9⟩].map (Plain.entity Store.doubled),
            cache), Store.doubled) ∧ cache.cycles = 0 :=
  ⟨Store.fits_doubled, composeEach_eq_plain Store.fits_doubled _⟩

end Fleet
