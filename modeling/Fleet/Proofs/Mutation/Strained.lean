import Fleet.Proofs.Mutation.Marked
import Fleet.Store.Faulty

/-!
# Mutations whose calls may fail

A call that fails leaves the store as it was. Whatever marks fail, a mutation that was stopped has either
written nothing or has left its records as written, and the nodes that its writes touched are still
above the record that it wrote.
-/

namespace Fleet

open Fleet.Action

/-! ## Runs in which calls may fail -/

/-- A run of the program in which any call may fail. -/
inductive Program.Hampered {α : Type} : Program α → Store → α → Store → Prop where
  | done {a : α} {s : Store} : Hampered (.done a) s a s
  | note {m : Measure} {next : Program α} {s t : Store} {a : α} :
      Hampered next s a t → Hampered (.note m next) s a t
  | answered {c : Call} {next : Except StoreError c.Answer → Program α} {s t : Store} {a : α} :
      Hampered (next (s.answer c).1) (s.answer c).2 a t → Hampered (.call c next) s a t
  | failed {c : Call} {e : StoreError} {next : Except StoreError c.Answer → Program α}
      {s t : Store} {a : α} : Hampered (next (.error e)) s a t → Hampered (.call c next) s a t

/-- A run of the program in which any mark may fail. The list holds the nodes whose marks have failed. -/
inductive Program.Strained {α : Type} : Program α → Store → List Int → α → Store → Prop where
  | done {a : α} {s : Store} : Strained (.done a) s [] a s
  | note {m : Measure} {next : Program α} {s t : Store} {failed : List Int} {a : α} :
      Strained next s failed a t → Strained (.note m next) s failed a t
  | call {c : Call} {next : Except StoreError c.Answer → Program α} {s t : Store}
      {failed : List Int} {a : α} :
      Strained (next (s.answer c).1) (s.answer c).2 failed a t → Strained (.call c next) s failed a t
  | failedMark {n : Int} {e : StoreError}
      {next : Except StoreError (Call.mark n).Answer → Program α} {s t : Store}
      {failed : List Int} {a : α} :
      Strained (next (.error e)) s failed a t → Strained (.call (.mark n) next) s (n :: failed) a t

namespace Program

variable {α β : Type} {s t : Store} {failed : List Int}

theorem hampered_run (p : Program α) (s : Store) :
    p.Hampered s (p.run Store.host s).1 (p.run Store.host s).2 := by
  induction p generalizing s with
  | done a => exact .done
  | note m next ih => exact .note (ih s)
  | call c next ih => exact .answered (ih _ _)

theorem Hampered.of_bind {p : Program α} {f : α → Program β} {b : β}
    (h : (p >>= f).Hampered s b t) : ∃ a u, p.Hampered s a u ∧ (f a).Hampered u b t := by
  change (p.bind f).Hampered s b t at h
  induction p generalizing s with
  | done a => exact ⟨a, s, .done, h⟩
  | note m next ih =>
      cases h with
      | note h =>
          obtain ⟨a, u, hp, hf⟩ := ih h
          exact ⟨a, u, .note hp, hf⟩
  | call c next ih =>
      cases h with
      | answered h =>
          obtain ⟨a, u, hp, hf⟩ := ih _ h
          exact ⟨a, u, .answered hp, hf⟩
      | failed h =>
          obtain ⟨a, u, hp, hf⟩ := ih _ h
          exact ⟨a, u, .failed hp, hf⟩

theorem Hampered.sound {p : Program α} {a : α} (h : p.Hampered s a t) (hs : s.Sound) : t.Sound := by
  induction h with
  | done => exact hs
  | note _ ih | failed _ ih => exact ih hs
  | @answered c _ _ _ _ _ ih => exact ih (hs.answer c)

theorem Hampered.sameFleet {p : Program α} {a : α} (h : p.Hampered s a t)
    (hp : p.Makes Call.Propagates) : s.SameFleet t := by
  induction h with
  | done => exact .refl _
  | note _ ih => exact ih hp
  | failed _ ih => exact ih (hp.2 _)
  | @answered c _ u _ _ _ ih => exact (hp.1.sameFleet u).trans (ih (hp.2 _))

theorem Hampered.version_le {p : Program α} {a : α} (h : p.Hampered s a t) (n : Int) :
    (s.version n).version ≤ (t.version n).version := by
  induction h with
  | done => exact le_rfl
  | note _ ih | failed _ ih => exact ih
  | @answered c _ u _ _ _ ih => exact (u.version_le_answer c n).trans ih

theorem Strained.hampered {p : Program α} {a : α} (h : p.Strained s failed a t) :
    p.Hampered s a t := by
  induction h with
  | done => exact .done
  | note _ ih => exact .note ih
  | call _ ih => exact .answered ih
  | failedMark _ ih => exact .failed ih

theorem Strained.of_bind {p : Program α} {f : α → Program β} {b : β}
    (h : (p >>= f).Strained s failed b t) :
    ∃ a u before after, failed = before ++ after ∧ p.Strained s before a u ∧
      (f a).Strained u after b t := by
  change (p.bind f).Strained s failed b t at h
  induction p generalizing s failed with
  | done a => exact ⟨a, s, [], failed, rfl, .done, h⟩
  | note m next ih =>
      cases h with
      | note h =>
          obtain ⟨a, u, before, after, rfl, hp, hf⟩ := ih h
          exact ⟨a, u, before, after, rfl, .note hp, hf⟩
  | call c next ih =>
      cases h with
      | call h =>
          obtain ⟨a, u, before, after, rfl, hp, hf⟩ := ih _ h
          exact ⟨a, u, before, after, rfl, .call hp, hf⟩
      | @failedMark n _ _ _ _ _ _ h =>
          obtain ⟨a, u, before, after, rfl, hp, hf⟩ := ih _ h
          exact ⟨a, u, n :: before, after, rfl, .failedMark hp, hf⟩

theorem strained_run (p : Program α) (s : Store) :
    p.Strained s [] (p.run Store.host s).1 (p.run Store.host s).2 := by
  induction p generalizing s with
  | done a => exact .done
  | note m next ih => exact .note (ih s)
  | call c next ih => exact .call (ih _ _)

theorem Strained.sound {p : Program α} {a : α} (h : p.Strained s failed a t) (hs : s.Sound) :
    t.Sound :=
  h.hampered.sound hs

theorem Strained.sameFleet {p : Program α} {a : α} (h : p.Strained s failed a t)
    (hp : p.Makes Call.Propagates) : s.SameFleet t :=
  h.hampered.sameFleet hp

theorem Strained.version_le {p : Program α} {a : α} (h : p.Strained s failed a t) (n : Int) :
    (s.version n).version ≤ (t.version n).version :=
  h.hampered.version_le n

/-- A program that marks nothing runs as it does alone. -/
theorem Strained.run {p : Program α} {a : α} (h : p.Strained s failed a t)
    (hp : p.Makes Call.Walks) : p.run Store.host s = (a, t) ∧ failed = [] := by
  induction h with
  | done => exact ⟨rfl, rfl⟩
  | note _ ih => exact ih hp
  | failedMark _ _ => exact hp.1.elim
  | call _ ih => exact ih (hp.2 _)

/-- Whatever marks fail, the program raises the version of the node, unless its own mark fails. -/
def Tries (p : Program α) (s : Store) (n : Int) : Prop :=
  ∀ failed a t, p.Strained s failed a t → n ∉ failed → (s.version n).version < (t.version n).version

end Program

/-- A faulty store that hears no measures. -/
def FaultyStore.host : Program.Host FaultyStore where
  answer := FaultyStore.answer
  hear _ s := s

namespace FaultyStore

@[simp] theorem store_count (s : FaultyStore) (c : Call) : (s.count c).store = s.store := by
  unfold count
  split <;> rfl

@[simp] theorem faults_count (s : FaultyStore) (c : Call) : (s.count c).faults = s.faults := by
  unfold count
  split <;> rfl

theorem answer_of_error {s : FaultyStore} {c : Call} {e : StoreError}
    (h : s.faults.error? c = some e) : answer c s = (.error e, s.count c) := by
  simp only [answer, faults_count, h]

theorem answer_of_none {s : FaultyStore} {c : Call} (h : s.faults.error? c = none) :
    answer c s = ((s.store.answer c).1, { s.count c with store := (s.store.answer c).2 }) := by
  simp only [answer, faults_count, store_count, h]

/-- Where no method fails as a whole, the faulty store fails marks only. -/
theorem answer_cases {s : FaultyStore} (hs : s.faults.methods = []) (c : Call) :
    (answer c s).2.faults = s.faults ∧
      ((answer c s).1 = (s.store.answer c).1 ∧ (answer c s).2.store = (s.store.answer c).2 ∨
        (answer c s).2.store = s.store ∧
          ∃ n e, c = .mark n ∧ (answer c s).1 = .error e ∧ n ∈ s.faults.marks) := by
  cases he : s.faults.error? c with
  | none =>
      rw [answer_of_none he]
      exact ⟨s.faults_count c, .inl ⟨rfl, rfl⟩⟩
  | some e =>
      rw [answer_of_error he]
      refine ⟨s.faults_count c, .inr ⟨s.store_count c, ?_⟩⟩
      simp only [Faults.error?, hs, List.lookup_nil] at he
      split at he
      · rename_i h
        cases h
      · rename_i n _
        refine ⟨n, e, rfl, rfl, ?_⟩
        split at he
        · rename_i hmem
          exact List.contains_iff_mem.1 hmem
        · cases he
      · cases he

end FaultyStore

/-- A store in hand answers a call as the store does, or fails it and is left as it was. -/
structure Program.Host.IsFaulty {σ : Type} (host : Host σ) (store : σ → Store) : Prop where
  hear : ∀ m x, store (host.hear m x) = store x
  answer : ∀ c x, (host.answer c x).1 = ((store x).answer c).1 ∧
      store (host.answer c x).2 = ((store x).answer c).2 ∨
    (∃ e, (host.answer c x).1 = .error e) ∧ store (host.answer c x).2 = store x

theorem Program.Host.IsFaulty.hampered {σ α : Type} {host : Host σ} {store : σ → Store}
    (h : host.IsFaulty store) (p : Program α) (x : σ) :
    p.Hampered (store x) (p.run host x).1 (store (p.run host x).2) := by
  induction p generalizing x with
  | done a => exact .done
  | note m next ih =>
      have hnext := ih (host.hear m x)
      rw [h.hear] at hnext
      exact .note hnext
  | call c next ih =>
      have hnext := ih (host.answer c x).1 (host.answer c x).2
      rcases h.answer c x with ⟨hanswer, hstore⟩ | ⟨⟨e, hanswer⟩, hstore⟩
      · rw [hstore] at hnext
        refine .answered ?_
        rw [← hanswer]
        exact hnext
      · rw [hstore] at hnext
        refine .failed (e := e) ?_
        rw [← hanswer]
        exact hnext

/-- The faulty store answers so by itself. -/
theorem FaultyStore.answer_faulty (c : Call) (s : FaultyStore) :
    (answer c s).1 = (s.store.answer c).1 ∧ (answer c s).2.store = (s.store.answer c).2 ∨
      (∃ e, (answer c s).1 = .error e) ∧ (answer c s).2.store = s.store := by
  cases he : s.faults.error? c with
  | none =>
      rw [answer_of_none he]
      exact .inl ⟨rfl, rfl⟩
  | some e =>
      rw [answer_of_error he]
      exact .inr ⟨⟨e, rfl⟩, s.store_count c⟩

theorem FaultyStore.host_isFaulty : Program.Host.IsFaulty host FaultyStore.store where
  hear _ _ := rfl
  answer := answer_faulty

theorem Program.hampered_of_faulty {α : Type} (p : Program α) (f : FaultyStore) :
    p.Hampered f.store (p.run FaultyStore.host f).1 (p.run FaultyStore.host f).2.store :=
  FaultyStore.host_isFaulty.hampered p f

theorem Program.strained_of_faulty {α : Type} {p : Program α} {s : FaultyStore}
    (hs : s.faults.methods = []) :
    ∃ failed, (∀ n ∈ failed, n ∈ s.faults.marks) ∧
      p.Strained s.store failed (p.run FaultyStore.host s).1 (p.run FaultyStore.host s).2.store := by
  induction p generalizing s with
  | done a => exact ⟨[], fun _ hn => (nomatch hn), .done⟩
  | note m next ih =>
      obtain ⟨failed, hmarks, h⟩ := ih hs
      exact ⟨failed, hmarks, .note h⟩
  | call c next ih =>
      obtain ⟨hfaults, hanswer⟩ := FaultyStore.answer_cases hs c
      obtain ⟨failed, hmarks, hnext⟩ :=
        ih (FaultyStore.answer c s).1 (s := (FaultyStore.answer c s).2) (hfaults ▸ hs)
      rw [hfaults] at hmarks
      rcases hanswer with ⟨h, hstore⟩ | ⟨hstore, n, e, rfl, h, hn⟩
      · refine ⟨failed, hmarks, .call ?_⟩
        rw [← h, ← hstore]
        exact hnext
      · refine ⟨n :: failed, List.forall_mem_cons.2 ⟨hn, hmarks⟩, .failedMark (e := e) ?_⟩
        rw [← h, ← hstore]
        exact hnext

/-! ## Actions -/

namespace Action

variable {α β : Type} {s t : Store} {a : Action α} {f : α → Action β}

/-- A hampered sequence ended in its first part, or went on to the second. -/
theorem hampered_bind {ε : Type} {a : ExceptT ε Program α} {f : α → ExceptT ε Program β}
    {r : Except ε β} (h : (a >>= f).run.Hampered s r t) :
    (∃ e, a.run.Hampered s (.error e) t ∧ r = .error e) ∨
      ∃ x u, a.run.Hampered s (.ok x) u ∧ (f x).run.Hampered u r t := by
  rw [ExceptT.run_bind] at h
  obtain ⟨o, u, ha, hf⟩ := h.of_bind
  cases o with
  | ok x => exact .inr ⟨x, u, ha, hf⟩
  | error e =>
      cases hf
      exact .inl ⟨e, ha, rfl⟩

theorem hampered_bind_ok {b : β} (h : (a >>= f).run.Hampered s (.ok b) t) :
    ∃ x u, a.run.Hampered s (.ok x) u ∧ (f x).run.Hampered u (.ok b) t := by
  rcases hampered_bind h with ⟨e, -, he⟩ | h
  · cases he
  · exact h

theorem hampered_check {c r : Except Failure α} (h : (check c).run.Hampered s r t) :
    c = r ∧ s = t := by
  cases h
  exact ⟨rfl, rfl⟩

theorem hampered_find {x : EntityRef} {r : Option Record}
    (h : (ask (.find x)).run.Hampered s (.ok r) t) : s = t ∧ s.find? x = r := by
  cases h with
  | answered h =>
      cases h
      exact ⟨rfl, rfl⟩
  | failed h => cases h

/-- A save either failed, or was followed by the rest. -/
theorem hampered_save {w : Record} {f : Int → Action β} {r : Except Failure β}
    (h : (ask (.save w) >>= f).run.Hampered s r t) :
    (s = t ∧ ∃ e, r = .error (.store e)) ∨
      ∃ id u, s.save w = .ok (id, u) ∧ (f id).run.Hampered u r t := by
  rw [run_ask_bind] at h
  cases h with
  | failed h =>
      cases h
      exact .inl ⟨rfl, _, rfl⟩
  | answered h =>
      cases hw : s.save w with
      | error e =>
          simp only [Store.answer, hw] at h
          cases h
          exact .inl ⟨rfl, _, rfl⟩
      | ok p =>
          simp only [Store.answer, hw] at h
          exact .inr ⟨p.1, p.2, rfl, h⟩

variable {failed : List Int}

/-- A strained sequence ended in its first part, or went on to the second. -/
theorem strained_bind {r : Except Failure β} (h : (a >>= f).run.Strained s failed r t) :
    (∃ e, a.run.Strained s failed (.error e) t ∧ r = .error e) ∨
      ∃ x u before after, failed = before ++ after ∧ a.run.Strained s before (.ok x) u ∧
        (f x).run.Strained u after r t := by
  rw [ExceptT.run_bind] at h
  obtain ⟨o, u, before, after, rfl, ha, hf⟩ := h.of_bind
  cases o with
  | ok x => exact .inr ⟨x, u, before, after, rfl, ha, hf⟩
  | error e =>
      cases hf
      rw [List.append_nil]
      exact .inl ⟨e, ha, rfl⟩

/-- A first part that only reads ends as it does alone. -/
theorem strained_reads {r : Except Failure β} (ha : a.run.Makes Call.Walks)
    (h : (a >>= f).run.Strained s failed r t) :
    ((s = t ∧ failed = []) ∧ ∃ e, on a s = (.error e, s)) ∨
      ∃ x, on a s = (.ok x, s) ∧ (f x).run.Strained s failed r t := by
  have hread : (on a s).2 = s := Program.run_of_isRead fun c hc => (ha.mem_calls c hc).isRead
  rcases strained_bind h with ⟨e, h, -⟩ | ⟨x, u, before, after, rfl, h, hf⟩
  · obtain ⟨hrun, hfailed⟩ := h.run ha
    change on a s = (.error e, t) at hrun
    rw [hrun] at hread
    subst hread
    exact .inl ⟨⟨rfl, hfailed⟩, e, hrun⟩
  · obtain ⟨hrun, rfl⟩ := h.run ha
    change on a s = (.ok x, u) at hrun
    rw [hrun] at hread
    subst hread
    exact .inr ⟨x, hrun, hf⟩

theorem strained_check {c : Except Failure α} {r : Except Failure β}
    (h : (check c >>= f).run.Strained s failed r t) :
    (s = t ∧ failed = []) ∨ ∃ x, c = .ok x ∧ (f x).run.Strained s failed r t := by
  rcases strained_reads (a := check c) trivial h with ⟨hsame, -⟩ | ⟨x, hx, h⟩
  · exact .inl hsame
  · exact .inr ⟨x, (of_on_check hx).1, h⟩

theorem strained_save {w : Record} {f : Int → Action β} {r : Except Failure β}
    (h : (ask (.save w) >>= f).run.Strained s failed r t) :
    (s = t ∧ failed = []) ∨
      ∃ id u, s.save w = .ok (id, u) ∧ (f id).run.Strained u failed r t := by
  rw [run_ask_bind] at h
  cases h with
  | call h =>
      cases hw : s.save w with
      | error e =>
          simp only [Store.answer, hw] at h
          cases h
          exact .inl ⟨rfl, rfl⟩
      | ok p =>
          simp only [Store.answer, hw] at h
          exact .inr ⟨p.1, p.2, rfl, h⟩

theorem strained_map {g : α → β} {r : Except Failure β} (h : (g <$> a).run.Strained s failed r t) :
    ∃ o, a.run.Strained s failed o t := by
  rw [← bind_pure_comp] at h
  rcases strained_bind h with ⟨e, h, -⟩ | ⟨x, u, before, after, rfl, h, hp⟩
  · exact ⟨_, h⟩
  · cases hp
    rw [List.append_nil]
    exact ⟨_, h⟩

theorem tries_bind {n : Int} (h : a.run.Tries s n) : (a >>= f).run.Tries s n := by
  intro failed r t hrun hn
  rcases strained_bind hrun with ⟨e, ha, -⟩ | ⟨x, u, before, after, rfl, ha, hf⟩
  · exact h _ _ _ ha hn
  · exact lt_of_lt_of_le (h _ _ _ ha fun hmem => hn (List.mem_append_left _ hmem))
      (hf.version_le n)

end Action

/-! ## Propagations whose marks fail -/

open Fleet.Action

section

variable {s t : Store} {n : Int} {failed : List Int}

/-- The nodes of the list whose marks did not fail are raised, and no others; without a failure there is
no new error. -/
theorem strained_markAll {l : List Int} (hl : l.Nodup) {report : Report} {error : Option StoreError}
    {o : Except Failure (Report × Option StoreError)}
    (h : (markAll l report error).run.Strained s failed o t) :
    (∀ n ∈ failed, n ∈ l) ∧
      (∀ n ∈ l, n ∉ failed → (s.version n).version < (t.version n).version) ∧
      (∀ n, (n ∈ l → n ∈ failed) → t.version n = s.version n) ∧
      ∃ report', ∃ error' : Option StoreError, o = .ok (report', error') ∧
        (failed = [] → error' = error) := by
  induction l generalizing s failed report error with
  | nil =>
      cases h
      exact ⟨fun _ hn => hn, fun _ hn => absurd hn List.not_mem_nil, fun _ _ => rfl, _, _, rfl,
        fun _ => rfl⟩
  | cons m l ih =>
      obtain ⟨hm, hl⟩ := List.nodup_cons.1 hl
      change (Program.call (.mark m) _).Strained s failed o t at h
      cases h with
      | call h =>
          have hrest : (markAll l { report with marked := report.marked.add m } error).run.Strained
              (s.mark m) failed o t := h
          obtain ⟨hfailed, hraised, hkept, hend⟩ := ih hl hrest
          refine ⟨fun n hn => List.mem_cons_of_mem _ (hfailed n hn), fun n hn hnot => ?_,
            fun n hn => ?_, hend⟩
          · rcases List.mem_cons.1 hn with rfl | hn
            · refine lt_of_lt_of_le ?_ (hrest.version_le n)
              rw [Store.version_mark, if_pos rfl]
              exact Nat.lt_succ_self _
            · exact lt_of_le_of_lt (s.version_le_answer (.mark m) n) (hraised n hn hnot)
          · have hnm : n ≠ m := by
              rintro rfl
              exact hm (hfailed n (hn List.mem_cons_self))
            rw [hkept n fun hmem => hn (List.mem_cons_of_mem _ hmem), Store.version_mark, if_neg hnm]
      | @failedMark _ e _ _ _ failed _ h =>
          cases h with
          | note h =>
              have hrest : (markAll l { report with failed := report.failed.add m }
                  (error.or (some e))).run.Strained s failed o t := h
              obtain ⟨hfailed, hraised, hkept, report', error', ho, -⟩ := ih hl hrest
              refine ⟨fun n hn => ?_, fun n hn hnot => ?_, fun n hn => hkept n fun hmem => ?_,
                report', error', ho, nofun⟩
              · exact List.mem_cons.2 ((List.mem_cons.1 hn).imp_right (hfailed n))
              · obtain ⟨hnm, hnot⟩ := not_or.1 (List.mem_cons.not.1 hnot)
                exact hraised n (List.mem_of_ne_of_mem hnm hn) hnot
              · have hnm : n ≠ m := by
                  rintro rfl
                  exact hm hmem
                exact List.mem_of_ne_of_mem hnm (hn (List.mem_cons_of_mem _ hmem))

/-- Whatever marks fail, a propagation raises every other node that the entity reaches, and no more. It
ends well if none of them fails. -/
theorem strained_notify (hs : s.Sound) {x : EntityRef} (hx : 0 < x.id) {o : Except Failure Report}
    (h : (notify x).run.Strained s failed o t) :
    (∀ n ∈ failed, s.Reaches x n) ∧
      (∀ n, s.Reaches x n → n ∉ failed → (s.version n).version < (t.version n).version) ∧
      (∀ n, (s.Reaches x n → n ∈ failed) → t.version n = s.version n) ∧
      (failed = [] → ∃ report, o = .ok report) := by
  have hid : requireId "id" x.id = .ok () := by rw [requireId, if_neg (by omega)]
  obtain ⟨nodes, hnodes, hreach⟩ := on_affectedNodes hs x
  have hnodup : nodes.toList.Nodup := OrdMap.keys_nodup nodes
  unfold notify at h
  rw [hid] at h
  rcases strained_reads (makes_affectedNodes x) h with ⟨-, e, he⟩ | ⟨nodes', hnodes', h⟩
  · rw [hnodes] at he
    cases he
  rw [hnodes] at hnodes'
  cases hnodes'
  simp only [← hreach, ← OrdSet.mem_toList (s := nodes)]
  rcases strained_bind h with ⟨e, h, -⟩ | ⟨⟨report, error⟩, u, before, after, rfl, hmarks, h⟩
  · obtain ⟨-, -, -, _, _, ho, -⟩ := strained_markAll hnodup h
    cases ho
  obtain ⟨hfailed, hraised, hkept, _, _, ho, herror⟩ := strained_markAll hnodup hmarks
  cases ho
  obtain ⟨rfl, rfl, hend⟩ : u = t ∧ after = [] ∧ (error = none → ∃ report, o = .ok report) := by
    cases h with
    | note h =>
        cases error <;> cases h
        · exact ⟨rfl, rfl, fun _ => ⟨_, rfl⟩⟩
        · exact ⟨rfl, rfl, fun hnone => absurd hnone (Option.some_ne_none _)⟩
  rw [List.append_nil]
  exact ⟨hfailed, hraised, hkept, fun hnone => hend (herror hnone)⟩

theorem tries_notify (hs : s.Sound) {x : EntityRef} (hx : 0 < x.id) (h : s.Reaches x n) :
    (notify x).run.Tries s n := fun _ _ _ hrun hn => (strained_notify hs hx hrun).2.1 n h hn

theorem tries_notifyOf (hs : s.Sound) {x : EntityRef} (hx : 0 < x.id) (h : s.Reaches x n) :
    (notifyOf x).run.Tries s n := tries_bind (tries_notify hs hx h)

theorem notify_of_notifyOf {x : EntityRef} {o : Except Failure Outcome}
    (h : (notifyOf x).run.Strained s failed o t) :
    ∃ r : Except Failure Report, (notify x).run.Strained s failed r t ∧ r.isOk = o.isOk := by
  rcases strained_bind h with ⟨e, hnotify, rfl⟩ | ⟨report, u, before, after, rfl, hnotify, hp⟩
  · exact ⟨_, hnotify, rfl⟩
  · cases hp
    rw [List.append_nil]
    exact ⟨_, hnotify, rfl⟩

/-- A propagation that fails has failed to mark a node that the entity reaches. -/
theorem exists_failed_of_notifyOf (hs : s.Sound) {x : EntityRef} (hx : 0 < x.id) {e : Failure}
    (h : (notifyOf x).run.Strained s failed (.error e) t) : ∃ n ∈ failed, s.Reaches x n := by
  obtain ⟨r, hnotify, hok⟩ := notify_of_notifyOf h
  obtain ⟨hfailed, -, -, hend⟩ := strained_notify hs hx hnotify
  cases failed with
  | nil =>
      obtain ⟨report, rfl⟩ := hend rfl
      cases hok
  | cons n failed => exact ⟨n, List.mem_cons_self, hfailed n List.mem_cons_self⟩

end

/-! ## The same fleet, but for the order of groups -/

/-- The record, a group without its order. -/
def Record.unranked : Record → Record
  | .serverGroup g => .serverGroup { g with order := 0 }
  | r => r

namespace Store

variable {s t u : Store} {n : Int}

/-- The stores have the same records, but for the order of groups. -/
def SameUnranked (s t : Store) : Prop :=
  ∀ y, (t.find? y).map Record.unranked = (s.find? y).map Record.unranked

theorem SameUnranked.refl (s : Store) : s.SameUnranked s := fun _ => rfl

theorem SameUnranked.trans (h : s.SameUnranked t) (h' : t.SameUnranked u) : s.SameUnranked u :=
  fun y => (h' y).trans (h y)

theorem SameFleet.sameUnranked (h : s.SameFleet t) : s.SameUnranked t :=
  fun y => congrArg _ (h.find?_eq y)

theorem SameUnranked.exists_find {y : EntityRef} {r : Record} (h : s.SameUnranked t)
    (hr : s.find? y = some r) : ∃ r', t.find? y = some r' ∧ r'.unranked = r.unranked := by
  have hy := h y
  rw [hr, Option.map_some, Option.map_eq_some_iff] at hy
  exact hy

theorem unranked_node {r : Record} {a : Node} (h : r.unranked = (Record.node a).unranked) :
    r = .node a := by
  cases r <;> cases h
  rfl

theorem edges_of_unranked {r r' : Record} (h : r'.unranked = r.unranked) : r'.edges = r.edges := by
  have key (r : Record) : r.unranked.edges = r.edges := by cases r <;> rfl
  rw [← key, h, key]

theorem isEnabled_of_unranked {r r' : Record} (h : r'.unranked = r.unranked) :
    r'.isEnabled = r.isEnabled := by
  have key (r : Record) : r.unranked.isEnabled = r.isEnabled := by cases r <;> rfl
  rw [← key, h, key]

/-- What an entity reaches, it reaches wherever the same records are stored, but for the order of
groups. -/
theorem Reaches.mono (hs : s.Sound) (ht : t.Sound)
    (h : ∀ {y r}, s.find? y = some r → ∃ r', t.find? y = some r' ∧ r'.unranked = r.unranked)
    {x : EntityRef} (hx : s.Reaches x n) : t.Reaches x n := by
  induction hx with
  | @here x n hn =>
      refine .here ?_
      unfold direct at hn ⊢
      split at hn
      · split at hn
        · rename_i hx
          obtain ⟨r, hr⟩ := Option.isSome_iff_exists.1 hx
          obtain ⟨r', hr', -⟩ := h hr
          simpa [hr'] using hn
        · cases hn
      · obtain ⟨a, ha, hk, he⟩ := (mem_enabledNodes hs).1 hn
        obtain ⟨r', hr', hu⟩ := h ha
        obtain rfl := unranked_node hu
        exact (mem_enabledNodes ht).2 ⟨a, hr', hk, he⟩
      · cases hn
  | @above x p n hp _ ih =>
      refine .above ?_ ih
      have hheight := height_lt_of_mem_above hs hp
      rw [above_of_height_lt hheight] at hp ⊢
      obtain ⟨⟨y, r, hr, he⟩, hon⟩ := (mem_parentsOf hs).1 hp
      obtain ⟨q, hq, hqon⟩ := isEnabled_iff.1 hon
      obtain ⟨r', hr', hu⟩ := h hr
      obtain ⟨q', hq', hv⟩ := h hq
      exact (mem_parentsOf ht).2 ⟨⟨y, r', hr', by rwa [edges_of_unranked hu]⟩,
        isEnabled_iff.2 ⟨q', hq', by rwa [isEnabled_of_unranked hv]⟩⟩

theorem SameUnranked.reaches (hs : s.Sound) (ht : t.Sound) (h : s.SameUnranked t) {x : EntityRef}
    (hx : s.Reaches x n) : t.Reaches x n := hx.mono hs ht h.exists_find

/-- A record under a new id leaves what is reached already. -/
theorem ChangedAt.reaches_of_fresh (hs : s.Sound) (ht : t.Sound) {x y : EntityRef}
    (hx : s.ChangedAt t x) (hfresh : s.find? x = none) (h : s.Reaches y n) : t.Reaches y n := by
  refine h.mono hs ht fun {z r} hr => ⟨r, ?_, rfl⟩
  rw [hx.frame z, hr]
  rintro rfl
  rw [hfresh] at hr
  cases hr

end Store

end Fleet
