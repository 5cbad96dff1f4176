import Fleet.Proofs.Store.Linked

/-!
# Marks that are refused

A propagation over a store that refuses the marks of some nodes. The walk before the marks does not
notice, and the marks go on after one that was refused: every other node that the walk found is marked
once, and the first refusal is the outcome.
-/

namespace Fleet

open Fleet.Action

/-! ## Sets of numbers -/

namespace OrdSet

theorem toList_ascending (nodes : OrdSet Int) : nodes.toList.Pairwise (· < ·) :=
  (OrdMap.keys_ascending nodes).imp compare_lt_iff_lt.1

theorem eq_of_toList_eq {nodes nodes' : OrdSet Int} (h : nodes.toList = nodes'.toList) :
    nodes = nodes' := by
  have hentries (l : OrdSet Int) : l.entries = l.toList.map fun n => (n, ()) := by
    rw [toList, OrdMap.keys, List.map_map]
    exact (List.map_id' _).symm
  refine OrdMap.ext ?_
  rw [hentries nodes, hentries nodes', h]

theorem eq_of_mem_iff {nodes nodes' : OrdSet Int} (h : ∀ n, n ∈ nodes ↔ n ∈ nodes') :
    nodes = nodes' :=
  eq_of_toList_eq (nodes.toList_ascending.eq_of_mem_iff nodes'.toList_ascending h)

end OrdSet

/-! ## Stores that refuse marks -/

/-- A store that refuses the marks of some nodes without a change, its measures unheard. -/
def Store.refusing (refusal : Int → Option StoreError) : Program.Host Store where
  answer
    | .mark n, s =>
      match refusal n with
      | some e => (.error e, s)
      | none => s.answer (.mark n)
    | c, s => s.answer c
  hear _ s := s

variable {α β : Type} {s t : Store} {refusal : Int → Option StoreError}

/-- A program without marks runs as on a store that refuses none. -/
theorem Program.Makes.run_refusing {p : Program α} (hp : p.Makes Call.Walks) :
    p.run (Store.refusing refusal) s = p.run Store.host s := by
  induction p generalizing s with
  | done a => rfl
  | note m next ih => exact ih hp
  | call c next ih =>
      have hanswer : (Store.refusing refusal).answer c s = s.answer c := by
        have hwalks := hp.1
        cases c <;> first | rfl | exact hwalks.elim
      simp only [Program.run, hanswer]
      exact ih _ (hp.2 _)

/-- The marks that are not refused are made, and the first refusal is kept. -/
theorem run_markAll_refusing (l : List Int) (report : Report) (error : Option StoreError) :
    (markAll l report error).run.run (Store.refusing refusal) s
      = (.ok ({ marked := (l.filter (refusal · |>.isNone)).foldl OrdSet.add report.marked
                failed := (l.filter (refusal · |>.isSome)).foldl OrdSet.add report.failed },
            error.or (l.findSome? refusal)),
          (l.filter (refusal · |>.isNone)).foldl Store.mark s) := by
  induction l generalizing s report error with
  | nil => simp [markAll]
  | cons n l ih =>
      have hmark : (try_ (.mark n)).run.run (Store.refusing refusal) s
          = (.ok ((Store.refusing refusal).answer (.mark n) s).1,
              ((Store.refusing refusal).answer (.mark n) s).2) := rfl
      rw [markAll, run_bind_ok hmark]
      cases hrefusal : refusal n with
      | none =>
          have hanswer : (Store.refusing refusal).answer (.mark n) s = s.answer (.mark n) := by
            simp only [Store.refusing, hrefusal]
          rw [hanswer]
          simp only [Store.answer]
          rw [ih]
          simp [hrefusal]
      | some e =>
          have hanswer : (Store.refusing refusal).answer (.mark n) s = (.error e, s) := by
            simp only [Store.refusing, hrefusal]
          have hnote : (note (.count .markFailures 1)).run.run (Store.refusing refusal) s
              = (.ok (), s) := rfl
          rw [hanswer]
          dsimp only
          rw [run_bind_ok hnote, ih]
          simp [hrefusal]

/-- Every node of a list without repetitions is marked once. -/
theorem Store.version_foldl_mark {l : List Int} (hl : l.Nodup) (s : Store) (n : Int) :
    (l.foldl mark s).version n = if n ∈ l then (s.version n).mark else s.version n := by
  induction l generalizing s with
  | nil => rfl
  | cons m l ih =>
      obtain ⟨hm, hl⟩ := List.nodup_cons.1 hl
      rw [List.foldl_cons, ih hl, version_mark]
      by_cases hnm : n = m
      · subst hnm
        simp [hm]
      · simp [hnm]

/-- The first refusal along an ascending list is that of the least node that is refused. -/
theorem exists_least_of_findSome? {l : List Int} (hl : l.Pairwise (· < ·)) {e : StoreError}
    (h : l.findSome? refusal = some e) :
    ∃ n ∈ l, refusal n = some e ∧ ∀ m ∈ l, refusal m ≠ none → n ≤ m := by
  obtain ⟨before, n, after, rfl, hn, hbefore⟩ := List.findSome?_eq_some_iff.1 h
  refine ⟨n, by simp, hn, fun m hm hrefused => ?_⟩
  rcases List.mem_append.1 hm with hm | hm
  · exact absurd (hbefore m hm) hrefused
  · rcases List.mem_cons.1 hm with rfl | hm
    · exact le_rfl
    · exact ((List.pairwise_cons.1 (List.pairwise_append.1 hl).2.1).1 m hm).le

/-- The propagation, once the nodes are known. -/
theorem run_notify_refusing {x : EntityRef} (hx : 0 < x.id) {nodes : OrdSet Int}
    (hnodes : on (affectedNodes x) s = (.ok nodes, s)) :
    (notify x).run.run (Store.refusing refusal) s
      = (match nodes.toList.findSome? refusal with
          | some e => .error (.store e)
          | none => .ok {
              marked := (nodes.toList.filter (refusal · |>.isNone)).foldl OrdSet.add .empty
              failed := (nodes.toList.filter (refusal · |>.isSome)).foldl OrdSet.add .empty },
        (nodes.toList.filter (refusal · |>.isNone)).foldl Store.mark s) := by
  have hcheck : (check (requireId "id" x.id)).run.run (Store.refusing refusal) s = (.ok (), s) := by
    rw [requireId, if_neg (by omega)]
    rfl
  have hwalk : (affectedNodes x).run.run (Store.refusing refusal) s = (.ok nodes, s) :=
    (makes_affectedNodes x).run_refusing.trans hnodes
  rw [notify, run_bind_ok hcheck, run_bind_ok hwalk, run_bind_ok (run_markAll_refusing ..)]
  cases nodes.toList.findSome? refusal <;> rfl

/-- Whatever nodes refuse their marks, a propagation marks every other node that the walk finds, once,
and changes nothing else. It ends well, with the nodes that the walk found, exactly if none of them
refuses; else with the refusal of the least one that does. -/
theorem notify_despite_refusals (h : s.Reachable) {x : EntityRef} (hx : 0 < x.id)
    (refusal : Int → Option StoreError) :
    ∃ (nodes : OrdSet Int) (outcome : Except Failure Report) (t : Store),
      on (affectedNodes x) s = (.ok nodes, s) ∧
      (notify x).run.run (Store.refusing refusal) s = (outcome, t) ∧ s.SameFleet t ∧
      (∀ n ∈ nodes, refusal n = none → t.version n = (s.version n).mark) ∧
      (∀ n, ¬(n ∈ nodes ∧ refusal n = none) → t.version n = s.version n) ∧
      ((∀ n ∈ nodes, refusal n = none) → outcome = .ok { marked := nodes }) ∧
      ((∃ n ∈ nodes, refusal n ≠ none) → ∃ n ∈ nodes, ∃ e, refusal n = some e ∧
        (∀ m ∈ nodes, refusal m ≠ none → n ≤ m) ∧ outcome = .error (.store e)) := by
  obtain ⟨nodes, hnodes, -⟩ := on_affectedNodes h.sound x
  have hnodup : (nodes.toList.filter (refusal · |>.isNone)).Nodup :=
    (OrdMap.keys_nodup nodes).filter _
  have hmem (n : Int) : n ∈ nodes.toList.filter (refusal · |>.isNone) ↔
      n ∈ nodes ∧ refusal n = none := by
    rw [List.mem_filter, OrdSet.mem_toList, Option.isNone_iff_eq_none]
  refine ⟨nodes, _, _, hnodes, run_notify_refusing hx hnodes, Store.sameFleet_foldl_mark s _,
    fun n hn hgranted => ?_, fun n hn => ?_, fun hgranted => ?_, fun hrefused => ?_⟩
  · rw [Store.version_foldl_mark hnodup, if_pos ((hmem n).2 ⟨hn, hgranted⟩)]
  · rw [Store.version_foldl_mark hnodup, if_neg fun h => hn ((hmem n).1 h)]
  · have hnone : nodes.toList.findSome? refusal = none :=
      List.findSome?_eq_none_iff.2 fun n hn => hgranted n hn
    have hmarked : (nodes.toList.filter (refusal · |>.isNone)).foldl OrdSet.add .empty = nodes := by
      refine OrdSet.eq_of_mem_iff fun n => ?_
      rw [OrdSet.mem_foldl_add, hmem]
      simpa using hgranted n
    have hfailed : nodes.toList.filter (refusal · |>.isSome) = [] :=
      List.filter_eq_nil_iff.2 fun n hn => by simp [hgranted n hn]
    rw [hnone, hmarked, hfailed]
    rfl
  · obtain ⟨n, hn, hne⟩ := hrefused
    cases hfirst : nodes.toList.findSome? refusal with
    | none => exact absurd (List.findSome?_eq_none_iff.1 hfirst n hn) hne
    | some e =>
        obtain ⟨m, hm, he, hleast⟩ := exists_least_of_findSome? nodes.toList_ascending hfirst
        exact ⟨m, hm, e, he, hleast, rfl⟩

/-- A proxy that two groups of one server name, in a cluster of three nodes. -/
def Store.twoWays : Store :=
  let proxy : RefText := ⟨"\x7b\"reverseProxyId\":7\x7d"⟩
  (Store.empty.loadSeed {
    clusters := [{ id := 1 }]
    nodes := [{ id := 10, clusterId := 1 }, { id := 11, clusterId := 1 }, { id := 12, clusterId := 1 }]
    servers := [{ id := 20, clusterId := 1, groupIds := ⟨"[4,5]"⟩ }]
    groups := [{ id := 4, httpReverseProxy := proxy }, { id := 5, tcpReverseProxy := proxy }]
    reverseProxies := [{ id := 7 }] }).2

/-- Every node but the first refuses. -/
def Store.refusesLater (n : Int) : Option StoreError :=
  if n = 10 then none else some (.query (Text.intText n))

theorem notify_despite_refusals_later_nodes :
    Store.twoWays.Reachable ∧ 0 < (⟨.reverseProxy, 7⟩ : EntityRef).id ∧
      ∃ t, (notify ⟨.reverseProxy, 7⟩).run.run (Store.refusing Store.refusesLater) .twoWays
          = (.error (.store (.query (Text.intText 11))), t) ∧
        t.version 10 = { version := 1 } ∧ t.version 11 = {} ∧ t.version 12 = {} := by
  have hreach : Store.twoWays.Reachable := .seed _ .empty
  have hpos : 0 < (⟨.reverseProxy, 7⟩ : EntityRef).id := by decide
  obtain ⟨nodes, outcome, t, hnodes, hrun, -, hraised, hkept, -, hrefused⟩ :=
    notify_despite_refusals hreach hpos Store.refusesLater
  have hlist : (on (affectedNodes ⟨.reverseProxy, 7⟩) .twoWays).1.map OrdSet.toList
      = .ok [10, 11, 12] := by decide +kernel
  have hmem (n : Int) : n ∈ nodes ↔ n ∈ [10, 11, 12] := by
    rw [hnodes] at hlist
    rw [← OrdSet.mem_toList, Except.ok.inj hlist]
  have hversion (n : Int) (hn : n ∈ [10, 11, 12]) : Store.twoWays.version n = {} := by
    revert n
    decide +kernel
  obtain ⟨n, hn, e, he, hleast, rfl⟩ := hrefused ⟨11, (hmem 11).2 (by decide), by decide⟩
  obtain rfl : n = 11 := by
    have hle := hleast 11 ((hmem 11).2 (by decide)) (by decide)
    have hcases := (hmem n).1 hn
    simp only [List.mem_cons, List.not_mem_nil, or_false] at hcases
    rcases hcases with rfl | rfl | rfl
    · exact absurd he nofun
    · rfl
    · exact absurd hle (by decide)
  cases he
  refine ⟨hreach, hpos, t, hrun, ?_, ?_, ?_⟩
  · rw [hraised 10 ((hmem 10).2 (by decide)) rfl, hversion 10 (by decide)]
    rfl
  · rw [hkept 11 (fun h => nomatch h.2), hversion 11 (by decide)]
  · rw [hkept 12 (fun h => nomatch h.2), hversion 12 (by decide)]

end Fleet
