import Fleet.Proofs.Composition.Complete
import Fleet.Proofs.Mutation.Widths
import Fleet.Proofs.Store.Latest

/-!
# Servers after their groups were ordered

Where a list of groups is ordered without a failure, all of its groups have the orders of their places,
and nothing else that is stored has changed. Servers rank their groups by order, so from then on each of
them ships the listed groups in the order of the list.
-/

namespace Fleet

open Fleet.Action

variable {s t : Store} {ids : List Int} {v : Json.Number.View}

/-! ## What is stored -/

/-- A list of groups that is ordered without a failure has been written whole. -/
theorem rankedTo_of_on (hs : s.Sound) {report : Report}
    (h : on (orderGroups ids) s = (.ok report, t)) :
    ids.length ≤ 2147483647 ∧ s.RankedTo ids ids.length t := by
  by_cases hlen : ids.length ≤ 2147483647
  · have hrun := (orderGroups ids).run.hampered_run s
    change (orderGroups ids).run.Hampered s (on (orderGroups ids) s).1 (on (orderGroups ids) s).2 at hrun
    rw [h, orderGroups_eq hlen] at hrun
    obtain ⟨groups, u, hread, hrank⟩ := hampered_bind_ok hrun
    obtain ⟨rfl, rfl, hstored, hnodup, -⟩ := hampered_readGroups hs hread
    obtain ⟨k, -, hranked, hall⟩ := hampered_rankGroups hs hrank hstored hnodup
    obtain rfl : k = groups.length := hall report rfl
    rw [← List.length_map (·.id)] at hranked
    exact ⟨hlen, hranked⟩
  · rw [orderGroups, if_pos (by omega)] at h
    cases h

namespace Store

/-- An order is no part of an edge. -/
theorem RankedTo.edges_eq (h : s.RankedTo ids ids.length t) (x : EntityRef) :
    (t.find? x).map Record.edges = (s.find? x).map Record.edges := by
  rcases h.find?_cases x with hsame | ⟨i, g, -, -, hg, ht⟩
  · rw [hsame]
  · rw [hg, ht]
    rfl

end Store

/-! ## What is shipped -/

/-- The servers that a config ships: the server itself, or those of the node. -/
def Config.servers : Config → List ServerConfig
  | .server c => [c]
  | .node c => c.servers
  | _ => []

theorem Config.Complete.servers {c : Config} (h : c.Complete v s) : ∀ a ∈ c.servers, a.Complete v s := by
  cases c with
  | server c =>
      rintro a ha
      obtain rfl := List.mem_singleton.1 ha
      exact h
  | node c =>
      obtain ⟨r, -, hshows⟩ := h
      exact hshows.serversComplete
  | cluster _ | serverGroup _ | reverseProxy _ | origin _ => exact fun a ha => absurd ha List.not_mem_nil

/-- A group is shipped with the order of its place in the list. -/
theorem ServerGroupConfig.Complete.order_eq {c : ServerGroupConfig} (hc : c.Complete v t)
    (h : s.RankedTo ids ids.length t) {i : Nat} (hi : ids[i]? = some c.id) :
    c.order = ids.length - i := by
  obtain ⟨r, ⟨hr, -⟩, hshows⟩ := hc
  obtain ⟨hlt, -⟩ := List.getElem?_eq_some_iff.1 hi
  obtain ⟨g, -, hg⟩ := h.written i c.id hlt hi
  have href : (Record.serverGroup r).ref = ⟨.serverGroup, c.id⟩ := by
    rw [hshows.id]
    rfl
  rw [href, hg] at hr
  cases hr
  exact hshows.order

/-- The listed groups of the server stand in the order of the list. -/
def ServerConfig.Follows (ids : List Int) (c : ServerConfig) : Prop :=
  c.groups.Pairwise fun a b => ∀ i j : Nat, ids[i]? = some a.id → ids[j]? = some b.id → i ≤ j

theorem ServerConfig.Complete.follows {c : ServerConfig} (hc : c.Complete v t)
    (h : s.RankedTo ids ids.length t) : c.Follows ids := by
  obtain ⟨r, -, hshows⟩ := hc
  refine hshows.decreasing.imp_of_mem fun {a b} ha hb hab i j hi hj => ?_
  rw [(hshows.groupsComplete a ha).order_eq h hi, (hshows.groupsComplete b hb).order_eq h hj] at hab
  omega

/-- After a list of groups was ordered, each of them has the order of its place, counted from the end,
and is otherwise as it was; so is every other record, and so is the index. And whatever is composed then,
each server in it ships those of its groups that are listed in the order of the list. -/
theorem orderGroups_ships (h : s.Reachable) (hwidths : s.InWidths) {report : Report}
    (hrun : on (orderGroups ids) s = (.ok report, t)) :
    (∀ (i : Nat) (id : Int), ids[i]? = some id → ∃ g,
        s.find? ⟨.serverGroup, id⟩ = some (.serverGroup g) ∧
          t.find? ⟨.serverGroup, id⟩ = some (.serverGroup { g with order := ids.length - i })) ∧
      (∀ x, (∀ id ∈ ids, x ≠ ⟨.serverGroup, id⟩) → t.find? x = s.find? x) ∧
      t.index = s.index ∧
      ∀ target c, (on (composeFresh target) t).1 = .ok (some c) →
        ∀ server ∈ c.servers, server.Follows ids := by
  obtain ⟨hlen, hranked⟩ := rankedTo_of_on h.sound hrun
  have ht : t.Reachable := by
    have hlast : ((Mutation.orderGroups ids).action.on s).2 = t := congrArg Prod.snd hrun
    rw [← hlast]
    exact .mutation _ h
  refine ⟨fun i id hi => ?_, fun x hx => hranked.frame x ?_, ?_, fun target c hc server hserver => ?_⟩
  · exact hranked.written i id (List.getElem?_eq_some_iff.1 hi).1 hi
  · rwa [List.take_length]
  · exact ht.sound.index_eq h.sound ht.tidy h.tidy hranked.edges_eq
  · obtain ⟨n, hsuits⟩ := Store.exists_suits (hranked.inWidths hlen hwidths)
    obtain ⟨-, hall⟩ := composeFresh_of_suits ht.sound hsuits hc
    obtain ⟨-, -, hcomplete⟩ := hall c rfl
    exact (hcomplete.servers server hserver).follows hranked

/-- A server on a node names three groups, one of them of order 2. -/
def Seed.ranked : Seed where
  clusters := [{ id := 1 }]
  nodes := [{ id := 7, clusterId := 1 }]
  servers := [{ id := 5, clusterId := 1, groupIds := ⟨"[4,8,3]"⟩ }]
  groups := [{ id := 3 }, { id := 4, order := 9 }, { id := 8, order := 2 }]

theorem orderGroups_ships_ranked :
    (Store.empty.loadSeed .ranked).2.Reachable ∧
      (Store.empty.loadSeed .ranked).2.InWidths ∧
      ∃ report t c, on (orderGroups [3, 4]) (Store.empty.loadSeed .ranked).2 = (.ok report, t) ∧
        t.find? ⟨.serverGroup, 4⟩ = some (.serverGroup { id := 4, order := 1 }) ∧
        (on (composeFresh ⟨.node, 7⟩) t).1 = .ok (some c) ∧ c.servers.map (·.id) = [5] ∧
        ∀ a ∈ c.servers, a.Follows [3, 4] := by
  have hreach : (Store.empty.loadSeed .ranked).2.Reachable := .seed _ .empty
  have hwidths : (Store.empty.loadSeed .ranked).2.InWidths := by
    refine Store.inWidths_empty.loadSeed Store.sound_empty ?_
    simp [Seed.records, Seed.ranked, Record.Fits, Text.fitsInt64, Text.minInt64, Text.maxInt64]
  have hok : (on (orderGroups [3, 4]) (Store.empty.loadSeed .ranked).2).1.isOk = true := by
    decide +kernel
  have hfour : (Store.empty.loadSeed .ranked).2.find? ⟨.serverGroup, 4⟩
      = some (.serverGroup { id := 4, order := 9 }) := by decide +kernel
  have hshipped : (on (composeFresh ⟨.node, 7⟩)
      (on (orderGroups [3, 4]) (Store.empty.loadSeed .ranked).2).2).1.toOption.map
        (Option.map fun c => c.servers.map (·.id)) = some (some [5]) := by decide +kernel
  cases hrun : on (orderGroups [3, 4]) (Store.empty.loadSeed .ranked).2 with
  | mk o t =>
      rw [hrun] at hok hshipped
      cases o with
      | error e => cases hok
      | ok report =>
          obtain ⟨hwritten, -, -, hfollows⟩ := orderGroups_ships hreach hwidths hrun
          obtain ⟨g, hg, hranked⟩ := hwritten 1 4 rfl
          rw [hfour] at hg
          cases hg
          cases ho : (on (composeFresh ⟨.node, 7⟩) t).1 with
          | error e =>
              rw [ho] at hshipped
              cases hshipped
          | ok o =>
              rw [ho] at hshipped
              obtain ⟨c, rfl, hids⟩ := Option.map_eq_some_iff.1 (Option.some.inj hshipped)
              exact ⟨hreach, hwidths, report, t, c, rfl, hranked, ho, hids, hfollows _ c ho⟩

end Fleet
