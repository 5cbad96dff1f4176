import Fleet.Store.Program

/-!
# A store that may fail

The store behind a connection that may break: calls of some methods, and marks of some nodes, fail
without reaching it. The reads that were tried are counted.
-/

namespace Fleet

structure Faults where
  methods : List (Call.Method × StoreError) := []
  /-- The nodes that cannot be marked. -/
  marks : List Int := []
deriving DecidableEq, Repr, Inhabited

namespace Faults

/-- The calls of a method fail from now on. -/
def failMethod (f : Faults) (m : Call.Method) (e : StoreError) : Faults :=
  { f with methods := (m, e) :: f.methods }

/-- The failure of a call, if it fails. -/
def error? (f : Faults) (c : Call) : Option StoreError :=
  match f.methods.lookup c.method, c with
  | some e, _ => some e
  | none, .mark node =>
    if f.marks.contains node then
      some (.query ("injected failure marking node " ++ Text.intText node))
    else none
  | none, _ => none

end Faults

structure FaultyStore where
  store : Store := .empty
  faults : Faults := {}
  /-- How often each read was tried. -/
  reads : List (Call.Method × Nat) := []
deriving Inhabited

namespace FaultyStore

/-- Counts a call that only reads. -/
def count (s : FaultyStore) (c : Call) : FaultyStore :=
  if c.method.isRead then { s with reads := Metrics.raise c.method 1 s.reads } else s

/-- The answer to a call: its failure, or that of the store. -/
def answer (c : Call) (s : FaultyStore) : Except StoreError c.Answer × FaultyStore :=
  let s := s.count c
  match s.faults.error? c with
  | some e => (.error e, s)
  | none =>
    let (answer, store) := s.store.answer c
    (answer, { s with store })

end FaultyStore

end Fleet
