import Fleet.Proofs.Mutation.Basic
import Fleet.Sync
import Mathlib.Logic.Relation

/-!
# Operations among each other

A store that several operations share: each of their calls is one step, and the steps of different
operations come in any order. Mutations run one after another, and each of them ends well; fetches
and acknowledgements may start at any time.
-/

namespace Fleet

/-- One step of a program: a call that the store answers, or a measure. -/
inductive Program.Advance {α : Type} : Store → Program α → Store → Program α → Prop where
  | note {s : Store} {m : Measure} {next : Program α} : Advance s (.note m next) s next
  | call {s : Store} {c : Call} {next : Except StoreError c.Answer → Program α} :
      Advance s (.call c next) (s.answer c).2 (next (s.answer c).1)

namespace Program

variable {α : Type}

/-- The rest of the program and the store after one step; what has come to its end stays there. -/
def step (s : Store) : Program α → Program α × Store
  | .done a => (.done a, s)
  | .note _ next => (next, s)
  | .call c next => (next (s.answer c).1, (s.answer c).2)

theorem step_cases (p : Program α) (s : Store) :
    (p.step s = (p, s) ∧ ∃ a, p = .done a) ∨ p.Advance s (p.step s).2 (p.step s).1 := by
  cases p with
  | done a => exact .inl ⟨rfl, a, rfl⟩
  | note m next => exact .inr .note
  | call c next => exact .inr .call

/-- The rest of the program and the store after `k` steps. -/
def steps : (k : Nat) → Program α → Store → Program α × Store
  | 0, p, s => (p, s)
  | k + 1, p, s => steps k (p.step s).1 (p.step s).2

/-- Where each step of a program is a step of the system that it is part of, so are many. -/
theorem reflTransGen_steps {β : Type} {R : β → β → Prop} (place : Store → Program α → β)
    (h : ∀ {s t p q}, p.Advance s t q → R (place s p) (place t q)) (k : Nat) (p : Program α)
    (s : Store) :
    Relation.ReflTransGen R (place s p) (place (p.steps k s).2 (p.steps k s).1) := by
  induction k generalizing p s with
  | zero => exact .refl
  | succ k ih =>
      rw [steps]
      rcases p.step_cases s with ⟨hend, -⟩ | hadvance
      · rw [hend]
        exact ih p s
      · exact .head (h hadvance) (ih _ _)

theorem steps_eq_of_result? {p : Program α} {k : Nat} {s : Store} {a : α}
    (h : (p.steps k s).1.result? = some a) : p.steps k s = (.done a, (p.steps k s).2) :=
  Prod.ext (eq_done_of_result? h) rfl

theorem exists_ok_of_isOk {p : Program (Except Failure α)} (h : p.result?.any Except.isOk = true) :
    ∃ a, p.result? = some (.ok a) := by
  obtain ⟨r, hr, hok⟩ := Option.any_eq_true _ _ |>.1 h
  cases r with
  | ok a => exact ⟨a, hr⟩
  | error e => cases hok

end Program

/-- The snapshot that a fetch returned, if it did. -/
def NodeSnapshot.returned? : Except Failure (Option NodeSnapshot) → Option NodeSnapshot
  | .ok snapshot => snapshot
  | .error _ => none

structure Traffic where
  store : Store
  /-- The rest of the mutation that is in progress. -/
  mutation : Option (Program (Except Failure Report)) := none
  /-- The rests of the fetches in progress, by node. -/
  fetches : List (Int × Program (Except Failure (Option NodeSnapshot))) := []
  /-- The rests of the acknowledgements in progress. -/
  acks : List (Program (Except Failure NodeVersion)) := []
  /-- What fetches have returned, by node. -/
  snapshots : List (Int × NodeSnapshot) := []

namespace Traffic

inductive Step : Traffic → Traffic → Prop where
  | beginMutation {σ : Traffic} (m : Mutation) : σ.mutation = none →
      Step σ { σ with mutation := some m.action.run }
  | mutation {σ : Traffic} {s : Store} {p q : Program (Except Failure Report)} :
      σ.mutation = some p → p.Advance σ.store s q →
      Step σ { σ with store := s, mutation := some q }
  | endMutation {σ : Traffic} {report : Report} : σ.mutation = some (.done (.ok report)) →
      Step σ { σ with mutation := none }
  | beginFetch {σ : Traffic} (n : Int) :
      Step σ { σ with fetches := (n, (fetchNode n).run) :: σ.fetches }
  | fetch {σ : Traffic} {s : Store} {n : Int} {p q : Program (Except Failure (Option NodeSnapshot))}
      {l r : List (Int × Program (Except Failure (Option NodeSnapshot)))} :
      σ.fetches = l ++ (n, p) :: r → p.Advance σ.store s q →
      Step σ { σ with store := s, fetches := l ++ (n, q) :: r }
  | endFetch {σ : Traffic} {n : Int} {result : Except Failure (Option NodeSnapshot)}
      {l r : List (Int × Program (Except Failure (Option NodeSnapshot)))} :
      σ.fetches = l ++ (n, .done result) :: r →
      Step σ { σ with
        fetches := l ++ r
        snapshots := (NodeSnapshot.returned? result).toList.map (n, ·) ++ σ.snapshots }
  | beginAck {σ : Traffic} (n : Int) (version : Nat) :
      Step σ { σ with acks := (ackNode n version).run :: σ.acks }
  | ack {σ : Traffic} {s : Store} {p q : Program (Except Failure NodeVersion)}
      {l r : List (Program (Except Failure NodeVersion))} :
      σ.acks = l ++ p :: r → p.Advance σ.store s q →
      Step σ { σ with store := s, acks := l ++ q :: r }
  | endAck {σ : Traffic} {result : Except Failure NodeVersion}
      {l r : List (Program (Except Failure NodeVersion))} :
      σ.acks = l ++ .done result :: r → Step σ { σ with acks := l ++ r }

end Traffic

end Fleet
