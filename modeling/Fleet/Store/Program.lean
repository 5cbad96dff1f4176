import Fleet.Measure
import Fleet.Store.Call

/-!
# Programs over the store

An operation of the control plane is a program: it makes store calls one after another, each with a
continuation for the answer, and notes measures in between. How the calls are answered is left to
whoever runs it, so that one program can run alone, among others, or over a store that fails.
-/

namespace Fleet

inductive Program (α : Type) where
  | done (a : α)
  | note (m : Measure) (next : Program α)
  | call (c : Call) (next : Except StoreError c.Answer → Program α)

namespace Program

variable {α β γ σ : Type}

protected def bind : Program α → (α → Program β) → Program β
  | .done a, f => f a
  | .note m next, f => .note m (next.bind f)
  | .call c next, f => .call c fun answer => (next answer).bind f

instance : Monad Program where
  pure := .done
  bind := Program.bind

theorem bind_done (p : Program α) : p.bind .done = p := by
  induction p with
  | done a => rfl
  | note m next ih => simp only [Program.bind, ih]
  | call c next ih => simp only [Program.bind, ih]

theorem bind_assoc (p : Program α) (f : α → Program β) (g : β → Program γ) :
    (p.bind f).bind g = p.bind fun a => (f a).bind g := by
  induction p with
  | done a => rfl
  | note m next ih => simp only [Program.bind, ih]
  | call c next ih => simp only [Program.bind, ih]

instance : LawfulMonad Program :=
  .mk' _ bind_done (fun _ _ => rfl) bind_assoc

/-! ## Running -/

/-- Who answers the calls of a program and hears its measures. -/
structure Host (σ : Type) where
  answer : (c : Call) → σ → Except StoreError c.Answer × σ
  hear : Measure → σ → σ

/-- Runs a program without interruption. -/
def run (host : Host σ) : Program α → σ → α × σ
  | .done a, s => (a, s)
  | .note m next, s => next.run host (host.hear m s)
  | .call c next, s =>
    let (answer, s) := host.answer c s
    (next answer).run host s

@[simp] theorem run_pure (host : Host σ) (a : α) (s : σ) : (pure a : Program α).run host s = (a, s) :=
  rfl

@[simp] theorem run_bind (host : Host σ) (p : Program α) (f : α → Program β) (s : σ) :
    (p >>= f).run host s = (f (p.run host s).1).run host (p.run host s).2 := by
  change (p.bind f).run host s = _
  induction p generalizing s with
  | done a => rfl
  | note m next ih => exact ih _
  | call c next ih => exact ih _ _

end Program

/-- A store that answers for itself, its measures unheard. -/
def Store.host : Program.Host Store where
  answer c s := s.answer c
  hear _ s := s

/-! ## Programs that may fail -/

abbrev Action (α : Type) := ExceptT Failure Program α

namespace Action

/-- Makes a call; a store error ends the action. -/
def ask (c : Call) : Action c.Answer :=
  ExceptT.mk (.call c fun
    | .ok a => .done (.ok a)
    | .error e => .done (.error (.store e)))

/-- Makes a call whose error is an answer. -/
def try_ (c : Call) : Action (Except StoreError c.Answer) := ExceptT.lift (.call c .done)

def note (m : Measure) : Action Unit := ExceptT.lift (.note m (.done ()))

/-- Ends the action if a check fails. -/
def check {α : Type} (r : Except Failure α) : Action α := ExceptT.mk (.done r)

/-! ## Point reads -/

def findCluster (id : Int) : Action (Option Cluster) := do
  return (← ask (.find ⟨.cluster, id⟩)).bind Record.cluster?

def findNode (id : Int) : Action (Option Node) := do
  return (← ask (.find ⟨.node, id⟩)).bind Record.node?

def findServer (id : Int) : Action (Option Server) := do
  return (← ask (.find ⟨.server, id⟩)).bind Record.server?

def findServerGroup (id : Int) : Action (Option ServerGroup) := do
  return (← ask (.find ⟨.serverGroup, id⟩)).bind Record.serverGroup?

def findReverseProxy (id : Int) : Action (Option ReverseProxy) := do
  return (← ask (.find ⟨.reverseProxy, id⟩)).bind Record.reverseProxy?

def findOrigin (id : Int) : Action (Option Origin) := do
  return (← ask (.find ⟨.origin, id⟩)).bind Record.origin?

end Action

end Fleet
