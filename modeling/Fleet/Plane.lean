import Fleet.Http.Admin
import Fleet.Http.Sync
import Fleet.Settings.Basic
import Fleet.Store.Faulty
import Fleet.Store.Seed

/-!
# The control plane

Everything that lasts while the control plane runs, and what can be asked of it. The settings may be
replaced while it runs; how nodes are probed is fixed when it starts.
-/

namespace Fleet

structure Plane where
  store : FaultyStore := {}
  settings : Settings := {}
  probes : ProbeSettings := {}
  network : Network := .isolated
  outbox : Outbox := {}
  metrics : Metrics := {}
deriving Inhabited

namespace Plane

/-- A control plane with an empty store. -/
def start (settings : Settings) (network : Network) : Plane where
  settings := settings
  probes := settings.healthCheck
  network := network

/-- Calls go to the store, and measures to the metrics. -/
def host : Program.Host Plane where
  answer c p :=
    let (answer, store) := p.store.answer c
    (answer, { p with store })
  hear m p := { p with metrics := p.metrics.record m }

def run {α : Type} (p : Plane) (a : Action α) : Except Failure α × Plane := Program.run host a.run p

/-- Runs a composition with a cache that outlives it. -/
def runWith {α : Type} (p : Plane) (cache : Cache) (c : Composing α) :
    (Except Failure α × Cache) × Plane :=
  Program.run host (c.run.run cache) p

/-- Reports a firewall event, and records the message that it makes. -/
def report (p : Plane) (r : FirewallReport) : Except Failure (Option Int) × Plane :=
  let ((result, outbox), p) := (r.deliver p.outbox).run host p
  (result, { p with outbox })

/-- Loads the records of a seed, and stops at the first that fails. -/
def loadSeed (p : Plane) (seed : Seed) : Except StoreError Unit × Plane :=
  let (result, store) := p.store.store.loadSeed seed
  (result, { p with store := { p.store with store } })

/-! ## Requests -/

inductive Listener where
  | sync
  | admin
deriving DecidableEq, Repr, Inhabited

def adminContext (p : Plane) : Http.AdminContext where
  probes := p.probes
  network := p.network
  outbox := p.outbox

def respond (p : Plane) (l : Listener) (r : Http.Request) : Http.Response × Plane :=
  match l with
  | .sync =>
    let ((response, outbox), p) := (Http.serveSync p.outbox r).run host p
    (response, { p with outbox })
  | .admin => (Http.serveAdmin p.settings.admin.apiKey p.adminContext r).run host p

/-- The response, with the id that the request brought. -/
def exchange (p : Plane) (l : Listener) (r : Http.Request) : Http.Exchange × Plane :=
  let (response, p) := p.respond l r
  (⟨r.header? "x-request-id", response⟩, p)

/-! ## Serving -/

/-- The listeners that are served while the control plane runs, each a receiver of the shutdown. -/
def served (withAdmin : Bool) : List Listener := if withAdmin then [.admin, .sync] else [.sync]

/-- Sends requests to the listeners, one after another; `none` is a connection that is refused. -/
def serve (withAdmin : Bool) : List (Listener × Http.Request) → Plane →
    List (Option Http.Exchange) × Plane
  | [], p => ([], p)
  | (l, r) :: rest, p =>
    if p.network.accepts && (served withAdmin).contains l then
      let (exchange, p) := p.exchange l r
      let (exchanges, p) := p.serve withAdmin rest
      (some exchange :: exchanges, p)
    else
      let (exchanges, p) := p.serve withAdmin rest
      (none :: exchanges, p)

end Plane

/-! ## Startup -/

/-- The store with the records of a seed document, which may be missing. -/
def bootstrap : (document : Option (Option String)) → Except StoreError Store
  | none => .ok .empty
  | some none => .error .seedUnreadable
  | some (some text) =>
    match Json.decode Seed.decoder text with
    | .error _ => .error .seedMalformed
    | .ok seed =>
      match Store.empty.loadSeed seed with
      | (.ok (), store) => .ok store
      | (.error e, _) => .error e

end Fleet
