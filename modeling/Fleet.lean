import Fleet.Plane
import Fleet.Proofs.Composition.Again
import Fleet.Proofs.Interleaving.Race
import Fleet.Proofs.Store.Linked
import Fleet.Proofs.Store.Versions
import Fleet.Proofs.Store.Ids
import Fleet.Settings.Watch
import Fleet.Shutdown
import Fleet.Proofs.Binary64.Decimals
import Fleet.Proofs.Json.Printed
import Fleet.Proofs.Json.Reread
import Fleet.Proofs.Composition.Alike
import Fleet.Proofs.Composition.Malformed
import Fleet.Proofs.Composition.Complete
import Fleet.Proofs.Mutation.Rejected
import Fleet.Proofs.Http.Keyed
import Fleet.Proofs.Config.Wire
import Fleet.Proofs.Composition.Once
import Fleet.Proofs.Composition.Interrupted
import Fleet.Proofs.Mutation.Ranked
import Fleet.Proofs.Propagation.Fanout
import Fleet.Proofs.Propagation.Upward
import Fleet.Proofs.Store.Seeds
import Fleet.Proofs.Store.Latest
import Fleet.Proofs.Store.Cleared
import Fleet.Proofs.Mutation.Reordered
import Fleet.Proofs.Interleaving.Edits
import Fleet.Proofs.Config.Forgotten
import Fleet.Proofs.Composition.Mirrored
import Fleet.Proofs.Sync.Pending
import Fleet.Proofs.Http.Polled
import Fleet.Proofs.Health.Target
import Fleet.Proofs.Firewall
import Fleet.Proofs.Health.Complete
import Fleet.Proofs.Http.Usable
import Fleet.Proofs.Interleaving.Counters
import Fleet.Proofs.Propagation.Counted
import Fleet.Proofs.Store.Owners
