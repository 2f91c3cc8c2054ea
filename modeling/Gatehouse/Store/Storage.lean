import Gatehouse.Lookup
import Gatehouse.Store.Query

/-! # The store as a storage

Decisions see the store through lookups. That there is no row is no fault there; every other fault
of the store is one of the backend. Once the lock on the database is poisoned, every lookup fails.
The answers take no measurable time, but they do not come in the moment of asking either.
-/

namespace Gatehouse.Store

/-- A query's answer as the answer to a lookup. -/
def lookedUp {α : Type} : Except StoreFault α → Except LookupFailure α
  | .ok found => .ok found
  | .error .notFound => .error .noRows
  | .error fault => .error (.backend fault.text fault.causes)

def Tables.storage (t : StoredTables) : Storage
  | .server id => lookedUp (t.getServer id)
  | .subscription id => lookedUp (t.getSubscription id)
  | .membership serverId userId => lookedUp (t.getMembership serverId userId)
  | .role id => lookedUp (t.getRole id)
  | .rolesHeld serverId userId => lookedUp (t.listRolesHeld serverId userId)
  | .assignment id => lookedUp (t.getAssignment id)
  | .grantFor serverId userId => lookedUp (t.getGrantFor serverId userId)
  | .grant id => lookedUp (t.getGrant id)
  | .channel id => lookedUp (t.getChannel id)
  | .override id => lookedUp (t.getOverride id)

/-- The storage behind a poisoned lock. -/
def poisoned : Storage := fun _ =>
  .error (.backend StoreFault.lockPoisoned.text StoreFault.lockPoisoned.causes)

/-- The time that the store takes for an answer. -/
def latency : Option Nat := some 0

end Gatehouse.Store
