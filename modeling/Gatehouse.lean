import Gatehouse.Memory
import Gatehouse.Service.Endpoint
import Gatehouse.Store.Patch
import Gatehouse.Store.Place
import Gatehouse.Store.Storage
import Gatehouse.Store.Write
import Gatehouse.Wire.Mask
import Gatehouse.Wire.Record
import Gatehouse.Proofs.Store.Coalition
import Gatehouse.Proofs.Authority.FailClosed
import Gatehouse.Proofs.Store.Interleaving
import Gatehouse.Proofs.Authority.Tenant
import Gatehouse.Proofs.Store.Exact
import Gatehouse.Proofs.Store.Tenant
import Gatehouse.Proofs.Calendar
import Gatehouse.Proofs.TimeText
import Gatehouse.Proofs.Authority.Sight
import Gatehouse.Proofs.Store.Cascade
import Gatehouse.Proofs.Store.Replay
import Gatehouse.Proofs.Store.Backends
import Gatehouse.Proofs.Store.Failure
import Gatehouse.Proofs.Store.RoleHolding
import Gatehouse.Proofs.Authority.Interruption
import Gatehouse.Proofs.Authority.Absence
import Gatehouse.Proofs.Store.Departure
import Gatehouse.Proofs.Store.Naming
import Gatehouse.Proofs.Store.Upgrade
import Gatehouse.Proofs.Service.Faithful
import Gatehouse.Proofs.Service.Discretion
import Gatehouse.Proofs.Service.Timeout
import Gatehouse.Proofs.Authority.Obstacle
import Gatehouse.Proofs.Authority.Outage
import Gatehouse.Proofs.Authority.Masks
import Gatehouse.Proofs.Authority.Growth
import Gatehouse.Proofs.Store.Deletion
import Gatehouse.Proofs.Store.Joining
import Gatehouse.Proofs.Store.Granting
import Gatehouse.Proofs.Store.Survival
import Gatehouse.Proofs.Store.Listing
import Gatehouse.Proofs.Store.Growth
import Gatehouse.Proofs.Authority.Order
import Gatehouse.Proofs.Authority.Respelling
import Gatehouse.Proofs.Store.Commuting
import Gatehouse.Proofs.Wire.Classes
import Gatehouse.Proofs.CauseChain
