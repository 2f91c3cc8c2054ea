import Gatehouse.Lookup
import Gatehouse.Store.Tables

/-! # Records in memory

A second storage, which keeps the records themselves. It trusts its users: nothing is checked but
that an assignment and an override join what lives in one server. A new server comes with the
subscription of its owner. A deleted server takes along every record that names it as its server.
All lookups can be made to fail, and can be made to take time.
-/

namespace Gatehouse

structure Memory where
  tables : Store.Tables Uuid Time Int64 Bool
  failing : Bool
  /-- The milliseconds that every lookup takes; `none` if it is answered at once. -/
  latency : Option Nat

namespace Memory

def empty : Memory := ⟨.empty, false, none⟩

/-- Let every lookup take so many milliseconds. -/
def setDelay (millis : Nat) (m : Memory) : Memory :=
  { m with latency := if millis = 0 then none else some millis }

def addSubscription (row : Subscription) (m : Memory) : Memory :=
  { m with tables.subscriptions := m.tables.subscriptions ++ [row] }

/-- Add a server and the subscription of its owner, which gets the given id and time. -/
def addServerAt (row : Server) (joining : Uuid) (joined : Time) (m : Memory) : Memory :=
  ({ m with tables.servers := m.tables.servers ++ [row] }).addSubscription
    ⟨joining, row.id, row.ownerId, joined⟩

/-- Add a server that its owner joins in the moment of its creation. -/
def addServer (row : Server) (joining : Uuid) (m : Memory) : Memory :=
  m.addServerAt row joining row.createdAt

def addRole (row : Role) (m : Memory) : Memory :=
  { m with tables.roles := m.tables.roles ++ [row] }

def addGrant (row : Grant) (m : Memory) : Memory :=
  { m with tables.grants := m.tables.grants ++ [row] }

def addChannel (row : Channel) (m : Memory) : Memory :=
  { m with tables.channels := m.tables.channels ++ [row] }

/-- Assign a role to the holder of a subscription; `none` if they live in different servers. -/
def assignRole? (id : Uuid) (sub : Subscription) (role : Role) (m : Memory) :
    Option (Assignment × Memory) :=
  if sub.serverId = role.serverId then
    let row := AssignmentRow.ofSubscription id sub role.id
    some (row, { m with tables.assignments := m.tables.assignments ++ [row] })
  else none

/-- Restrict a channel to a role; `none` if they live in different servers. -/
def addOverride? (id : Uuid) (channel : Channel) (role : Role) (m : Memory) :
    Option (Override × Memory) :=
  if channel.serverId = role.serverId then
    let row := OverrideRow.ofChannel id channel role.id
    some (row, { m with tables.overrides := m.tables.overrides ++ [row] })
  else none

/-- Delete a server and all that names it, answering whether it was there. -/
def deleteServer (id : Uuid) (m : Memory) : Bool × Memory :=
  let t := m.tables
  (t.hasServer id,
    { m with tables :=
      { t with
        servers := t.servers.filter (·.id ≠ id)
        subscriptions := t.subscriptions.filter (·.serverId ≠ id)
        roles := t.roles.filter (·.serverId ≠ id)
        assignments := t.assignments.filter (·.serverId ≠ id)
        grants := t.grants.filter (·.serverId ≠ id)
        channels := t.channels.filter (·.serverId ≠ id)
        overrides := t.overrides.filter (·.serverId ≠ id) } })

def subscriptionFor? (serverId userId : Uuid) (m : Memory) : Option Subscription :=
  m.tables.subscriptions.find? fun r => r.serverId = serverId && r.userId = userId

/-- What was found, or that there is no row. -/
def found {α : Type} : Option α → Except LookupFailure α
  | some a => .ok a
  | none => .error .noRows

/-- The answers of the records. -/
def records (m : Memory) : Storage
  | .server id => found (m.tables.servers.find? (·.id = id))
  | .subscription id => found (m.tables.subscriptions.find? (·.id = id))
  | .membership serverId userId => found (m.subscriptionFor? serverId userId)
  | .role id => found (m.tables.roles.find? (·.id = id))
  | .rolesHeld serverId userId =>
    let assigned := m.tables.assignments.filter fun a => a.serverId = serverId && a.userId = userId
    .ok (assigned.filterMap fun a => m.tables.roles.find? (·.id = a.roleId))
  | .assignment id => found (m.tables.assignments.find? (·.id = id))
  | .grantFor serverId userId =>
    found (m.tables.grants.find? fun r => r.serverId = serverId && r.userId = userId)
  | .grant id => found (m.tables.grants.find? (·.id = id))
  | .channel id => found (m.tables.channels.find? (·.id = id))
  | .override id => found (m.tables.overrides.find? (·.id = id))

/-- What a failing memory says. -/
def complaint : String := "memory storage set to fail"

def storage (m : Memory) : Storage := fun q =>
  if m.failing then .error (.backend complaint [])
  else m.records q

end Memory

end Gatehouse
