import Gatehouse.Store.Change
import Gatehouse.Store.Query

/-! # Writes

The sixteen writes of the store: one that creates and one that deletes for each kind of record. A
name is checked before anything else. A new server comes with the subscription of its owner. An
assignment and an override need their two partners, and all three must live in one server; for an
assignment the user of the subscription must be the user of the assignment too. To create a grant
for a user who has one on the server changes the flags of that one.
-/

namespace Gatehouse.Store

abbrev Writing (α : Type) : Type := Change StoredTables StoreFault α

/-- One statement, which applies as a whole or not at all. -/
def statement (f : StoredTables → Except DatabaseFault StoredTables) : Writing Unit :=
  (Change.update f).mapFault .database

def checkName (name : String) : Writing Unit :=
  if Name.acceptable name then return else throw .invalidName

def createUser (row : User) : Writing Unit := statement (·.insertUser (storeUser row))

def createServer (row : Server) (joining : Uuid) (joined : Time) : Writing Subscription := do
  checkName row.name
  let sub : Subscription := ⟨joining, row.id, row.ownerId, joined⟩
  Change.whole do
    statement (·.insertServer (storeServer row))
    statement (·.insertSubscription (storeSubscription sub))
    return sub

def createSubscription (row : Subscription) : Writing Unit :=
  statement (·.insertSubscription (storeSubscription row))

def createRole (row : Role) : Writing Unit := do
  checkName row.name
  statement (·.insertRole (storeRole row))

def createAssignment (row : Assignment) : Writing Unit := Change.whole do
  let t ← get
  match t.subscriptions.find? (·.id = row.subscriptionId.text),
    t.roles.find? (·.id = row.roleId.text) with
  | some sub, some role =>
    if sub.serverId = row.serverId.text ∧ role.serverId = row.serverId.text ∧
        sub.userId = row.userId.text then
      statement (·.insertAssignment (storeAssignment row))
    else throw (.mixedServers .assignment)
  | _, _ => throw .notFound

def createGrant (row : Grant) : Writing Unit := statement (·.upsertGrant (storeGrant row))

def createChannel (row : Channel) : Writing Unit := do
  checkName row.name
  statement (·.insertChannel (storeChannel row))

def createOverride (row : Override) : Writing Unit := do
  let t ← get
  let role ← Change.ofExcept (t.getRole row.roleId)
  let channel ← Change.ofExcept (t.getChannel row.channelId)
  if role.serverId = row.serverId ∧ channel.serverId = row.serverId then
    statement (·.insertOverride (storeOverride row))
  else throw (.mixedServers .override)

/-- Apply a removal, answering whether the row was there before. -/
def removing (there : StoredTables → Bool) (remove : StoredTables → StoredTables) :
    Writing Bool := do
  let t ← get
  set (remove t)
  return there t

def deleteUser (id : Uuid) : Writing Bool :=
  removing (·.hasUser id.text) (·.removeUsers (·.id = id.text))

def deleteServer (id : Uuid) : Writing Bool :=
  removing (·.hasServer id.text) (·.removeServers (·.id = id.text))

def deleteSubscription (id : Uuid) : Writing Bool :=
  removing (·.hasSubscription id.text) (·.removeSubscriptions (·.id = id.text))

def deleteRole (id : Uuid) : Writing Bool :=
  removing (·.hasRole id.text) (·.removeRoles (·.id = id.text))

def deleteAssignment (id : Uuid) : Writing Bool :=
  removing (·.hasAssignment id.text) (·.removeAssignments (·.id = id.text))

def deleteGrant (id : Uuid) : Writing Bool :=
  removing (·.hasGrant id.text) (·.removeGrants (·.id = id.text))

def deleteChannel (id : Uuid) : Writing Bool :=
  removing (·.hasChannel id.text) (·.removeChannels (·.id = id.text))

def deleteOverride (id : Uuid) : Writing Bool :=
  removing (·.hasOverride id.text) (·.removeOverrides (·.id = id.text))

inductive Write where
  | createUser (row : User)
  /-- The owner's subscription gets this id and time. -/
  | createServer (row : Server) (joining : Uuid) (joined : Time)
  | createSubscription (row : Subscription)
  | createRole (row : Role)
  | createAssignment (row : Assignment)
  | createGrant (row : Grant)
  | createChannel (row : Channel)
  | createOverride (row : Override)
  | deleteUser (id : Uuid)
  | deleteServer (id : Uuid)
  | deleteSubscription (id : Uuid)
  | deleteRole (id : Uuid)
  | deleteAssignment (id : Uuid)
  | deleteGrant (id : Uuid)
  | deleteChannel (id : Uuid)
  | deleteOverride (id : Uuid)
deriving DecidableEq, Repr

/-- What a write answers. -/
inductive Written where
  | created
  /-- A server was created, and with it this subscription of its owner. -/
  | subscribed (sub : Subscription)
  | deleted (existed : Bool)
deriving DecidableEq, Repr

def Write.change : Write → Writing Written
  | .createUser row => do Store.createUser row; return .created
  | .createServer row joining joined =>
    return .subscribed (← Store.createServer row joining joined)
  | .createSubscription row => do Store.createSubscription row; return .created
  | .createRole row => do Store.createRole row; return .created
  | .createAssignment row => do Store.createAssignment row; return .created
  | .createGrant row => do Store.createGrant row; return .created
  | .createChannel row => do Store.createChannel row; return .created
  | .createOverride row => do Store.createOverride row; return .created
  | .deleteUser id => return .deleted (← Store.deleteUser id)
  | .deleteServer id => return .deleted (← Store.deleteServer id)
  | .deleteSubscription id => return .deleted (← Store.deleteSubscription id)
  | .deleteRole id => return .deleted (← Store.deleteRole id)
  | .deleteAssignment id => return .deleted (← Store.deleteAssignment id)
  | .deleteGrant id => return .deleted (← Store.deleteGrant id)
  | .deleteChannel id => return .deleted (← Store.deleteChannel id)
  | .deleteOverride id => return .deleted (← Store.deleteOverride id)

/-- The tables that are left after a run of writes, whether they succeed or fail. -/
def Write.runAll (writes : List Write) (t : StoredTables) : StoredTables :=
  writes.foldl (fun t write => (write.change.apply t).2) t

/-- The tables that writes alone can bring about. -/
def Reachable (t : StoredTables) : Prop := ∃ writes, t = Write.runAll writes Tables.empty

end Gatehouse.Store
