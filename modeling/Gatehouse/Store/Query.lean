import Gatehouse.Store.Row

/-! # Queries

A row is found by its id or by a pair of ids, and a list of rows by a parent. Ids are compared as
text, so a row whose id is spelled in another layout is not found.

A list is made in two steps. The rows are found in the order of insertion, or, where the table keeps
them sorted under the parent, in the order of the column that they are sorted by. Roles, channels
and servers are then ordered by name, subscriptions by the text of their time, and rows that tie stay
as they were found. Now the rows are read, and the first that cannot be read is the fault of the
whole list.
-/

namespace Gatehouse.Store

/-- Order rows by the text in a column. Rows with the same text keep their order. -/
def orderBy {α : Type} (column : α → String) (rows : List α) : List α :=
  rows.mergeSort fun a b => column a ≤ column b

/-- Read the row that a query found. -/
def readFound {α β : Type} (read : α → Except DatabaseFault β) : Option α → Except StoreFault β
  | some row => (read row).mapError .database
  | none => .error .notFound

/-- Read all rows of a list. -/
def readAll {α β : Type} (read : α → Except DatabaseFault β) (rows : List α) :
    Except StoreFault (List β) :=
  (rows.mapM read).mapError .database

namespace Tables

variable (t : StoredTables)

def getUser (id : Uuid) : Except StoreFault User :=
  readFound readUser (t.users.find? (·.id = id.text))

def getServer (id : Uuid) : Except StoreFault Server :=
  readFound readServer (t.servers.find? (·.id = id.text))

def getSubscription (id : Uuid) : Except StoreFault Subscription :=
  readFound readSubscription (t.subscriptions.find? (·.id = id.text))

def getMembership (serverId userId : Uuid) : Except StoreFault Subscription :=
  readFound readSubscription
    (t.subscriptions.find? fun r => r.serverId = serverId.text && r.userId = userId.text)

def getRole (id : Uuid) : Except StoreFault Role :=
  readFound readRole (t.roles.find? (·.id = id.text))

def getAssignment (id : Uuid) : Except StoreFault Assignment :=
  readFound readAssignment (t.assignments.find? (·.id = id.text))

def getGrantFor (serverId userId : Uuid) : Except StoreFault Grant :=
  readFound readGrant
    (t.grants.find? fun r => r.serverId = serverId.text && r.userId = userId.text)

def getGrant (id : Uuid) : Except StoreFault Grant :=
  readFound readGrant (t.grants.find? (·.id = id.text))

def getChannel (id : Uuid) : Except StoreFault Channel :=
  readFound readChannel (t.channels.find? (·.id = id.text))

def getOverride (id : Uuid) : Except StoreFault Override :=
  readFound readOverride (t.overrides.find? (·.id = id.text))

/-- The servers that a user is subscribed to. -/
def listServersOf (userId : Uuid) : Except StoreFault (List Server) :=
  let joined := (t.subscriptions.filter (·.userId = userId.text)).flatMap fun m =>
    t.servers.filter (·.id = m.serverId)
  readAll readServer (orderBy (·.name) joined)

def listSubscriptionsTo (serverId : Uuid) : Except StoreFault (List Subscription) :=
  let rows := orderBy (·.userId) (t.subscriptions.filter (·.serverId = serverId.text))
  readAll readSubscription (orderBy (·.createdAt) rows)

def listSubscriptionsOf (userId : Uuid) : Except StoreFault (List Subscription) :=
  readAll readSubscription
    (orderBy (·.createdAt) (t.subscriptions.filter (·.userId = userId.text)))

def listRoles (serverId : Uuid) : Except StoreFault (List Role) :=
  readAll readRole (orderBy (·.name) (t.roles.filter (·.serverId = serverId.text)))

/-- The roles that are assigned to a user on a server, once for each assignment. -/
def listRolesHeld (serverId userId : Uuid) : Except StoreFault (List Role) :=
  let assigned := t.assignments.filter fun a =>
    a.serverId = serverId.text && a.userId = userId.text
  readAll readRole (assigned.flatMap fun a => t.roles.filter (·.id = a.roleId))

def listAssignments (serverId : Uuid) : Except StoreFault (List Assignment) :=
  readAll readAssignment
    (orderBy (·.userId) (t.assignments.filter (·.serverId = serverId.text)))

def listGrants (serverId : Uuid) : Except StoreFault (List Grant) :=
  readAll readGrant (orderBy (·.userId) (t.grants.filter (·.serverId = serverId.text)))

def listChannels (serverId : Uuid) : Except StoreFault (List Channel) :=
  readAll readChannel (orderBy (·.name) (t.channels.filter (·.serverId = serverId.text)))

def listOverrides (channelId : Uuid) : Except StoreFault (List Override) :=
  readAll readOverride (orderBy (·.roleId) (t.overrides.filter (·.channelId = channelId.text)))

end Tables

end Gatehouse.Store
