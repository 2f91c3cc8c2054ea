import Gatehouse.Record
import Gatehouse.Store.Fault

/-! # Tables

Eight lists of rows in the order of insertion. A row that is removed takes with it all rows that
refer to it, and those take theirs: subscriptions and roles their assignments, roles and channels
their overrides, servers everything that lives in them, users their servers, subscriptions and
grants. Nothing else is removed.

The tables are the same for all types of columns; rows refer to each other by ids.
-/

namespace Gatehouse.Store

structure Tables (ι τ μ β : Type) where
  users : List (UserRow ι τ)
  servers : List (ServerRow ι τ)
  subscriptions : List (SubscriptionRow ι τ)
  roles : List (RoleRow ι μ)
  assignments : List (AssignmentRow ι)
  grants : List (GrantRow ι β)
  channels : List (ChannelRow ι β τ)
  overrides : List (OverrideRow ι)
deriving DecidableEq, Repr

namespace Tables

variable {ι τ μ β : Type}

def empty : Tables ι τ μ β := ⟨[], [], [], [], [], [], [], []⟩

variable [DecidableEq ι]

def hasUser (t : Tables ι τ μ β) (id : ι) : Bool := t.users.any (·.id = id)

def hasServer (t : Tables ι τ μ β) (id : ι) : Bool := t.servers.any (·.id = id)

def hasSubscription (t : Tables ι τ μ β) (id : ι) : Bool := t.subscriptions.any (·.id = id)

def hasRole (t : Tables ι τ μ β) (id : ι) : Bool := t.roles.any (·.id = id)

def hasAssignment (t : Tables ι τ μ β) (id : ι) : Bool := t.assignments.any (·.id = id)

def hasGrant (t : Tables ι τ μ β) (id : ι) : Bool := t.grants.any (·.id = id)

def hasChannel (t : Tables ι τ μ β) (id : ι) : Bool := t.channels.any (·.id = id)

def hasOverride (t : Tables ι τ μ β) (id : ι) : Bool := t.overrides.any (·.id = id)

def removeAssignments (p : AssignmentRow ι → Bool) (t : Tables ι τ μ β) : Tables ι τ μ β :=
  { t with assignments := t.assignments.filter fun r => !p r }

def removeOverrides (p : OverrideRow ι → Bool) (t : Tables ι τ μ β) : Tables ι τ μ β :=
  { t with overrides := t.overrides.filter fun r => !p r }

def removeGrants (p : GrantRow ι β → Bool) (t : Tables ι τ μ β) : Tables ι τ μ β :=
  { t with grants := t.grants.filter fun r => !p r }

/-- Remove subscriptions and their assignments. -/
def removeSubscriptions (p : SubscriptionRow ι τ → Bool) (t : Tables ι τ μ β) : Tables ι τ μ β :=
  let gone (id : ι) := t.subscriptions.any fun r => p r && r.id = id
  let t := t.removeAssignments fun r => gone r.subscriptionId
  { t with subscriptions := t.subscriptions.filter fun r => !p r }

/-- Remove roles, their assignments and their overrides. -/
def removeRoles (p : RoleRow ι μ → Bool) (t : Tables ι τ μ β) : Tables ι τ μ β :=
  let gone (id : ι) := t.roles.any fun r => p r && r.id = id
  let t := (t.removeAssignments fun r => gone r.roleId).removeOverrides fun r => gone r.roleId
  { t with roles := t.roles.filter fun r => !p r }

/-- Remove channels and their overrides. -/
def removeChannels (p : ChannelRow ι β τ → Bool) (t : Tables ι τ μ β) : Tables ι τ μ β :=
  let gone (id : ι) := t.channels.any fun r => p r && r.id = id
  let t := t.removeOverrides fun r => gone r.channelId
  { t with channels := t.channels.filter fun r => !p r }

/-- Remove servers and everything that lives in them. -/
def removeServers (p : ServerRow ι τ → Bool) (t : Tables ι τ μ β) : Tables ι τ μ β :=
  let gone (id : ι) := t.servers.any fun r => p r && r.id = id
  let t := t.removeSubscriptions fun r => gone r.serverId
  let t := t.removeRoles fun r => gone r.serverId
  let t := t.removeChannels fun r => gone r.serverId
  let t := t.removeAssignments fun r => gone r.serverId
  let t := t.removeGrants fun r => gone r.serverId
  let t := t.removeOverrides fun r => gone r.serverId
  { t with servers := t.servers.filter fun r => !p r }

/-- Remove users, their servers, their subscriptions and their grants. -/
def removeUsers (p : UserRow ι τ → Bool) (t : Tables ι τ μ β) : Tables ι τ μ β :=
  let gone (id : ι) := t.users.any fun r => p r && r.id = id
  let t := t.removeServers fun r => gone r.ownerId
  let t := t.removeSubscriptions fun r => gone r.userId
  let t := t.removeGrants fun r => gone r.userId
  { t with users := t.users.filter fun r => !p r }

/-- The fault of the first broken constraint, or the result. A row is appended unless a constraint
forbids it. If several do, the pair of columns that must be unique is reported before the id, and
both before a reference to a row that does not exist. -/
def unlessBroken {α : Type} : List (Bool × DatabaseFault) → α → Except DatabaseFault α
  | [], a => .ok a
  | (broken, fault) :: rest, a => if broken then .error fault else unlessBroken rest a

def insertUser (row : UserRow ι τ) (t : Tables ι τ μ β) : Except DatabaseFault (Tables ι τ μ β) :=
  unlessBroken
    [(t.users.any (·.username = row.username), .unique .users ["username"]),
      (t.hasUser row.id, .unique .users ["id"])]
    { t with users := t.users ++ [row] }

def insertServer (row : ServerRow ι τ) (t : Tables ι τ μ β) :
    Except DatabaseFault (Tables ι τ μ β) :=
  unlessBroken
    [(t.hasServer row.id, .unique .servers ["id"]),
      (!t.hasUser row.ownerId, .foreignKey)]
    { t with servers := t.servers ++ [row] }

def insertSubscription (row : SubscriptionRow ι τ) (t : Tables ι τ μ β) :
    Except DatabaseFault (Tables ι τ μ β) :=
  unlessBroken
    [(t.subscriptions.any fun r => r.serverId = row.serverId && r.userId = row.userId,
        .unique .subscriptions ["server_id", "user_id"]),
      (t.hasSubscription row.id, .unique .subscriptions ["id"]),
      (!t.hasServer row.serverId || !t.hasUser row.userId, .foreignKey)]
    { t with subscriptions := t.subscriptions ++ [row] }

def insertRole (row : RoleRow ι μ) (t : Tables ι τ μ β) : Except DatabaseFault (Tables ι τ μ β) :=
  unlessBroken
    [(t.hasRole row.id, .unique .roles ["id"]),
      (!t.hasServer row.serverId, .foreignKey)]
    { t with roles := t.roles ++ [row] }

def insertAssignment (row : AssignmentRow ι) (t : Tables ι τ μ β) :
    Except DatabaseFault (Tables ι τ μ β) :=
  unlessBroken
    [(t.assignments.any fun r => r.subscriptionId = row.subscriptionId && r.roleId = row.roleId,
        .unique .assignments ["subscription_id", "role_id"]),
      (t.hasAssignment row.id, .unique .assignments ["id"]),
      (!t.hasServer row.serverId || !t.hasSubscription row.subscriptionId || !t.hasRole row.roleId,
        .foreignKey)]
    { t with assignments := t.assignments ++ [row] }

/-- Insert a grant, or, if the user has one on the server, change the flags of that one. -/
def upsertGrant (row : GrantRow ι β) (t : Tables ι τ μ β) : Except DatabaseFault (Tables ι τ μ β) :=
  let same (r : GrantRow ι β) : Bool := r.serverId = row.serverId && r.userId = row.userId
  let flagged (r : GrantRow ι β) : GrantRow ι β :=
    { r with readAll := row.readAll, writeAll := row.writeAll, deleteAll := row.deleteAll }
  if t.grants.any same then
    .ok { t with grants := t.grants.map fun r => if same r then flagged r else r }
  else
    unlessBroken
      [(t.hasGrant row.id, .unique .grants ["id"]),
        (!t.hasServer row.serverId || !t.hasUser row.userId, .foreignKey)]
      { t with grants := t.grants ++ [row] }

def insertChannel (row : ChannelRow ι β τ) (t : Tables ι τ μ β) :
    Except DatabaseFault (Tables ι τ μ β) :=
  unlessBroken
    [(t.hasChannel row.id, .unique .channels ["id"]),
      (!t.hasServer row.serverId, .foreignKey)]
    { t with channels := t.channels ++ [row] }

def insertOverride (row : OverrideRow ι) (t : Tables ι τ μ β) :
    Except DatabaseFault (Tables ι τ μ β) :=
  unlessBroken
    [(t.overrides.any fun r => r.channelId = row.channelId && r.roleId = row.roleId,
        .unique .overrides ["channel_id", "role_id"]),
      (t.hasOverride row.id, .unique .overrides ["id"]),
      (!t.hasServer row.serverId || !t.hasChannel row.channelId || !t.hasRole row.roleId,
        .foreignKey)]
    { t with overrides := t.overrides ++ [row] }

end Tables

end Gatehouse.Store
