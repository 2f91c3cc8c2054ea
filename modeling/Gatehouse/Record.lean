import Gatehouse.Uuid
import Gatehouse.Time.Basic
import Gatehouse.Permission

/-! # Records

The eight kinds of rows. A row comes in two forms: as the record that decisions are made on, with
ids, times, words and truth values, and as the store keeps it, with text and numbers in the columns.
Both are one structure over different types of columns: `ι` stands for an id, `τ` for a time, `μ`
for a mask and `β` for a truth value.
-/

namespace Gatehouse

structure UserRow (ι τ : Type) where
  id : ι
  username : String
  createdAt : τ
deriving DecidableEq, Repr

/-- A server groups channels, roles and members under one owner. -/
structure ServerRow (ι τ : Type) where
  id : ι
  name : String
  ownerId : ι
  createdAt : τ
deriving DecidableEq, Repr

/-- The membership of one user in one server. -/
structure SubscriptionRow (ι τ : Type) where
  id : ι
  serverId : ι
  userId : ι
  createdAt : τ
deriving DecidableEq, Repr

/-- A named bundle of masks on one server. -/
structure RoleRow (ι μ : Type) where
  id : ι
  serverId : ι
  name : String
  serverMask : μ
  channelMask : μ
  subMask : μ
deriving DecidableEq, Repr

/-- A role given to the holder of a subscription. -/
structure AssignmentRow (ι : Type) where
  id : ι
  serverId : ι
  userId : ι
  subscriptionId : ι
  roleId : ι
deriving DecidableEq, Repr

/-- Permissions of one user on one server that bypass roles. -/
structure GrantRow (ι β : Type) where
  id : ι
  serverId : ι
  userId : ι
  readAll : β
  writeAll : β
  deleteAll : β
deriving DecidableEq, Repr

structure ChannelRow (ι β τ : Type) where
  id : ι
  serverId : ι
  name : String
  isPrivate : β
  createdAt : τ
deriving DecidableEq, Repr

/-- A restriction of a channel to the holders of one role. -/
structure OverrideRow (ι : Type) where
  id : ι
  serverId : ι
  channelId : ι
  roleId : ι
deriving DecidableEq, Repr

abbrev User := UserRow Uuid Time
abbrev Server := ServerRow Uuid Time
abbrev Subscription := SubscriptionRow Uuid Time
abbrev Role := RoleRow Uuid Int64
abbrev Assignment := AssignmentRow Uuid
abbrev Grant := GrantRow Uuid Bool
abbrev Channel := ChannelRow Uuid Bool Time
abbrev Override := OverrideRow Uuid

/-- What the masks of a role permit. -/
def RoleRow.mask (r : Role) : PermissionMask :=
  PermissionMask.ofStored r.serverMask r.channelMask r.subMask

/-- A role that stores exactly the given permissions. -/
def RoleRow.ofMask (id serverId : Uuid) (name : String) (mask : PermissionMask) : Role :=
  ⟨id, serverId, name, mask.server.bits, mask.channel, mask.sub.bits⟩

/-- The assignment of a role to the holder of a subscription, in that subscription's server. -/
def AssignmentRow.ofSubscription (id : Uuid) (sub : Subscription) (roleId : Uuid) : Assignment :=
  ⟨id, sub.serverId, sub.userId, sub.id, roleId⟩

/-- A grant that grants nothing yet. -/
def GrantRow.nothing (id serverId userId : Uuid) : Grant :=
  ⟨id, serverId, userId, false, false, false⟩

/-- The restriction of a channel to a role, in that channel's server. -/
def OverrideRow.ofChannel (id : Uuid) (channel : Channel) (roleId : Uuid) : Override :=
  ⟨id, channel.serverId, channel.id, roleId⟩

end Gatehouse
