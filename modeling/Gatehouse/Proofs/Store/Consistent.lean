import Gatehouse.Store.Tables

/-! # Consistent tables

What decisions take for granted of the tables: no two rows share an id or a pair of columns that must
be unique, and every row that another one refers to is there. An assignment joins a subscription and
a role of its own server, and its user is the user of the subscription; an override joins a channel
and a role of its own server.
-/

namespace Gatehouse.Store

namespace Tables

variable {ι τ μ β : Type}

/-- No two rows of a table agree where they must differ. -/
structure Keyed (t : Tables ι τ μ β) : Prop where
  userIds : (t.users.map (·.id)).Nodup
  usernames : (t.users.map (·.username)).Nodup
  serverIds : (t.servers.map (·.id)).Nodup
  subscriptionIds : (t.subscriptions.map (·.id)).Nodup
  subscriptionPairs : (t.subscriptions.map fun r => (r.serverId, r.userId)).Nodup
  roleIds : (t.roles.map (·.id)).Nodup
  assignmentIds : (t.assignments.map (·.id)).Nodup
  assignmentPairs : (t.assignments.map fun r => (r.subscriptionId, r.roleId)).Nodup
  grantIds : (t.grants.map (·.id)).Nodup
  grantPairs : (t.grants.map fun r => (r.serverId, r.userId)).Nodup
  channelIds : (t.channels.map (·.id)).Nodup
  overrideIds : (t.overrides.map (·.id)).Nodup
  overridePairs : (t.overrides.map fun r => (r.channelId, r.roleId)).Nodup

/-- Every row that is referred to exists, and partners live in one server. -/
structure Linked (t : Tables ι τ μ β) : Prop where
  owners : ∀ r ∈ t.servers, ∃ user ∈ t.users, user.id = r.ownerId
  subscriptionServers : ∀ r ∈ t.subscriptions, ∃ server ∈ t.servers, server.id = r.serverId
  subscriptionUsers : ∀ r ∈ t.subscriptions, ∃ user ∈ t.users, user.id = r.userId
  roleServers : ∀ r ∈ t.roles, ∃ server ∈ t.servers, server.id = r.serverId
  assignmentSubscriptions : ∀ r ∈ t.assignments, ∃ sub ∈ t.subscriptions,
    sub.id = r.subscriptionId ∧ sub.serverId = r.serverId ∧ sub.userId = r.userId
  assignmentRoles : ∀ r ∈ t.assignments, ∃ role ∈ t.roles,
    role.id = r.roleId ∧ role.serverId = r.serverId
  grantServers : ∀ r ∈ t.grants, ∃ server ∈ t.servers, server.id = r.serverId
  grantUsers : ∀ r ∈ t.grants, ∃ user ∈ t.users, user.id = r.userId
  channelServers : ∀ r ∈ t.channels, ∃ server ∈ t.servers, server.id = r.serverId
  overrideChannels : ∀ r ∈ t.overrides, ∃ channel ∈ t.channels,
    channel.id = r.channelId ∧ channel.serverId = r.serverId
  overrideRoles : ∀ r ∈ t.overrides, ∃ role ∈ t.roles,
    role.id = r.roleId ∧ role.serverId = r.serverId

/-- Keyed and linked. That the servers of assignments and overrides exist, and the users of
assignments, follows from their partners. -/
structure Consistent (t : Tables ι τ μ β) : Prop extends t.Keyed, t.Linked where
  assignmentServers : ∀ r ∈ t.assignments, ∃ server ∈ t.servers, server.id = r.serverId
  assignmentUsers : ∀ r ∈ t.assignments, ∃ user ∈ t.users, user.id = r.userId
  overrideServers : ∀ r ∈ t.overrides, ∃ server ∈ t.servers, server.id = r.serverId

variable {t : Tables ι τ μ β}

theorem Consistent.of_linked (keyed : t.Keyed) (linked : t.Linked) : t.Consistent where
  toKeyed := keyed
  toLinked := linked
  assignmentServers := by
    intro r stored
    obtain ⟨sub, subscribed, -, inside, -⟩ := linked.assignmentSubscriptions r stored
    exact inside ▸ linked.subscriptionServers sub subscribed
  assignmentUsers := by
    intro r stored
    obtain ⟨sub, subscribed, -, -, same⟩ := linked.assignmentSubscriptions r stored
    exact same ▸ linked.subscriptionUsers sub subscribed
  overrideServers := by
    intro r stored
    obtain ⟨channel, there, -, inside⟩ := linked.overrideChannels r stored
    exact inside ▸ linked.channelServers channel there

theorem keyed_empty : (empty : Tables ι τ μ β).Keyed := by
  constructor <;> exact List.nodup_nil

theorem linked_empty : (empty : Tables ι τ μ β).Linked := by
  constructor <;> exact fun _ stored => nomatch stored

end Tables

end Gatehouse.Store
