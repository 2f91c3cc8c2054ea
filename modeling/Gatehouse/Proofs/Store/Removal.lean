import Gatehouse.Proofs.Store.Consistent

/-! # Removals keep tables consistent

A removal leaves a part of the rows in their order, so what differed still differs. A row that is
removed takes along whatever refers to it, so no row that stays refers to one that is gone.
-/

namespace Gatehouse.Store

namespace Tables

variable {ι τ μ β : Type} {t t' t'' : Tables ι τ μ β}

def dropServers (p : ServerRow ι τ → Bool) (t : Tables ι τ μ β) : Tables ι τ μ β :=
  { t with servers := t.servers.filter fun r => !p r }

def dropUsers (p : UserRow ι τ → Bool) (t : Tables ι τ μ β) : Tables ι τ μ β :=
  { t with users := t.users.filter fun r => !p r }

section Steps

variable [DecidableEq ι]

/-- The tables without what lives in some servers. -/
def emptied (gone : ι → Bool) (t : Tables ι τ μ β) : Tables ι τ μ β :=
  ((((((t.removeSubscriptions (gone ·.serverId)).removeRoles (gone ·.serverId)).removeChannels
    (gone ·.serverId)).removeAssignments (gone ·.serverId)).removeGrants
    (gone ·.serverId)).removeOverrides (gone ·.serverId))

/-- The tables without what some users own and what is about them. -/
def abandoned (gone : ι → Bool) (t : Tables ι τ μ β) : Tables ι τ μ β :=
  ((t.removeServers (gone ·.ownerId)).removeSubscriptions (gone ·.userId)).removeGrants
    (gone ·.userId)

theorem removeServers_eq (p : ServerRow ι τ → Bool) :
    t.removeServers p =
      (t.emptied fun id => t.servers.any fun r => p r && r.id = id).dropServers p := rfl

theorem removeUsers_eq (p : UserRow ι τ → Bool) :
    t.removeUsers p =
      (t.abandoned fun id => t.users.any fun r => p r && r.id = id).dropUsers p := rfl

variable {gone : ι → Bool}

private theorem emptied_users : (t.emptied gone).users = t.users := by
  simp only [emptied, removeOverrides, removeGrants, removeAssignments, removeChannels, removeRoles,
    removeSubscriptions]

theorem emptied_servers : (t.emptied gone).servers = t.servers := by
  simp only [emptied, removeOverrides, removeGrants, removeAssignments, removeChannels, removeRoles,
    removeSubscriptions]

private theorem abandoned_users : (t.abandoned gone).users = t.users := by
  simp only [abandoned, removeGrants, removeAssignments, removeSubscriptions, removeServers_eq,
    dropServers, emptied_users]

private theorem abandoned_servers :
    (t.abandoned gone).servers = t.servers.filter fun r => !gone r.ownerId := by
  simp only [abandoned, removeGrants, removeAssignments, removeSubscriptions, removeServers_eq,
    dropServers, emptied_servers]

theorem removeServers_servers (p : ServerRow ι τ → Bool) :
    (t.removeServers p).servers = t.servers.filter fun r => !p r := by
  rw [removeServers_eq]
  simp only [dropServers, emptied_servers]

theorem removeUsers_users (p : UserRow ι τ → Bool) :
    (t.removeUsers p).users = t.users.filter fun r => !p r := by
  rw [removeUsers_eq]
  simp only [dropUsers, abandoned_users]

end Steps

/-- Some of the rows, in their order. -/
structure Part (t' t : Tables ι τ μ β) : Prop where
  users : t'.users.Sublist t.users
  servers : t'.servers.Sublist t.servers
  subscriptions : t'.subscriptions.Sublist t.subscriptions
  roles : t'.roles.Sublist t.roles
  assignments : t'.assignments.Sublist t.assignments
  grants : t'.grants.Sublist t.grants
  channels : t'.channels.Sublist t.channels
  overrides : t'.overrides.Sublist t.overrides

theorem Part.trans (first : Part t'' t') (second : Part t' t) : Part t'' t where
  users := first.users.trans second.users
  servers := first.servers.trans second.servers
  subscriptions := first.subscriptions.trans second.subscriptions
  roles := first.roles.trans second.roles
  assignments := first.assignments.trans second.assignments
  grants := first.grants.trans second.grants
  channels := first.channels.trans second.channels
  overrides := first.overrides.trans second.overrides

/-- What differs in the whole differs in a part. -/
theorem Keyed.part (keyed : t.Keyed) (part : Part t' t) : t'.Keyed where
  userIds := keyed.userIds.sublist (part.users.map _)
  usernames := keyed.usernames.sublist (part.users.map _)
  serverIds := keyed.serverIds.sublist (part.servers.map _)
  subscriptionIds := keyed.subscriptionIds.sublist (part.subscriptions.map _)
  subscriptionPairs := keyed.subscriptionPairs.sublist (part.subscriptions.map _)
  roleIds := keyed.roleIds.sublist (part.roles.map _)
  assignmentIds := keyed.assignmentIds.sublist (part.assignments.map _)
  assignmentPairs := keyed.assignmentPairs.sublist (part.assignments.map _)
  grantIds := keyed.grantIds.sublist (part.grants.map _)
  grantPairs := keyed.grantPairs.sublist (part.grants.map _)
  channelIds := keyed.channelIds.sublist (part.channels.map _)
  overrideIds := keyed.overrideIds.sublist (part.overrides.map _)
  overridePairs := keyed.overridePairs.sublist (part.overrides.map _)

theorem removeAssignments_part (p : AssignmentRow ι → Bool) : Part (t.removeAssignments p) t := by
  constructor <;> simp [removeAssignments]

theorem removeOverrides_part (p : OverrideRow ι → Bool) : Part (t.removeOverrides p) t := by
  constructor <;> simp [removeOverrides]

theorem removeGrants_part (p : GrantRow ι β → Bool) : Part (t.removeGrants p) t := by
  constructor <;> simp [removeGrants]

private theorem dropServers_part (p : ServerRow ι τ → Bool) : Part (t.dropServers p) t := by
  constructor <;> simp [dropServers]

private theorem dropUsers_part (p : UserRow ι τ → Bool) : Part (t.dropUsers p) t := by
  constructor <;> simp [dropUsers]

section Parts

variable [DecidableEq ι]

theorem removeSubscriptions_part (p : SubscriptionRow ι τ → Bool) :
    Part (t.removeSubscriptions p) t := by
  constructor <;> simp [removeSubscriptions, removeAssignments]

theorem removeRoles_part (p : RoleRow ι μ → Bool) : Part (t.removeRoles p) t := by
  constructor <;> simp [removeRoles, removeAssignments, removeOverrides]

theorem removeChannels_part (p : ChannelRow ι β τ → Bool) : Part (t.removeChannels p) t := by
  constructor <;> simp [removeChannels, removeOverrides]

private theorem emptied_part (gone : ι → Bool) : Part (t.emptied gone) t := by
  refine (removeOverrides_part _).trans ?_
  refine (removeGrants_part _).trans ?_
  refine (removeAssignments_part _).trans ?_
  refine (removeChannels_part _).trans ?_
  exact (removeRoles_part _).trans (removeSubscriptions_part _)

theorem removeServers_part (p : ServerRow ι τ → Bool) : Part (t.removeServers p) t := by
  rw [removeServers_eq]
  exact (dropServers_part _).trans (emptied_part _)

private theorem abandoned_part (gone : ι → Bool) : Part (t.abandoned gone) t := by
  refine (removeGrants_part _).trans ?_
  exact (removeSubscriptions_part _).trans (removeServers_part _)

theorem removeUsers_part (p : UserRow ι τ → Bool) : Part (t.removeUsers p) t := by
  rw [removeUsers_eq]
  exact (dropUsers_part _).trans (abandoned_part _)

end Parts

theorem Linked.removeAssignments (linked : t.Linked) (p : AssignmentRow ι → Bool) :
    (t.removeAssignments p).Linked :=
  { linked with
    assignmentSubscriptions := fun r stored =>
      linked.assignmentSubscriptions r (List.mem_filter.mp stored).1
    assignmentRoles := fun r stored => linked.assignmentRoles r (List.mem_filter.mp stored).1 }

theorem Linked.removeOverrides (linked : t.Linked) (p : OverrideRow ι → Bool) :
    (t.removeOverrides p).Linked :=
  { linked with
    overrideChannels := fun r stored => linked.overrideChannels r (List.mem_filter.mp stored).1
    overrideRoles := fun r stored => linked.overrideRoles r (List.mem_filter.mp stored).1 }

theorem Linked.removeGrants (linked : t.Linked) (p : GrantRow ι β → Bool) :
    (t.removeGrants p).Linked :=
  { linked with
    grantServers := fun r stored => linked.grantServers r (List.mem_filter.mp stored).1
    grantUsers := fun r stored => linked.grantUsers r (List.mem_filter.mp stored).1 }

section References

variable [DecidableEq ι]

/-- A row stays if what referred to it by its id was not taken along. -/
theorem spared {α : Type} {rows : List α} {key : α → ι} {p : α → Bool} {id : ι} {a : α}
    (kept : (!rows.any fun r => p r && key r = id) = true) (stored : a ∈ rows) (named : key a = id) :
    a ∈ rows.filter fun r => !p r := by
  refine List.mem_filter.mpr ⟨stored, ?_⟩
  cases hit : p a with
  | false => rfl
  | true =>
    have gone : (rows.any fun r => p r && key r = id) = true :=
      List.any_eq_true.mpr ⟨a, stored, by simp [hit, named]⟩
    rw [gone] at kept
    cases kept

theorem Linked.removeSubscriptions (linked : t.Linked) (p : SubscriptionRow ι τ → Bool) :
    (t.removeSubscriptions p).Linked := by
  refine { linked.removeAssignments _ with
    subscriptionServers := ?servers, subscriptionUsers := ?users, assignmentSubscriptions := ?joined }
  case servers => exact fun r stored => linked.subscriptionServers r (List.mem_filter.mp stored).1
  case users => exact fun r stored => linked.subscriptionUsers r (List.mem_filter.mp stored).1
  case joined =>
    intro r stored
    obtain ⟨stored, kept⟩ := List.mem_filter.mp stored
    obtain ⟨sub, there, named, same⟩ := linked.assignmentSubscriptions r stored
    exact ⟨sub, spared kept there named, named, same⟩

theorem Linked.removeRoles (linked : t.Linked) (p : RoleRow ι μ → Bool) :
    (t.removeRoles p).Linked := by
  refine { (linked.removeAssignments _).removeOverrides _ with
    roleServers := ?servers, assignmentRoles := ?assigned, overrideRoles := ?restricted }
  case servers => exact fun r stored => linked.roleServers r (List.mem_filter.mp stored).1
  case assigned =>
    intro r stored
    obtain ⟨stored, kept⟩ := List.mem_filter.mp stored
    obtain ⟨role, there, named, same⟩ := linked.assignmentRoles r stored
    exact ⟨role, spared kept there named, named, same⟩
  case restricted =>
    intro r stored
    obtain ⟨stored, kept⟩ := List.mem_filter.mp stored
    obtain ⟨role, there, named, same⟩ := linked.overrideRoles r stored
    exact ⟨role, spared kept there named, named, same⟩

theorem Linked.removeChannels (linked : t.Linked) (p : ChannelRow ι β τ → Bool) :
    (t.removeChannels p).Linked := by
  refine { linked.removeOverrides _ with channelServers := ?servers, overrideChannels := ?joined }
  case servers => exact fun r stored => linked.channelServers r (List.mem_filter.mp stored).1
  case joined =>
    intro r stored
    obtain ⟨stored, kept⟩ := List.mem_filter.mp stored
    obtain ⟨channel, there, named, same⟩ := linked.overrideChannels r stored
    exact ⟨channel, spared kept there named, named, same⟩

theorem Linked.emptied (linked : t.Linked) (gone : ι → Bool) : (t.emptied gone).Linked := by
  have leavers := ((linked.removeSubscriptions (gone ·.serverId)).removeRoles
    (gone ·.serverId)).removeChannels (gone ·.serverId)
  exact ((leavers.removeAssignments _).removeGrants _).removeOverrides _

/-- Servers can go when no row lives in them any more. -/
theorem Linked.dropServers (linked : t.Linked) {p : ServerRow ι τ → Bool}
    (subscriptions : ∀ r ∈ t.subscriptions,
      (!t.servers.any fun s => p s && s.id = r.serverId) = true)
    (roles : ∀ r ∈ t.roles, (!t.servers.any fun s => p s && s.id = r.serverId) = true)
    (grants : ∀ r ∈ t.grants, (!t.servers.any fun s => p s && s.id = r.serverId) = true)
    (channels : ∀ r ∈ t.channels, (!t.servers.any fun s => p s && s.id = r.serverId) = true) :
    (t.dropServers p).Linked := by
  refine { linked with
    owners := fun s stored => linked.owners s (List.mem_filter.mp stored).1
    subscriptionServers := ?_, roleServers := ?_, grantServers := ?_, channelServers := ?_ }
  · intro r stored
    obtain ⟨s, there, named⟩ := linked.subscriptionServers r stored
    exact ⟨s, spared (subscriptions r stored) there named, named⟩
  · intro r stored
    obtain ⟨s, there, named⟩ := linked.roleServers r stored
    exact ⟨s, spared (roles r stored) there named, named⟩
  · intro r stored
    obtain ⟨s, there, named⟩ := linked.grantServers r stored
    exact ⟨s, spared (grants r stored) there named, named⟩
  · intro r stored
    obtain ⟨s, there, named⟩ := linked.channelServers r stored
    exact ⟨s, spared (channels r stored) there named, named⟩

theorem Linked.removeServers (linked : t.Linked) (p : ServerRow ι τ → Bool) :
    (t.removeServers p).Linked := by
  rw [removeServers_eq]
  refine (linked.emptied _).dropServers ?_ ?_ ?_ ?_
  all_goals
    rw [emptied_servers]
    exact fun r stored => (List.mem_filter.mp stored).2

/-- Users can go when they own nothing and no row is about them any more. -/
theorem Linked.dropUsers (linked : t.Linked) {p : UserRow ι τ → Bool}
    (servers : ∀ r ∈ t.servers, (!t.users.any fun u => p u && u.id = r.ownerId) = true)
    (subscriptions : ∀ r ∈ t.subscriptions, (!t.users.any fun u => p u && u.id = r.userId) = true)
    (grants : ∀ r ∈ t.grants, (!t.users.any fun u => p u && u.id = r.userId) = true) :
    (t.dropUsers p).Linked := by
  refine { linked with owners := ?_, subscriptionUsers := ?_, grantUsers := ?_ }
  · intro r stored
    obtain ⟨u, there, named⟩ := linked.owners r stored
    exact ⟨u, spared (servers r stored) there named, named⟩
  · intro r stored
    obtain ⟨u, there, named⟩ := linked.subscriptionUsers r stored
    exact ⟨u, spared (subscriptions r stored) there named, named⟩
  · intro r stored
    obtain ⟨u, there, named⟩ := linked.grantUsers r stored
    exact ⟨u, spared (grants r stored) there named, named⟩

theorem Linked.abandoned (linked : t.Linked) (gone : ι → Bool) : (t.abandoned gone).Linked :=
  ((linked.removeServers _).removeSubscriptions _).removeGrants _

theorem Linked.removeUsers (linked : t.Linked) (p : UserRow ι τ → Bool) :
    (t.removeUsers p).Linked := by
  rw [removeUsers_eq]
  refine (linked.abandoned _).dropUsers ?_ ?_ ?_
  · rw [abandoned_users, abandoned_servers]
    exact fun r stored => (List.mem_filter.mp stored).2
  all_goals
    rw [abandoned_users]
    exact fun r stored => (List.mem_filter.mp stored).2

end References

end Tables

end Gatehouse.Store
