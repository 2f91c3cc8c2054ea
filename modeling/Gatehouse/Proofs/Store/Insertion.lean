import Gatehouse.Proofs.Store.Consistent

/-! # Insertions keep tables consistent

A row goes in if no constraint is broken: then its id and its pair of columns are new, and what it
refers to is there. For an assignment and for an override this is not enough, since no constraint
says that the partners live in one server; that they do is asked for here.
-/

namespace Gatehouse.Store

namespace Tables

variable {ι τ μ β : Type} {t t' : Tables ι τ μ β}

private theorem unlessBroken_eq_ok_iff {α : Type} {checks : List (Bool × DatabaseFault)} {a b : α} :
    unlessBroken checks a = .ok b ↔ (∀ check ∈ checks, check.1 = false) ∧ a = b := by
  induction checks with
  | nil => simp [unlessBroken]
  | cons check rest ih =>
    obtain ⟨broken, fault⟩ := check
    cases broken <;> simp [unlessBroken, ih]

private theorem nodup_map_append {α κ : Type} {rows : List α} {row : α} {key : α → κ}
    (distinct : (rows.map key).Nodup) (fresh : ∀ r ∈ rows, key r ≠ key row) :
    ((rows ++ [row]).map key).Nodup := by
  rw [List.map_append, List.map_singleton, List.nodup_append]
  refine ⟨distinct, by simp, ?_⟩
  rintro a taken b new rfl
  obtain ⟨r, stored, same⟩ := List.mem_map.mp taken
  exact fresh r stored (same.trans (List.mem_singleton.mp new))

theorem forall_mem_append_singleton {α : Type} {rows : List α} {row : α} {P : α → Prop} :
    (∀ r ∈ rows ++ [row], P r) ↔ (∀ r ∈ rows, P r) ∧ P row := by
  simp [or_imp, forall_and]

/-- What was there is still there when a row has come. -/
theorem exists_mem_append {α : Type} {rows more : List α} {P : α → Prop} (there : ∃ r ∈ rows, P r) :
    ∃ r ∈ rows ++ more, P r := by
  obtain ⟨r, stored, holds⟩ := there
  exact ⟨r, List.mem_append_left more stored, holds⟩

variable [DecidableEq ι]

theorem insertUser_eq_ok_iff {row : UserRow ι τ} :
    t.insertUser row = .ok t' ↔
      ((∀ r ∈ t.users, r.username ≠ row.username) ∧ ∀ r ∈ t.users, r.id ≠ row.id) ∧
        { t with users := t.users ++ [row] } = t' := by
  simp [insertUser, unlessBroken_eq_ok_iff, hasUser]

theorem Keyed.insertUser (keyed : t.Keyed) {row : UserRow ι τ} (inserted : t.insertUser row = .ok t') :
    t'.Keyed := by
  obtain ⟨⟨name, id⟩, rfl⟩ := insertUser_eq_ok_iff.mp inserted
  exact { keyed with
    userIds := nodup_map_append keyed.userIds id
    usernames := nodup_map_append keyed.usernames name }

theorem Linked.insertUser (linked : t.Linked) {row : UserRow ι τ}
    (inserted : t.insertUser row = .ok t') : t'.Linked := by
  obtain ⟨-, rfl⟩ := insertUser_eq_ok_iff.mp inserted
  exact { linked with
    owners := fun r stored => exists_mem_append (linked.owners r stored)
    subscriptionUsers := fun r stored => exists_mem_append (linked.subscriptionUsers r stored)
    grantUsers := fun r stored => exists_mem_append (linked.grantUsers r stored) }

theorem insertServer_eq_ok_iff {row : ServerRow ι τ} :
    t.insertServer row = .ok t' ↔
      ((∀ r ∈ t.servers, r.id ≠ row.id) ∧ ∃ user ∈ t.users, user.id = row.ownerId) ∧
        { t with servers := t.servers ++ [row] } = t' := by
  simp [insertServer, unlessBroken_eq_ok_iff, hasServer, hasUser]

theorem Keyed.insertServer (keyed : t.Keyed) {row : ServerRow ι τ}
    (inserted : t.insertServer row = .ok t') : t'.Keyed := by
  obtain ⟨⟨id, -⟩, rfl⟩ := insertServer_eq_ok_iff.mp inserted
  exact { keyed with serverIds := nodup_map_append keyed.serverIds id }

theorem Linked.insertServer (linked : t.Linked) {row : ServerRow ι τ}
    (inserted : t.insertServer row = .ok t') : t'.Linked := by
  obtain ⟨⟨-, owner⟩, rfl⟩ := insertServer_eq_ok_iff.mp inserted
  exact { linked with
    owners := forall_mem_append_singleton.mpr ⟨linked.owners, owner⟩
    subscriptionServers := fun r stored => exists_mem_append (linked.subscriptionServers r stored)
    roleServers := fun r stored => exists_mem_append (linked.roleServers r stored)
    grantServers := fun r stored => exists_mem_append (linked.grantServers r stored)
    channelServers := fun r stored => exists_mem_append (linked.channelServers r stored) }

theorem insertSubscription_eq_ok_iff {row : SubscriptionRow ι τ} :
    t.insertSubscription row = .ok t' ↔
      ((∀ r ∈ t.subscriptions, (r.serverId, r.userId) ≠ (row.serverId, row.userId)) ∧
        (∀ r ∈ t.subscriptions, r.id ≠ row.id) ∧
        (∃ server ∈ t.servers, server.id = row.serverId) ∧
        ∃ user ∈ t.users, user.id = row.userId) ∧
        { t with subscriptions := t.subscriptions ++ [row] } = t' := by
  simp [insertSubscription, unlessBroken_eq_ok_iff, hasSubscription, hasServer, hasUser]

theorem Keyed.insertSubscription (keyed : t.Keyed) {row : SubscriptionRow ι τ}
    (inserted : t.insertSubscription row = .ok t') : t'.Keyed := by
  obtain ⟨⟨pair, id, -⟩, rfl⟩ := insertSubscription_eq_ok_iff.mp inserted
  exact { keyed with
    subscriptionIds := nodup_map_append keyed.subscriptionIds id
    subscriptionPairs := nodup_map_append keyed.subscriptionPairs pair }

theorem Linked.insertSubscription (linked : t.Linked) {row : SubscriptionRow ι τ}
    (inserted : t.insertSubscription row = .ok t') : t'.Linked := by
  obtain ⟨⟨-, -, server, user⟩, rfl⟩ := insertSubscription_eq_ok_iff.mp inserted
  exact { linked with
    subscriptionServers := forall_mem_append_singleton.mpr ⟨linked.subscriptionServers, server⟩
    subscriptionUsers := forall_mem_append_singleton.mpr ⟨linked.subscriptionUsers, user⟩
    assignmentSubscriptions := fun r stored =>
      exists_mem_append (linked.assignmentSubscriptions r stored) }

theorem insertRole_eq_ok_iff {row : RoleRow ι μ} :
    t.insertRole row = .ok t' ↔
      ((∀ r ∈ t.roles, r.id ≠ row.id) ∧ ∃ server ∈ t.servers, server.id = row.serverId) ∧
        { t with roles := t.roles ++ [row] } = t' := by
  simp [insertRole, unlessBroken_eq_ok_iff, hasRole, hasServer]

theorem Keyed.insertRole (keyed : t.Keyed) {row : RoleRow ι μ} (inserted : t.insertRole row = .ok t') :
    t'.Keyed := by
  obtain ⟨⟨id, -⟩, rfl⟩ := insertRole_eq_ok_iff.mp inserted
  exact { keyed with roleIds := nodup_map_append keyed.roleIds id }

theorem Linked.insertRole (linked : t.Linked) {row : RoleRow ι μ}
    (inserted : t.insertRole row = .ok t') : t'.Linked := by
  obtain ⟨⟨-, server⟩, rfl⟩ := insertRole_eq_ok_iff.mp inserted
  exact { linked with
    roleServers := forall_mem_append_singleton.mpr ⟨linked.roleServers, server⟩
    assignmentRoles := fun r stored => exists_mem_append (linked.assignmentRoles r stored)
    overrideRoles := fun r stored => exists_mem_append (linked.overrideRoles r stored) }

theorem insertAssignment_eq_ok_iff {row : AssignmentRow ι} :
    t.insertAssignment row = .ok t' ↔
      ((∀ r ∈ t.assignments, (r.subscriptionId, r.roleId) ≠ (row.subscriptionId, row.roleId)) ∧
        (∀ r ∈ t.assignments, r.id ≠ row.id) ∧
        ((∃ server ∈ t.servers, server.id = row.serverId) ∧
          ∃ sub ∈ t.subscriptions, sub.id = row.subscriptionId) ∧
        ∃ role ∈ t.roles, role.id = row.roleId) ∧
        { t with assignments := t.assignments ++ [row] } = t' := by
  simp [insertAssignment, unlessBroken_eq_ok_iff, hasAssignment, hasServer, hasSubscription, hasRole]

theorem Keyed.insertAssignment (keyed : t.Keyed) {row : AssignmentRow ι}
    (inserted : t.insertAssignment row = .ok t') : t'.Keyed := by
  obtain ⟨⟨pair, id, -⟩, rfl⟩ := insertAssignment_eq_ok_iff.mp inserted
  exact { keyed with
    assignmentIds := nodup_map_append keyed.assignmentIds id
    assignmentPairs := nodup_map_append keyed.assignmentPairs pair }

theorem Linked.insertAssignment (linked : t.Linked) {row : AssignmentRow ι}
    (inserted : t.insertAssignment row = .ok t')
    (sub : ∃ sub ∈ t.subscriptions,
      sub.id = row.subscriptionId ∧ sub.serverId = row.serverId ∧ sub.userId = row.userId)
    (role : ∃ role ∈ t.roles, role.id = row.roleId ∧ role.serverId = row.serverId) :
    t'.Linked := by
  obtain ⟨-, rfl⟩ := insertAssignment_eq_ok_iff.mp inserted
  exact { linked with
    assignmentSubscriptions :=
      forall_mem_append_singleton.mpr ⟨linked.assignmentSubscriptions, sub⟩
    assignmentRoles := forall_mem_append_singleton.mpr ⟨linked.assignmentRoles, role⟩ }

/-- A grant with the flags of another one, if it is for the same user on the same server. -/
def reflagged (row r : GrantRow ι β) : GrantRow ι β :=
  if r.serverId = row.serverId && r.userId = row.userId then
    { r with readAll := row.readAll, writeAll := row.writeAll, deleteAll := row.deleteAll }
  else r

private theorem reflagged_id (row r : GrantRow ι β) : (reflagged row r).id = r.id := by
  unfold reflagged
  split <;> rfl

theorem reflagged_serverId (row r : GrantRow ι β) : (reflagged row r).serverId = r.serverId := by
  unfold reflagged
  split <;> rfl

theorem reflagged_userId (row r : GrantRow ι β) : (reflagged row r).userId = r.userId := by
  unfold reflagged
  split <;> rfl

/-- The first grant of a user on a server is a new row. -/
theorem upsertGrant_eq_ok_iff_of_new {row : GrantRow ι β}
    (pair : ∀ r ∈ t.grants, (r.serverId, r.userId) ≠ (row.serverId, row.userId)) :
    t.upsertGrant row = .ok t' ↔
      ((∀ r ∈ t.grants, r.id ≠ row.id) ∧ (∃ server ∈ t.servers, server.id = row.serverId) ∧
        ∃ user ∈ t.users, user.id = row.userId) ∧
        { t with grants := t.grants ++ [row] } = t' := by
  have new : ¬(t.grants.any fun r => r.serverId = row.serverId && r.userId = row.userId) = true := by
    simpa using pair
  simp only [upsertGrant, if_neg new]
  simp [unlessBroken_eq_ok_iff, hasGrant, hasServer, hasUser]

/-- A grant changes the flags of the one that is there, or else it is a new row. -/
theorem upsertGrant_cases {row : GrantRow ι β} (upserted : t.upsertGrant row = .ok t') :
    { t with grants := t.grants.map (reflagged row) } = t' ∨
      ((∀ r ∈ t.grants, (r.serverId, r.userId) ≠ (row.serverId, row.userId)) ∧
        (∀ r ∈ t.grants, r.id ≠ row.id) ∧
        (∃ server ∈ t.servers, server.id = row.serverId) ∧
        ∃ user ∈ t.users, user.id = row.userId) ∧
        { t with grants := t.grants ++ [row] } = t' := by
  by_cases pair : ∀ r ∈ t.grants, (r.serverId, r.userId) ≠ (row.serverId, row.userId)
  · obtain ⟨checked, same⟩ := (upsertGrant_eq_ok_iff_of_new pair).mp upserted
    exact .inr ⟨⟨pair, checked⟩, same⟩
  · have there : (t.grants.any fun r => r.serverId = row.serverId && r.userId = row.userId) = true := by
      simpa using pair
    simp only [upsertGrant, if_pos there] at upserted
    exact .inl (Except.ok.inj upserted)

theorem Keyed.upsertGrant (keyed : t.Keyed) {row : GrantRow ι β}
    (upserted : t.upsertGrant row = .ok t') : t'.Keyed := by
  obtain rfl | ⟨⟨pair, id, -⟩, rfl⟩ := upsertGrant_cases upserted
  · refine { keyed with grantIds := ?_, grantPairs := ?_ }
    · simpa [Function.comp_def, reflagged_id] using keyed.grantIds
    · simpa [Function.comp_def, reflagged_serverId, reflagged_userId] using keyed.grantPairs
  · exact { keyed with
      grantIds := nodup_map_append keyed.grantIds id
      grantPairs := nodup_map_append keyed.grantPairs pair }

theorem Linked.upsertGrant (linked : t.Linked) {row : GrantRow ι β}
    (upserted : t.upsertGrant row = .ok t') : t'.Linked := by
  obtain rfl | ⟨⟨-, -, server, user⟩, rfl⟩ := upsertGrant_cases upserted
  · refine { linked with grantServers := ?_, grantUsers := ?_ }
    · simpa [reflagged_serverId] using linked.grantServers
    · simpa [reflagged_userId] using linked.grantUsers
  · exact { linked with
      grantServers := forall_mem_append_singleton.mpr ⟨linked.grantServers, server⟩
      grantUsers := forall_mem_append_singleton.mpr ⟨linked.grantUsers, user⟩ }

theorem insertChannel_eq_ok_iff {row : ChannelRow ι β τ} :
    t.insertChannel row = .ok t' ↔
      ((∀ r ∈ t.channels, r.id ≠ row.id) ∧ ∃ server ∈ t.servers, server.id = row.serverId) ∧
        { t with channels := t.channels ++ [row] } = t' := by
  simp [insertChannel, unlessBroken_eq_ok_iff, hasChannel, hasServer]

theorem Keyed.insertChannel (keyed : t.Keyed) {row : ChannelRow ι β τ}
    (inserted : t.insertChannel row = .ok t') : t'.Keyed := by
  obtain ⟨⟨id, -⟩, rfl⟩ := insertChannel_eq_ok_iff.mp inserted
  exact { keyed with channelIds := nodup_map_append keyed.channelIds id }

theorem Linked.insertChannel (linked : t.Linked) {row : ChannelRow ι β τ}
    (inserted : t.insertChannel row = .ok t') : t'.Linked := by
  obtain ⟨⟨-, server⟩, rfl⟩ := insertChannel_eq_ok_iff.mp inserted
  exact { linked with
    channelServers := forall_mem_append_singleton.mpr ⟨linked.channelServers, server⟩
    overrideChannels := fun r stored => exists_mem_append (linked.overrideChannels r stored) }

theorem insertOverride_eq_ok_iff {row : OverrideRow ι} :
    t.insertOverride row = .ok t' ↔
      ((∀ r ∈ t.overrides, (r.channelId, r.roleId) ≠ (row.channelId, row.roleId)) ∧
        (∀ r ∈ t.overrides, r.id ≠ row.id) ∧
        ((∃ server ∈ t.servers, server.id = row.serverId) ∧
          ∃ channel ∈ t.channels, channel.id = row.channelId) ∧
        ∃ role ∈ t.roles, role.id = row.roleId) ∧
        { t with overrides := t.overrides ++ [row] } = t' := by
  simp [insertOverride, unlessBroken_eq_ok_iff, hasOverride, hasServer, hasChannel, hasRole]

theorem Keyed.insertOverride (keyed : t.Keyed) {row : OverrideRow ι}
    (inserted : t.insertOverride row = .ok t') : t'.Keyed := by
  obtain ⟨⟨pair, id, -⟩, rfl⟩ := insertOverride_eq_ok_iff.mp inserted
  exact { keyed with
    overrideIds := nodup_map_append keyed.overrideIds id
    overridePairs := nodup_map_append keyed.overridePairs pair }

theorem Linked.insertOverride (linked : t.Linked) {row : OverrideRow ι}
    (inserted : t.insertOverride row = .ok t')
    (channel : ∃ channel ∈ t.channels,
      channel.id = row.channelId ∧ channel.serverId = row.serverId)
    (role : ∃ role ∈ t.roles, role.id = row.roleId ∧ role.serverId = row.serverId) :
    t'.Linked := by
  obtain ⟨-, rfl⟩ := insertOverride_eq_ok_iff.mp inserted
  exact { linked with
    overrideChannels := forall_mem_append_singleton.mpr ⟨linked.overrideChannels, channel⟩
    overrideRoles := forall_mem_append_singleton.mpr ⟨linked.overrideRoles, role⟩ }

end Tables

end Gatehouse.Store
