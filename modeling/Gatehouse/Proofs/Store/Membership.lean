import Gatehouse.Proofs.Store.Run
import Gatehouse.Proofs.Store.Slice

/-! # Owners are members

The owner of a server is subscribed to it. A new server comes with the subscription of its owner, and
no later insertion takes a subscription away. A removal that cascades takes the owner's subscription
only where it takes the server too. What is left is the deletion of one subscription, which must not
be an owner's.
-/

namespace Gatehouse.Store

namespace Tables

variable {ι τ μ β : Type} {t t' : Tables ι τ μ β}

/-- Every server has a subscription of its owner. -/
def OwnersJoined (t : Tables ι τ μ β) : Prop :=
  ∀ server ∈ t.servers, ∃ sub ∈ t.subscriptions,
    sub.serverId = server.id ∧ sub.userId = server.ownerId

theorem ownersJoined_empty : (empty : Tables ι τ μ β).OwnersJoined :=
  fun _ stored => nomatch stored

/-- Only servers and subscriptions matter. -/
theorem OwnersJoined.congr (joined : t.OwnersJoined) (servers : t'.servers = t.servers)
    (subscriptions : t'.subscriptions = t.subscriptions) : t'.OwnersJoined := by
  unfold OwnersJoined
  rw [servers, subscriptions]
  exact joined

variable [DecidableEq ι]

theorem OwnersJoined.insertSubscription (joined : t.OwnersJoined) {row : SubscriptionRow ι τ}
    (inserted : t.insertSubscription row = .ok t') : t'.OwnersJoined := by
  obtain ⟨-, rfl⟩ := insertSubscription_eq_ok_iff.mp inserted
  exact fun server stored => exists_mem_append (joined server stored)

/-- A new server and the subscription of its owner come together. -/
theorem OwnersJoined.insertServer (joined : t.OwnersJoined) {between : Tables ι τ μ β}
    {server : ServerRow ι τ} {sub : SubscriptionRow ι τ}
    (inserted : t.insertServer server = .ok between)
    (subscribed : between.insertSubscription sub = .ok t') (inside : sub.serverId = server.id)
    (owner : sub.userId = server.ownerId) : t'.OwnersJoined := by
  obtain ⟨-, rfl⟩ := insertServer_eq_ok_iff.mp inserted
  obtain ⟨-, rfl⟩ := insertSubscription_eq_ok_iff.mp subscribed
  refine forall_mem_append_singleton.mpr ⟨?old, ?new⟩
  case old => exact fun old stored => exists_mem_append (joined old stored)
  case new => exact ⟨sub, List.mem_append_right _ (List.mem_singleton.mpr rfl), inside, owner⟩

/-- Subscriptions may go if no owner's is among them. -/
theorem OwnersJoined.removeSubscriptions (joined : t.OwnersJoined) {p : SubscriptionRow ι τ → Bool}
    (spares : ∀ server ∈ t.servers, ∀ sub ∈ t.subscriptions, sub.serverId = server.id →
      sub.userId = server.ownerId → p sub = false) : (t.removeSubscriptions p).OwnersJoined := by
  intro server stored
  obtain ⟨sub, subscribed, inside, owner⟩ := joined server stored
  have kept : (!p sub) = true := by rw [spares server stored sub subscribed inside owner, Bool.not_false]
  exact ⟨sub, List.mem_filter.mpr ⟨subscribed, kept⟩, inside, owner⟩

private theorem emptied_subscriptions {gone : ι → Bool} :
    (t.emptied gone).subscriptions = t.subscriptions.filter fun r => !gone r.serverId := by
  simp only [emptied, removeOverrides, removeGrants, removeAssignments, removeChannels, removeRoles,
    removeSubscriptions]

theorem OwnersJoined.removeServers (joined : t.OwnersJoined) (keyed : t.Keyed)
    (p : ServerRow ι τ → Bool) : (t.removeServers p).OwnersJoined := by
  rw [removeServers_eq]
  intro server stored
  simp only [dropServers, emptied_servers, emptied_subscriptions] at stored ⊢
  obtain ⟨stored, stays⟩ := List.mem_filter.mp stored
  obtain ⟨sub, subscribed, inside, owner⟩ := joined server stored
  refine ⟨sub, List.mem_filter.mpr ⟨subscribed, ?_⟩, inside, owner⟩
  cases taken : t.servers.any fun r => p r && r.id = sub.serverId with
  | false => rfl
  | true =>
    rw [hit_of_taken keyed.serverIds taken stored inside.symm] at stays
    cases stays

theorem OwnersJoined.removeUsers (joined : t.OwnersJoined) (keyed : t.Keyed)
    (p : UserRow ι τ → Bool) : (t.removeUsers p).OwnersJoined := by
  rw [removeUsers_eq]
  generalize (fun id => t.users.any fun r => p r && r.id = id) = gone
  have joined : (t.removeServers (gone ·.ownerId)).OwnersJoined := joined.removeServers keyed _
  -- the servers of the users who go are gone already
  have spares : ∀ server ∈ (t.removeServers (gone ·.ownerId)).servers,
      ∀ sub ∈ (t.removeServers (gone ·.ownerId)).subscriptions, sub.serverId = server.id →
        sub.userId = server.ownerId → gone sub.userId = false := by
    rintro server stored sub - - owner
    rw [removeServers_eq, dropServers, emptied_servers] at stored
    rw [owner]
    exact (Bool.not_eq_true' _).mp (List.mem_filter.mp stored).2
  exact (joined.removeSubscriptions spares).congr rfl rfl

end Tables

namespace Write

variable {t t' : StoredTables} {write : Write}

/-- Whether a write has to do with neither servers nor subscriptions. -/
def aside : Write → Bool
  | .createServer _ _ _ | .createSubscription _ | .deleteUser _ | .deleteServer _
  | .deleteSubscription _ => false
  | _ => true

private theorem Effect.of_aside (other : write.aside = true) (effect : write.Effect t t') :
    t'.servers = t.servers ∧ t'.subscriptions = t.subscriptions := by
  cases write with
  | createUser row =>
    obtain ⟨-, rfl⟩ := Tables.insertUser_eq_ok_iff.mp effect
    exact ⟨rfl, rfl⟩
  | createRole row =>
    obtain ⟨-, rfl⟩ := Tables.insertRole_eq_ok_iff.mp effect
    exact ⟨rfl, rfl⟩
  | createAssignment row =>
    obtain ⟨-, rfl⟩ := Tables.insertAssignment_eq_ok_iff.mp effect.2.2
    exact ⟨rfl, rfl⟩
  | createGrant row =>
    obtain rfl | ⟨-, rfl⟩ := Tables.upsertGrant_cases effect <;> exact ⟨rfl, rfl⟩
  | createChannel row =>
    obtain ⟨-, rfl⟩ := Tables.insertChannel_eq_ok_iff.mp effect
    exact ⟨rfl, rfl⟩
  | createOverride row =>
    obtain ⟨-, rfl⟩ := Tables.insertOverride_eq_ok_iff.mp effect.2.2
    exact ⟨rfl, rfl⟩
  | deleteRole id | deleteAssignment id | deleteGrant id | deleteChannel id | deleteOverride id =>
    exact effect ▸ ⟨rfl, rfl⟩
  | createServer _ _ _ | createSubscription _ | deleteUser _ | deleteServer _
  | deleteSubscription _ => cases other

/-- The write does not delete the subscription of an owner. -/
def SparesOwners (t : StoredTables) : Write → Prop
  | .deleteSubscription id => ∀ server ∈ t.servers, ∀ sub ∈ t.subscriptions,
      sub.serverId = server.id → sub.userId = server.ownerId → sub.id ≠ id.text
  | _ => True

private theorem Effect.ownersJoined (keyed : t.Keyed) (joined : t.OwnersJoined)
    (spares : write.SparesOwners t) (effect : write.Effect t t') : t'.OwnersJoined := by
  cases write with
  | createServer row joining moment =>
    obtain ⟨between, inserted, subscribed⟩ := effect
    exact joined.insertServer inserted subscribed rfl rfl
  | createSubscription row => exact joined.insertSubscription effect
  | deleteUser id => exact effect ▸ joined.removeUsers keyed _
  | deleteServer id => exact effect ▸ joined.removeServers keyed _
  | deleteSubscription id =>
    rw [← effect]
    apply joined.removeSubscriptions
    intro server stored sub subscribed inside owner
    exact decide_eq_false (spares server stored sub subscribed inside owner)
  | _ =>
    obtain ⟨servers, subscriptions⟩ := effect.of_aside rfl
    exact joined.congr servers subscriptions

/-- Every write but the deletion of an owner's subscription keeps all owners subscribed. -/
theorem ownersJoined_apply (sound : t.Sound) (joined : t.OwnersJoined)
    (spares : write.SparesOwners t) : (write.change.apply t).2.OwnersJoined := by
  obtain unchanged | effect := apply_cases sound.recorded write
  · rwa [unchanged]
  · exact effect.ownersJoined sound.keyed joined spares

/-- A server was there before, or its id is new. -/
theorem Effect.server_cases (effect : write.Effect t t') :
    ∀ r ∈ t'.servers, r ∈ t.servers ∨ ∀ old ∈ t.servers, old.id ≠ r.id := by
  cases write with
  | createServer row joining moment =>
    obtain ⟨between, inserted, subscribed⟩ := effect
    obtain ⟨⟨fresh, -⟩, rfl⟩ := Tables.insertServer_eq_ok_iff.mp inserted
    obtain ⟨-, rfl⟩ := Tables.insertSubscription_eq_ok_iff.mp subscribed
    exact Tables.forall_mem_append_singleton.mpr ⟨fun r stored => .inl stored, .inr fresh⟩
  | createSubscription row =>
    obtain ⟨-, rfl⟩ := Tables.insertSubscription_eq_ok_iff.mp effect
    exact fun r stored => .inl stored
  | deleteUser id | deleteServer id | deleteSubscription id =>
    exact fun r stored => .inl ((effect.part rfl).servers.subset stored)
  | _ =>
    rw [(effect.of_aside rfl).1]
    exact fun r stored => .inl stored

/-- A subscription was there before, or its id is new. -/
theorem Effect.subscription_cases (effect : write.Effect t t') :
    ∀ r ∈ t'.subscriptions, r ∈ t.subscriptions ∨ ∀ old ∈ t.subscriptions, old.id ≠ r.id := by
  cases write with
  | createServer row joining moment =>
    obtain ⟨between, inserted, subscribed⟩ := effect
    obtain ⟨-, rfl⟩ := Tables.insertServer_eq_ok_iff.mp inserted
    obtain ⟨⟨-, fresh, -⟩, rfl⟩ := Tables.insertSubscription_eq_ok_iff.mp subscribed
    exact Tables.forall_mem_append_singleton.mpr ⟨fun r stored => .inl stored, .inr fresh⟩
  | createSubscription row =>
    obtain ⟨⟨-, fresh, -⟩, rfl⟩ := Tables.insertSubscription_eq_ok_iff.mp effect
    exact Tables.forall_mem_append_singleton.mpr ⟨fun r stored => .inl stored, .inr fresh⟩
  | deleteUser id | deleteServer id | deleteSubscription id =>
    exact fun r stored => .inl ((effect.part rfl).subscriptions.subset stored)
  | _ =>
    rw [(effect.of_aside rfl).2]
    exact fun r stored => .inl stored

end Write

end Gatehouse.Store
