import Gatehouse.Proofs.Store.Effect
import Gatehouse.Store.Schema

/-! # Runs of writes

Every write keeps the tables consistent, whether it succeeds or fails, so whatever is written to a
new database leaves it consistent.
-/

namespace Gatehouse.Store

/-- Consistent tables whose rows are rows of records. -/
structure Tables.Sound (t : StoredTables) : Prop where
  keyed : t.Keyed
  linked : t.Linked
  recorded : t.Recorded

theorem Tables.sound_empty : (Tables.empty : StoredTables).Sound :=
  ⟨keyed_empty, linked_empty, recorded_empty⟩

namespace Write

variable {t t' : StoredTables} {write : Write}

/-- Whether a write deletes. -/
def deletes : Write → Bool
  | .deleteUser _ | .deleteServer _ | .deleteSubscription _ | .deleteRole _ | .deleteAssignment _
  | .deleteGrant _ | .deleteChannel _ | .deleteOverride _ => true
  | _ => false

/-- A deletion leaves a part of the rows. -/
theorem Effect.part (deletion : write.deletes = true) (effect : write.Effect t t') :
    Tables.Part t' t := by
  cases write with
  | deleteUser id => exact effect ▸ Tables.removeUsers_part _
  | deleteServer id => exact effect ▸ Tables.removeServers_part _
  | deleteSubscription id => exact effect ▸ Tables.removeSubscriptions_part _
  | deleteRole id => exact effect ▸ Tables.removeRoles_part _
  | deleteAssignment id => exact effect ▸ Tables.removeAssignments_part _
  | deleteGrant id => exact effect ▸ Tables.removeGrants_part _
  | deleteChannel id => exact effect ▸ Tables.removeChannels_part _
  | deleteOverride id => exact effect ▸ Tables.removeOverrides_part _
  | _ => cases deletion

theorem Effect.keyed (keyed : t.Keyed) (effect : write.Effect t t') : t'.Keyed := by
  cases write with
  | createUser row => exact keyed.insertUser effect
  | createServer row joining joined =>
    obtain ⟨between, inserted, subscribed⟩ := effect
    exact (keyed.insertServer inserted).insertSubscription subscribed
  | createSubscription row => exact keyed.insertSubscription effect
  | createRole row => exact keyed.insertRole effect
  | createAssignment row => exact keyed.insertAssignment effect.2.2
  | createGrant row => exact keyed.upsertGrant effect
  | createChannel row => exact keyed.insertChannel effect
  | createOverride row => exact keyed.insertOverride effect.2.2
  | deleteUser id | deleteServer id | deleteSubscription id | deleteRole id | deleteAssignment id
  | deleteGrant id | deleteChannel id | deleteOverride id => exact keyed.part (effect.part rfl)

theorem Effect.linked (linked : t.Linked) (effect : write.Effect t t') : t'.Linked := by
  cases write with
  | createUser row => exact linked.insertUser effect
  | createServer row joining joined =>
    obtain ⟨between, inserted, subscribed⟩ := effect
    exact (linked.insertServer inserted).insertSubscription subscribed
  | createSubscription row => exact linked.insertSubscription effect
  | createRole row => exact linked.insertRole effect
  | createAssignment row =>
    obtain ⟨sub, role, inserted⟩ := effect
    exact linked.insertAssignment inserted sub role
  | createGrant row => exact linked.upsertGrant effect
  | createChannel row => exact linked.insertChannel effect
  | createOverride row =>
    obtain ⟨channel, role, inserted⟩ := effect
    exact linked.insertOverride inserted channel role
  | deleteUser id => exact effect ▸ linked.removeUsers _
  | deleteServer id => exact effect ▸ linked.removeServers _
  | deleteSubscription id => exact effect ▸ linked.removeSubscriptions _
  | deleteRole id => exact effect ▸ linked.removeRoles _
  | deleteAssignment id => exact effect ▸ linked.removeAssignments _
  | deleteGrant id => exact effect ▸ linked.removeGrants _
  | deleteChannel id => exact effect ▸ linked.removeChannels _
  | deleteOverride id => exact effect ▸ linked.removeOverrides _

private theorem recorded_insertSubscription (recorded : t.Recorded) {row : Subscription}
    (inserted : t.insertSubscription (storeSubscription row) = .ok t') : t'.Recorded := by
  obtain ⟨-, rfl⟩ := Tables.insertSubscription_eq_ok_iff.mp inserted
  exact { recorded with
    subscriptions := Tables.forall_mem_append_singleton.mpr ⟨recorded.subscriptions, row, rfl⟩ }

/-- A grant that takes over the flags of another record is a record again. -/
theorem reflagged_storeGrant (row record : Grant) :
    ∃ changed, storeGrant changed = Tables.reflagged (storeGrant row) (storeGrant record) := by
  unfold Tables.reflagged
  split
  · exact ⟨{ record with
      readAll := row.readAll, writeAll := row.writeAll, deleteAll := row.deleteAll }, rfl⟩
  · exact ⟨record, rfl⟩

private theorem recorded_upsertGrant (recorded : t.Recorded) {row : Grant}
    (upserted : t.upsertGrant (storeGrant row) = .ok t') : t'.Recorded := by
  obtain rfl | ⟨-, rfl⟩ := Tables.upsertGrant_cases upserted
  · refine { recorded with grants := ?_ }
    intro r stored
    obtain ⟨old, there, rfl⟩ := List.mem_map.mp stored
    obtain ⟨record, rfl⟩ := recorded.grants old there
    exact reflagged_storeGrant row record
  · exact { recorded with
      grants := Tables.forall_mem_append_singleton.mpr ⟨recorded.grants, row, rfl⟩ }

theorem Effect.recorded (recorded : t.Recorded) (effect : write.Effect t t') : t'.Recorded := by
  cases write with
  | createUser row =>
    obtain ⟨-, rfl⟩ := Tables.insertUser_eq_ok_iff.mp effect
    exact { recorded with
      users := Tables.forall_mem_append_singleton.mpr ⟨recorded.users, row, rfl⟩ }
  | createServer row joining joined =>
    obtain ⟨between, inserted, subscribed⟩ := effect
    obtain ⟨-, rfl⟩ := Tables.insertServer_eq_ok_iff.mp inserted
    refine recorded_insertSubscription ?_ subscribed
    exact { recorded with
      servers := Tables.forall_mem_append_singleton.mpr ⟨recorded.servers, row, rfl⟩ }
  | createSubscription row => exact recorded_insertSubscription recorded effect
  | createRole row =>
    obtain ⟨-, rfl⟩ := Tables.insertRole_eq_ok_iff.mp effect
    exact { recorded with
      roles := Tables.forall_mem_append_singleton.mpr ⟨recorded.roles, row, rfl⟩ }
  | createAssignment row =>
    obtain ⟨-, rfl⟩ := Tables.insertAssignment_eq_ok_iff.mp effect.2.2
    exact { recorded with
      assignments := Tables.forall_mem_append_singleton.mpr ⟨recorded.assignments, row, rfl⟩ }
  | createGrant row => exact recorded_upsertGrant recorded effect
  | createChannel row =>
    obtain ⟨-, rfl⟩ := Tables.insertChannel_eq_ok_iff.mp effect
    exact { recorded with
      channels := Tables.forall_mem_append_singleton.mpr ⟨recorded.channels, row, rfl⟩ }
  | createOverride row =>
    obtain ⟨-, rfl⟩ := Tables.insertOverride_eq_ok_iff.mp effect.2.2
    exact { recorded with
      overrides := Tables.forall_mem_append_singleton.mpr ⟨recorded.overrides, row, rfl⟩ }
  | deleteUser id | deleteServer id | deleteSubscription id | deleteRole id | deleteAssignment id
  | deleteGrant id | deleteChannel id | deleteOverride id => exact recorded.part (effect.part rfl)

/-- One write keeps the tables sound. -/
theorem sound_apply (sound : t.Sound) (write : Write) : (write.change.apply t).2.Sound := by
  obtain unchanged | effect := apply_cases sound.recorded write
  · rwa [unchanged]
  · exact ⟨effect.keyed sound.keyed, effect.linked sound.linked, effect.recorded sound.recorded⟩

theorem sound_runAll (sound : t.Sound) (writes : List Write) : (runAll writes t).Sound := by
  induction writes generalizing t with
  | nil => exact sound
  | cons write rest ih => exact ih (sound_apply sound write)

end Write

theorem Reachable.apply {t : StoredTables} (reachable : Reachable t) (write : Write) :
    Reachable (write.change.apply t).2 := by
  obtain ⟨writes, rfl⟩ := reachable
  exact ⟨writes ++ [write], by rw [Write.runAll, Write.runAll, List.foldl_append]; rfl⟩

theorem Reachable.sound {t : StoredTables} (reachable : Reachable t) : t.Sound := by
  obtain ⟨writes, rfl⟩ := reachable
  exact Write.sound_runAll Tables.sound_empty writes

namespace Database

/-- The database after a run of writes, whether they succeed or fail. -/
def perform (writes : List Write) (d : Database) : Database :=
  writes.foldl (fun d write => (d.onTables write.change).2) d

theorem perform_tables (writes : List Write) (d : Database) :
    (d.perform writes).tables = Write.runAll writes d.tables := by
  induction writes generalizing d with
  | nil => rfl
  | cons write rest ih => exact ih _

/-- To bring a new database up to date works and leaves it without rows. -/
theorem migrate_blank : ∃ d, migrate.apply blank = (.ok (), d) ∧ d.tables = Tables.empty :=
  ⟨_, rfl, rfl⟩

/-- Whatever is written to a new database, it stays consistent. -/
theorem perform_consistent (writes : List Write) :
    ((migrate.apply blank).2.perform writes).tables.Consistent := by
  obtain ⟨d, migrated, new⟩ := migrate_blank
  rw [migrated, perform_tables, new]
  have sound := Write.sound_runAll Tables.sound_empty writes
  exact Tables.Consistent.of_linked sound.keyed sound.linked

end Database

end Gatehouse.Store
