import Gatehouse.Memory
import Gatehouse.Proofs.Store.Cascade
import Gatehouse.Proofs.Store.Run
import Gatehouse.Proofs.TimeText

/-! # The store replayed in memory

What succeeds in the store can be done in memory too, write by write, with the same ids and times. At
every moment the store holds the rows of the records in memory, in the same order. For a server that
is deleted this is so because the cascades of the store reach exactly what names that server.
-/

namespace Gatehouse

namespace Memory

/-- Do what a write does. Users are not kept in memory, and what has no counterpart there cannot be
done; neither can an assignment or an override whose partners are missing or live apart. -/
def replay? (m : Memory) : Store.Write → Option Memory
  | .createServer row joining joined => some (m.addServerAt row joining joined)
  | .createSubscription row => some (m.addSubscription row)
  | .createRole row => some (m.addRole row)
  | .createAssignment row => do
    let sub ← m.tables.subscriptions.find? (·.id = row.subscriptionId)
    let role ← m.tables.roles.find? (·.id = row.roleId)
    (m.assignRole? row.id sub role).map (·.2)
  | .createGrant row => some (m.addGrant row)
  | .createChannel row => some (m.addChannel row)
  | .createOverride row => do
    let channel ← m.tables.channels.find? (·.id = row.channelId)
    let role ← m.tables.roles.find? (·.id = row.roleId)
    (m.addOverride? row.id channel role).map (·.2)
  | .deleteServer id => some (m.deleteServer id).2
  | .createUser _ | .deleteUser _ | .deleteSubscription _ | .deleteRole _ | .deleteAssignment _
  | .deleteGrant _ | .deleteChannel _ | .deleteOverride _ => none

/-- The assignment that memory makes of a subscription and a role is the one that was asked for. -/
theorem replay?_createAssignment {m : Memory} {row : Assignment} {sub : Subscription} {role : Role}
    (subFound : m.tables.subscriptions.find? (·.id = row.subscriptionId) = some sub)
    (roleFound : m.tables.roles.find? (·.id = row.roleId) = some role)
    (named : sub.id = row.subscriptionId ∧ role.id = row.roleId)
    (inside : sub.serverId = row.serverId ∧ role.serverId = row.serverId)
    (user : sub.userId = row.userId) :
    m.replay? (.createAssignment row) =
      some { m with tables.assignments := m.tables.assignments ++ [row] } := by
  have assigned : AssignmentRow.ofSubscription row.id sub role.id = row := by
    simp [AssignmentRow.ofSubscription, inside, user, named]
  simp [replay?, subFound, roleFound, assignRole?, inside, assigned]

private theorem replay?_createOverride {m : Memory} {row : Override} {channel : Channel}
    {role : Role} (channelFound : m.tables.channels.find? (·.id = row.channelId) = some channel)
    (roleFound : m.tables.roles.find? (·.id = row.roleId) = some role)
    (named : channel.id = row.channelId ∧ role.id = row.roleId)
    (inside : channel.serverId = row.serverId ∧ role.serverId = row.serverId) :
    m.replay? (.createOverride row) =
      some { m with tables.overrides := m.tables.overrides ++ [row] } := by
  have restricted : OverrideRow.ofChannel row.id channel role.id = row := by
    simp [OverrideRow.ofChannel, inside, named]
  simp [replay?, channelFound, roleFound, addOverride?, inside, restricted]

/-- Do what a run of writes does, one after the other. -/
def replayAll? (m : Memory) (writes : List Store.Write) : Option Memory :=
  writes.foldlM replay? m

end Memory

namespace Store

/-- The write has a counterpart in memory, and the store can read its times again. A grant must be the
first of its user on its server: to change one has no counterpart. -/
def Write.Replayable (t : StoredTables) : Write → Prop
  | .createServer row _ joined => row.createdAt.Readable ∧ joined.Readable
  | .createSubscription row => row.createdAt.Readable
  | .createChannel row => row.createdAt.Readable
  | .createGrant row => t.getGrantFor row.serverId row.userId = .error .notFound
  | .createRole _ | .createAssignment _ | .createOverride _ | .deleteServer _ => True
  | .createUser _ | .deleteUser _ | .deleteSubscription _ | .deleteRole _ | .deleteAssignment _
  | .deleteGrant _ | .deleteChannel _ | .deleteOverride _ => False

instance (t : StoredTables) (serverId userId : Uuid) :
    Decidable (t.getGrantFor serverId userId = .error .notFound) :=
  decidable_of_iff' _ readFound_eq_notFound_iff

instance (t : StoredTables) : (write : Write) → Decidable (write.Replayable t)
  | .createServer row _ joined =>
    inferInstanceAs (Decidable (row.createdAt.Readable ∧ joined.Readable))
  | .createSubscription row => inferInstanceAs (Decidable row.createdAt.Readable)
  | .createChannel row => inferInstanceAs (Decidable row.createdAt.Readable)
  | .createGrant row =>
    inferInstanceAs (Decidable (t.getGrantFor row.serverId row.userId = .error .notFound))
  | .createRole _ | .createAssignment _ | .createOverride _ | .deleteServer _ =>
    inferInstanceAs (Decidable True)
  | .createUser _ | .deleteUser _ | .deleteSubscription _ | .deleteRole _ | .deleteAssignment _
  | .deleteGrant _ | .deleteChannel _ | .deleteOverride _ => inferInstanceAs (Decidable False)

/-- From these tables on all writes succeed, and all are replayable where they come. -/
def History : List Write → StoredTables → Prop
  | [], _ => True
  | write :: rest, t => write.Replayable t ∧ (write.change.apply t).1.isOk = true ∧
      History rest (write.change.apply t).2

instance decidableHistory : (writes : List Write) → (t : StoredTables) → Decidable (History writes t)
  | [], _ => inferInstanceAs (Decidable True)
  | write :: rest, t =>
    have := decidableHistory rest (write.change.apply t).2
    inferInstanceAs (Decidable (_ ∧ _ ∧ _))

/-- The rows of records, next to some rows of users. -/
def Tables.stored (users : List (UserRow String String)) (records : Tables Uuid Time Int64 Bool) :
    StoredTables where
  users := users
  servers := records.servers.map storeServer
  subscriptions := records.subscriptions.map storeSubscription
  roles := records.roles.map storeRole
  assignments := records.assignments.map storeAssignment
  grants := records.grants.map storeGrant
  channels := records.channels.map storeChannel
  overrides := records.overrides.map storeOverride

/-- The store holds the records in memory, and can read their times. Memory is not set to fail or to
be slow. -/
structure Mirrors (users : List (UserRow String String)) (m : Memory) (t : StoredTables) : Prop where
  rows : m.tables.stored users = t
  servers : ∀ r ∈ m.tables.servers, r.createdAt.Readable
  subscriptions : ∀ r ∈ m.tables.subscriptions, r.createdAt.Readable
  channels : ∀ r ∈ m.tables.channels, r.createdAt.Readable
  working : m.failing = false
  prompt : m.latency = none

theorem Mirrors.empty (users : List (UserRow String String)) :
    Mirrors users .empty (Tables.empty.stored users) where
  rows := rfl
  servers _ stored := nomatch stored
  subscriptions _ stored := nomatch stored
  channels _ stored := nomatch stored
  working := rfl
  prompt := rfl

variable {users : List (UserRow String String)} {m : Memory} {t t' : StoredTables}

/-- The records without a server are stored as the rows without it. -/
theorem Tables.stored_without (records : Tables Uuid Time Int64 Bool) (s : Uuid) :
    (records.without s).stored users = (records.stored users).without s.text := by
  simp only [Tables.stored, without, List.filter_map, Function.comp_def, storeServer,
    storeSubscription, storeRole, storeAssignment, storeGrant, storeChannel, storeOverride, ne_eq,
    Uuid.text_inj]

/-- Records have different ids if their rows have. -/
theorem nodup_ids_of_texts {β : Type} {records : List β} {id : β → Uuid}
    (distinct : (records.map fun r => (id r).text).Nodup) : (records.map id).Nodup := by
  have texts : ((records.map id).map Uuid.text).Nodup := by
    rwa [List.map_map]
  exact Tables.nodup_of_key texts

/-- The partner of a stored row is found in memory by its id. -/
theorem find?_of_stored {α β : Type} {records : List β} (store : β → α) (key : α → String)
    (id : β → Uuid) (named : ∀ r, key (store r) = (id r).text)
    (distinct : ((records.map store).map key).Nodup) {k : Uuid} {P : α → Prop}
    (partner : ∃ a ∈ records.map store, key a = k.text ∧ P a) :
    ∃ r, (records.find? fun r => id r = k) = some r ∧ id r = k ∧ P (store r) := by
  obtain ⟨a, stored, same, holds⟩ := partner
  obtain ⟨r, there, rfl⟩ := List.mem_map.mp stored
  obtain rfl : id r = k := Uuid.text_inj.mp ((named r).symm.trans same)
  have texts : (records.map fun r => (id r).text).Nodup := by
    simpa only [List.map_map, Function.comp_def, named] using distinct
  exact ⟨r, Tables.find?_id_eq_some (nodup_ids_of_texts texts) there, rfl, holds⟩

/-- A replayable write that has its effect in the store can be done in memory. -/
theorem Mirrors.effect (mirrors : Mirrors users m t) (sound : t.Sound) {write : Write}
    (replayable : write.Replayable t) (effect : write.Effect t t') :
    ∃ m', m.replay? write = some m' ∧ Mirrors users m' t' := by
  obtain ⟨rows, servers, subscriptions, channels, working, prompt⟩ := mirrors
  subst rows
  cases write with
  | createServer row joining joined =>
    obtain ⟨between, inserted, subscribed⟩ := effect
    obtain ⟨-, rfl⟩ := Tables.insertServer_eq_ok_iff.mp inserted
    obtain ⟨-, rfl⟩ := Tables.insertSubscription_eq_ok_iff.mp subscribed
    refine ⟨_, rfl, ?_, ?_, ?_, channels, working, prompt⟩
    · simp [Tables.stored, Memory.addServerAt, Memory.addSubscription]
    · exact Tables.forall_mem_append_singleton.mpr ⟨servers, replayable.1⟩
    · exact Tables.forall_mem_append_singleton.mpr ⟨subscriptions, replayable.2⟩
  | createSubscription row =>
    obtain ⟨-, rfl⟩ := Tables.insertSubscription_eq_ok_iff.mp effect
    refine ⟨_, rfl, ?_, servers, ?_, channels, working, prompt⟩
    · simp [Tables.stored, Memory.addSubscription]
    · exact Tables.forall_mem_append_singleton.mpr ⟨subscriptions, replayable⟩
  | createRole row =>
    obtain ⟨-, rfl⟩ := Tables.insertRole_eq_ok_iff.mp effect
    refine ⟨_, rfl, ?_, servers, subscriptions, channels, working, prompt⟩
    simp [Tables.stored, Memory.addRole]
  | createAssignment row =>
    obtain ⟨sub, role, inserted⟩ := effect
    obtain ⟨-, rfl⟩ := Tables.insertAssignment_eq_ok_iff.mp inserted
    obtain ⟨sub, subFound, subNamed, inside, user⟩ :=
      find?_of_stored storeSubscription (·.id) (·.id) (fun _ => rfl) sound.keyed.subscriptionIds sub
    obtain ⟨role, roleFound, roleNamed, beside⟩ :=
      find?_of_stored storeRole (·.id) (·.id) (fun _ => rfl) sound.keyed.roleIds role
    have replayed := Memory.replay?_createAssignment subFound roleFound ⟨subNamed, roleNamed⟩
      ⟨Uuid.text_inj.mp inside, Uuid.text_inj.mp beside⟩ (Uuid.text_inj.mp user)
    refine ⟨_, replayed, ?_, servers, subscriptions, channels, working, prompt⟩
    simp [Tables.stored]
  | createGrant row =>
    -- without a current grant the upsert is a plain insertion
    have new : ∀ r ∈ (m.tables.stored users).grants,
        (r.serverId, r.userId) ≠ ((storeGrant row).serverId, (storeGrant row).userId) := by
      simpa [storeGrant] using readFound_eq_notFound_iff.mp replayable
    obtain ⟨-, rfl⟩ := (Tables.upsertGrant_eq_ok_iff_of_new new).mp effect
    refine ⟨_, rfl, ?_, servers, subscriptions, channels, working, prompt⟩
    simp [Tables.stored, Memory.addGrant]
  | createChannel row =>
    obtain ⟨-, rfl⟩ := Tables.insertChannel_eq_ok_iff.mp effect
    refine ⟨_, rfl, ?_, servers, subscriptions, ?_, working, prompt⟩
    · simp [Tables.stored, Memory.addChannel]
    · exact Tables.forall_mem_append_singleton.mpr ⟨channels, replayable⟩
  | createOverride row =>
    obtain ⟨channel, role, inserted⟩ := effect
    obtain ⟨-, rfl⟩ := Tables.insertOverride_eq_ok_iff.mp inserted
    obtain ⟨channel, channelFound, channelNamed, inside⟩ :=
      find?_of_stored storeChannel (·.id) (·.id) (fun _ => rfl) sound.keyed.channelIds channel
    obtain ⟨role, roleFound, roleNamed, beside⟩ :=
      find?_of_stored storeRole (·.id) (·.id) (fun _ => rfl) sound.keyed.roleIds role
    have replayed := Memory.replay?_createOverride channelFound roleFound ⟨channelNamed, roleNamed⟩
      ⟨Uuid.text_inj.mp inside, Uuid.text_inj.mp beside⟩
    refine ⟨_, replayed, ?_, servers, subscriptions, channels, working, prompt⟩
    simp [Tables.stored]
  | deleteServer id =>
    -- memory filters every collection by its server, the store follows foreign keys
    have removed : (m.tables.without id).stored users = t' := by
      rw [Tables.stored_without, ← Tables.removeServers_eq_without sound.keyed sound.linked]
      exact effect
    refine ⟨_, rfl, removed, ?_, ?_, ?_, working, prompt⟩
    · exact fun r kept => servers r (List.mem_filter.mp kept).1
    · exact fun r kept => subscriptions r (List.mem_filter.mp kept).1
    · exact fun r kept => channels r (List.mem_filter.mp kept).1
  | createUser _ | deleteUser _ | deleteSubscription _ | deleteRole _ | deleteAssignment _
  | deleteGrant _ | deleteChannel _ | deleteOverride _ => exact replayable.elim

/-- Users change nothing that memory keeps. -/
theorem Mirrors.createUser (mirrors : Mirrors users m t) (row : User) :
    ∃ users', Mirrors users' m (((Write.createUser row).change.apply t).2) := by
  have does : (Write.createUser row).change.Does t (t.insertUser (storeUser row) = .ok ·) :=
    (does_statement _ t).bind_pure _
  obtain unchanged | inserted := does.cases
  · exact ⟨users, by rwa [unchanged]⟩
  · obtain ⟨-, added⟩ := Tables.insertUser_eq_ok_iff.mp inserted
    refine ⟨t.users ++ [storeUser row], { mirrors with rows := ?_ }⟩
    rw [← mirrors.rows] at added ⊢
    exact added

/-- Whatever users there are beforehand, the store holds the records of an empty memory. -/
theorem Mirrors.prepared (rows : List User) :
    ∃ users, Mirrors users .empty (Write.runAll (rows.map .createUser) Tables.empty) := by
  have more (t : StoredTables) (mirrored : ∃ users, Mirrors users .empty t) :
      ∃ users, Mirrors users .empty (Write.runAll (rows.map .createUser) t) := by
    induction rows generalizing t with
    | nil => exact mirrored
    | cons row rest ih =>
      obtain ⟨users, mirrors⟩ := mirrored
      exact ih _ (mirrors.createUser row)
  exact more Tables.empty ⟨[], .empty []⟩

/-- What succeeds in the store from mirrored tables on can be done in memory, and at the end the
tables are mirrored again. -/
theorem Mirrors.history (mirrors : Mirrors users m t) (sound : t.Sound) {writes : List Write}
    (history : History writes t) :
    ∃ m', m.replayAll? writes = some m' ∧ Mirrors users m' (Write.runAll writes t) := by
  induction writes generalizing m t with
  | nil => exact ⟨m, rfl, mirrors⟩
  | cons write rest ih =>
    obtain ⟨replayable, succeeded, later⟩ := history
    have effect := (write.does sound.recorded).effect_of_isOk succeeded
    obtain ⟨between, first, mirrors⟩ := mirrors.effect sound replayable effect
    obtain ⟨m', replayed, mirrors⟩ := ih mirrors (Write.sound_apply sound write) later
    refine ⟨m', ?_, mirrors⟩
    simp only [Memory.replayAll?, List.foldlM_cons, first]
    exact replayed

end Store

end Gatehouse
