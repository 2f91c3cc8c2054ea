import Gatehouse.Proofs.Store.Failure

/-! # Rows that join two others

An assignment joins a subscription and a role, and an override a channel and a role. Such a row is
taken up exactly if the two are there, all three belong together, the two are not joined already and
the id is new; else the first of these that is not so is what is reported. The database checks in
addition that the server of the row exists, but this is the server of the two, which is there as long
as they are. So it never has reason to complain.
-/

namespace Gatehouse.Store

/-- What counts for a row that joins two others. -/
structure Joint where
  table : Table
  /-- The columns that name the two. -/
  columns : List String
  mixture : Mixture
  /-- One of the two is not there. -/
  missing : Prop
  /-- The two and the row do not belong together. -/
  apart : Prop
  /-- Another row joins the same two. -/
  joined : Bool
  /-- The id of the row is taken. -/
  taken : Bool
  /-- The tables with the row. -/
  after : StoredTables

/-- An outcome is the one that is due: what stands against the row is reported, the first of it if
there is more than one, and otherwise the row is added. -/
structure Joint.Decides (j : Joint) (t : StoredTables)
    (outcome : Except StoreFault Written × StoredTables) : Prop where
  notFound : outcome.1 = .error .notFound ↔ j.missing
  mixed : outcome.1 = .error (.mixedServers j.mixture) ↔ ¬ j.missing ∧ j.apart
  joined : outcome.1 = .error (.database (.unique j.table j.columns)) ↔
    ¬ j.missing ∧ ¬ j.apart ∧ j.joined
  taken : outcome.1 = .error (.database (.unique j.table ["id"])) ↔
    ¬ j.missing ∧ ¬ j.apart ∧ ¬ j.joined ∧ j.taken
  created : outcome.1 = .ok .created ↔ ¬ j.missing ∧ ¬ j.apart ∧ ¬ j.joined ∧ ¬ j.taken
  added : outcome.1 = .ok .created → outcome.2 = j.after
  unchanged : outcome.1 ≠ .ok .created → outcome.2 = t
  noForeignKey : outcome.1 ≠ .error (.database .foreignKey)

namespace Joint

variable {j : Joint} {t : StoredTables}

/-- What becomes of the statement that inserts the row. -/
def inserted (j : Joint) (t : StoredTables) : Except StoreFault Written × StoredTables :=
  if j.joined then (.error (.database (.unique j.table j.columns)), t)
  else if j.taken then (.error (.database (.unique j.table ["id"])), t)
  else (.ok .created, j.after)

private theorem decides_of_missing (missing : j.missing) : j.Decides t (.error .notFound, t) := by
  constructor <;> simp [missing]

private theorem decides_of_apart (present : ¬ j.missing) (apart : j.apart) :
    j.Decides t (.error (.mixedServers j.mixture), t) := by
  constructor <;> simp [present, apart]

private theorem decides_of_inserted (present : ¬ j.missing) (together : ¬ j.apart)
    (pair : j.columns ≠ ["id"]) : j.Decides t (j.inserted t) := by
  cases joined : j.joined <;> cases taken : j.taken <;> constructor <;>
    simp_all [inserted, pair.symm]

private theorem inserted_ne_foreignKey : (j.inserted t).1 ≠ .error (.database .foreignKey) := by
  cases joined : j.joined <;> cases taken : j.taken <;> simp [inserted, joined, taken]

/-- The statement of an insertion checks the pair and the id, and then references that are all
there. -/
theorem apply_inserting {f : StoredTables → Except DatabaseFault StoredTables} {dangling : Bool}
    (refers : dangling = false)
    (made : f t = Tables.unlessBroken [(j.joined, .unique j.table j.columns),
      (j.taken, .unique j.table ["id"]), (dangling, .foreignKey)] j.after) :
    (do statement f; return .created : Writing Written).apply t = j.inserted t := by
  subst refers
  simp only [Change.apply_bind, statement, Change.mapFault, Change.update, Change.apply_ofApply, made,
    inserted]
  cases j.joined <;> cases j.taken <;> rfl

end Joint

private theorem any_key_eq_true {α : Type} {rows : List α} {key : α → String} {id : String}
    (there : ∃ r ∈ rows, key r = id) : (rows.any fun r => key r = id) = true := by
  simpa only [List.any_eq_true, decide_eq_true_eq] using there

private theorem not_there_of_find?_eq_none {α : Type} {rows : List α} {key : α → String}
    {id : String} (missed : rows.find? (key · = id) = none) : ¬ ∃ r ∈ rows, key r = id := by
  rintro ⟨r, stored, named⟩
  exact List.find?_eq_none.mp missed r stored (decide_eq_true named)

/-- Where ids differ, there are no others with the ids of two rows, so what holds of such a pair is
what holds of these two. -/
theorem exists_pair_iff {α β : Type} {rows : List α} {rows' : List β} {key : α → String}
    {key' : β → String} (distinct : (rows.map key).Nodup) (distinct' : (rows'.map key').Nodup)
    {a : α} {b : β} (first : a ∈ rows) (second : b ∈ rows') {P : α → β → Prop} :
    (∃ r ∈ rows, key r = key a ∧ ∃ r' ∈ rows', key' r' = key' b ∧ P r r') ↔ P a b := by
  constructor
  · rintro ⟨r, stored, named, r', stored', named', holds⟩
    obtain rfl := Tables.eq_of_key distinct stored first named
    obtain rfl := Tables.eq_of_key distinct' stored' second named'
    exact holds
  · exact fun holds => ⟨a, first, rfl, b, second, rfl, holds⟩

section Creations

variable {t : StoredTables}

def assignmentJoint (t : StoredTables) (row : Assignment) : Joint where
  table := .assignments
  columns := ["subscription_id", "role_id"]
  mixture := .assignment
  missing := (¬ ∃ sub ∈ t.subscriptions, sub.id = row.subscriptionId.text) ∨
    ¬ ∃ role ∈ t.roles, role.id = row.roleId.text
  apart := ∃ sub ∈ t.subscriptions, sub.id = row.subscriptionId.text ∧
    ∃ role ∈ t.roles, role.id = row.roleId.text ∧
      ¬ (sub.serverId = row.serverId.text ∧ role.serverId = row.serverId.text ∧
        sub.userId = row.userId.text)
  joined := t.assignments.any fun r =>
    r.subscriptionId = row.subscriptionId.text && r.roleId = row.roleId.text
  taken := t.assignments.any fun r => r.id = row.id.text
  after := { t with assignments := t.assignments ++ [storeAssignment row] }

/-- The two are looked up by their ids and compared with the row before it is inserted. -/
theorem apply_createAssignment (t : StoredTables) (row : Assignment) :
    (Write.createAssignment row).change.apply t =
      match t.subscriptions.find? (·.id = row.subscriptionId.text),
        t.roles.find? (·.id = row.roleId.text) with
      | some sub, some role =>
        if sub.serverId = row.serverId.text ∧ role.serverId = row.serverId.text ∧
            sub.userId = row.userId.text then
          (do statement (·.insertAssignment (storeAssignment row)); return Written.created).apply t
        else (.error (.mixedServers .assignment), t)
      | _, _ => (.error .notFound, t) := by
  change (createAssignment row >>= fun _ => pure Written.created).apply t = _
  simp only [createAssignment, Change.whole, Change.apply_bind, Change.apply_ofApply, Change.apply_get]
  cases t.subscriptions.find? (·.id = row.subscriptionId.text) with
  | none => rfl
  | some sub =>
    cases t.roles.find? (·.id = row.roleId.text) with
    | none => rfl
    | some role =>
      by_cases shared : sub.serverId = row.serverId.text ∧ role.serverId = row.serverId.text ∧
        sub.userId = row.userId.text
      · simp only [if_pos shared]
        obtain ⟨fault, failed⟩ | ⟨t', -, made⟩ :=
          apply_statement (·.insertAssignment (storeAssignment row)) t
        · rw [failed]
        · rw [made]
      · simp only [if_neg shared]
        rfl

/-- An assignment to a subscription in its server refers to nothing that is not there: the server of
the row is the server of the subscription. -/
theorem assignment_refers (linked : t.Linked) {row : Assignment} {sub : SubscriptionRow String String}
    (subStored : sub ∈ t.subscriptions) (subNamed : sub.id = row.subscriptionId.text)
    (roleThere : ∃ role ∈ t.roles, role.id = row.roleId.text)
    (inside : sub.serverId = row.serverId.text) :
    (!t.hasServer row.serverId.text || !t.hasSubscription row.subscriptionId.text ||
      !t.hasRole row.roleId.text) = false := by
  have home : ∃ server ∈ t.servers, server.id = row.serverId.text :=
    inside ▸ linked.subscriptionServers sub subStored
  rw [Tables.hasServer, any_key_eq_true home, Tables.hasSubscription,
    any_key_eq_true ⟨sub, subStored, subNamed⟩, Tables.hasRole, any_key_eq_true roleThere]
  rfl

private theorem createAssignment_decides (sound : t.Sound) (row : Assignment) :
    (assignmentJoint t row).Decides t ((Write.createAssignment row).change.apply t) := by
  obtain ⟨keyed, linked, -⟩ := sound
  rw [apply_createAssignment]
  cases subFound : t.subscriptions.find? (·.id = row.subscriptionId.text) with
  | none => exact Joint.decides_of_missing (.inl (not_there_of_find?_eq_none subFound))
  | some sub =>
    have subStored := List.mem_of_find?_eq_some subFound
    have subNamed : sub.id = row.subscriptionId.text := by simpa using List.find?_some subFound
    cases roleFound : t.roles.find? (·.id = row.roleId.text) with
    | none => exact Joint.decides_of_missing (.inr (not_there_of_find?_eq_none roleFound))
    | some role =>
      have roleStored := List.mem_of_find?_eq_some roleFound
      have roleNamed : role.id = row.roleId.text := by simpa using List.find?_some roleFound
      have present : ¬ (assignmentJoint t row).missing := by
        rintro (missing | missing)
        · exact missing ⟨sub, subStored, subNamed⟩
        · exact missing ⟨role, roleStored, roleNamed⟩
      have apart : (assignmentJoint t row).apart ↔ ¬ (sub.serverId = row.serverId.text ∧
          role.serverId = row.serverId.text ∧ sub.userId = row.userId.text) := by
        simp only [assignmentJoint, ← subNamed, ← roleNamed]
        exact exists_pair_iff keyed.subscriptionIds keyed.roleIds subStored roleStored
      by_cases shared : sub.serverId = row.serverId.text ∧ role.serverId = row.serverId.text ∧
        sub.userId = row.userId.text
      · have refers := assignment_refers linked subStored subNamed ⟨role, roleStored, roleNamed⟩
          shared.1
        simp only [if_pos shared]
        rw [Joint.apply_inserting (j := assignmentJoint t row)
          (f := (·.insertAssignment (storeAssignment row))) refers rfl]
        exact Joint.decides_of_inserted present (fun unshared => apart.mp unshared shared)
          (by simp [assignmentJoint])
      · simp only [if_neg shared]
        exact Joint.decides_of_apart present (apart.mpr shared)

def overrideJoint (t : StoredTables) (row : Override) : Joint where
  table := .overrides
  columns := ["channel_id", "role_id"]
  mixture := .override
  missing := (¬ ∃ role ∈ t.roles, role.id = row.roleId.text) ∨
    ¬ ∃ channel ∈ t.channels, channel.id = row.channelId.text
  apart := ∃ role ∈ t.roles, role.id = row.roleId.text ∧
    ∃ channel ∈ t.channels, channel.id = row.channelId.text ∧
      ¬ (role.serverId = row.serverId.text ∧ channel.serverId = row.serverId.text)
  joined := t.overrides.any fun r =>
    r.channelId = row.channelId.text && r.roleId = row.roleId.text
  taken := t.overrides.any fun r => r.id = row.id.text
  after := { t with overrides := t.overrides ++ [storeOverride row] }

/-- The two are read before they are compared with the row. -/
theorem apply_createOverride (t : StoredTables) (row : Override) :
    (Write.createOverride row).change.apply t =
      match t.getRole row.roleId, t.getChannel row.channelId with
      | .ok role, .ok channel =>
        if role.serverId = row.serverId ∧ channel.serverId = row.serverId then
          (do statement (·.insertOverride (storeOverride row)); return Written.created).apply t
        else (.error (.mixedServers .override), t)
      | .error fault, _ => (.error fault, t)
      | _, .error fault => (.error fault, t) := by
  change (createOverride row >>= fun _ => pure Written.created).apply t = _
  simp only [createOverride, Change.apply_bind, Change.apply_get, Change.apply_ofExcept]
  cases t.getRole row.roleId with
  | error fault => rfl
  | ok role =>
    cases t.getChannel row.channelId with
    | error fault => rfl
    | ok channel =>
      by_cases shared : role.serverId = row.serverId ∧ channel.serverId = row.serverId
      · simp only [if_pos shared]
      · simp only [if_neg shared]
        rfl

/-- Where whatever fits can be read, what is not found is not there. -/
theorem not_there_of_readFound_eq_error {α β : Type} {read : α → Except DatabaseFault β}
    {rows : List α} {key : α → String} {id : String} {fault : StoreFault}
    (readable : ∀ r ∈ rows, key r = id → ∃ record, read r = .ok record)
    (failed : readFound read (rows.find? (key · = id)) = .error fault) :
    fault = .notFound ∧ ¬ ∃ r ∈ rows, key r = id := by
  cases hit : rows.find? (key · = id) with
  | none =>
    rw [hit] at failed
    cases failed
    exact ⟨rfl, not_there_of_find?_eq_none hit⟩
  | some r =>
    have named : key r = id := by simpa using List.find?_some hit
    obtain ⟨record, known⟩ := readable r (List.mem_of_find?_eq_some hit) named
    simp only [hit, readFound, known] at failed
    cases failed

private theorem no_role_of_getRole_eq_error (recorded : t.Recorded) {id : Uuid} {fault : StoreFault}
    (failed : t.getRole id = .error fault) :
    fault = .notFound ∧ ¬ ∃ role ∈ t.roles, role.id = id.text := by
  refine not_there_of_readFound_eq_error (fun r stored _ => ?_) failed
  obtain ⟨record, rfl⟩ := recorded.roles r stored
  exact ⟨record, readRole_storeRole record⟩

/-- Of a channel only the time may be unreadable. -/
theorem no_channel_of_getChannel_eq_error (recorded : t.Recorded) {id : Uuid} {fault : StoreFault}
    (readable : ∀ channel ∈ t.channels, channel.id = id.text →
      (Time.ofExact? channel.createdAt).isSome = true)
    (failed : t.getChannel id = .error fault) :
    fault = .notFound ∧ ¬ ∃ channel ∈ t.channels, channel.id = id.text := by
  refine not_there_of_readFound_eq_error (fun r stored named => ?_) failed
  obtain ⟨created, known⟩ := Option.isSome_iff_exists.mp (readable r stored named)
  obtain ⟨record, rfl⟩ := recorded.channels r stored
  refine ⟨{ record with createdAt := created }, ?_⟩
  simp only [storeChannel] at known ⊢
  simp only [readChannel, readId_text, readFlag_ofBool, readTime, known]
  rfl

/-- No override of a role and a channel that were found refers to anything that is not there. -/
theorem override_refers (sound : t.Sound) {row : Override} {role : Role} {channel : Channel}
    (roleFound : t.getRole row.roleId = .ok role) (channelFound : t.getChannel row.channelId = .ok channel)
    (shared : role.serverId = row.serverId ∧ channel.serverId = row.serverId) :
    (!t.hasServer row.serverId.text || !t.hasChannel row.channelId.text ||
      !t.hasRole row.roleId.text) = false := by
  obtain ⟨roleNamed, roleStored⟩ := Tables.getRole_eq_ok sound.recorded roleFound
  obtain ⟨channelNamed, created, channelStored⟩ := Tables.getChannel_eq_ok sound.recorded channelFound
  obtain ⟨server, serverStored, serverNamed⟩ := sound.linked.roleServers _ roleStored
  have serverText : server.id = row.serverId.text := by
    rw [serverNamed, ← shared.1]
    rfl
  have roleText : (storeRole role).id = row.roleId.text := congrArg Uuid.text roleNamed
  have channelText := congrArg Uuid.text channelNamed
  have serverThere : t.hasServer row.serverId.text = true :=
    any_key_eq_true ⟨server, serverStored, serverText⟩
  have roleThere : t.hasRole row.roleId.text = true := any_key_eq_true ⟨_, roleStored, roleText⟩
  have channelThere : t.hasChannel row.channelId.text = true :=
    any_key_eq_true ⟨_, channelStored, channelText⟩
  simp only [serverThere, roleThere, channelThere, Bool.not_true, Bool.or_false]

private theorem createOverride_decides (sound : t.Sound) (row : Override)
    (readable : ∀ channel ∈ t.channels, channel.id = row.channelId.text →
      (Time.ofExact? channel.createdAt).isSome = true) :
    (overrideJoint t row).Decides t ((Write.createOverride row).change.apply t) := by
  have recorded := sound.recorded
  rw [apply_createOverride]
  cases roleFound : t.getRole row.roleId with
  | error fault =>
    obtain ⟨rfl, missing⟩ := no_role_of_getRole_eq_error recorded roleFound
    exact Joint.decides_of_missing (.inl missing)
  | ok role =>
    obtain ⟨roleNamed, roleStored⟩ := Tables.getRole_eq_ok recorded roleFound
    cases channelFound : t.getChannel row.channelId with
    | error fault =>
      obtain ⟨rfl, missing⟩ := no_channel_of_getChannel_eq_error recorded readable channelFound
      exact Joint.decides_of_missing (.inr missing)
    | ok channel =>
      obtain ⟨channelNamed, created, channelStored⟩ := Tables.getChannel_eq_ok recorded channelFound
      have roleText := congrArg Uuid.text roleNamed
      have channelText := congrArg Uuid.text channelNamed
      have present : ¬ (overrideJoint t row).missing := by
        rintro (missing | missing)
        · exact missing ⟨_, roleStored, roleText⟩
        · exact missing ⟨_, channelStored, channelText⟩
      have apart : (overrideJoint t row).apart ↔
          ¬ (role.serverId = row.serverId ∧ channel.serverId = row.serverId) := by
        rw [← Uuid.text_inj, ← Uuid.text_inj]
        simp only [overrideJoint, ← roleText, ← channelText]
        exact exists_pair_iff sound.keyed.roleIds sound.keyed.channelIds roleStored channelStored
      by_cases shared : role.serverId = row.serverId ∧ channel.serverId = row.serverId
      · simp only [if_pos shared]
        rw [Joint.apply_inserting (j := overrideJoint t row)
          (f := (·.insertOverride (storeOverride row)))
          (override_refers sound roleFound channelFound shared) rfl]
        exact Joint.decides_of_inserted present (fun unshared => apart.mp unshared shared)
          (by simp [overrideJoint])
      · simp only [if_neg shared]
        exact Joint.decides_of_apart present (apart.mpr shared)

/-- An override never refers to anything that is not there, whether its channel can be read or not. -/
theorem createOverride_ne_foreignKey (sound : t.Sound) (row : Override) :
    ((Write.createOverride row).change.apply t).1 ≠ .error (.database .foreignKey) := by
  have recorded := sound.recorded
  rw [apply_createOverride]
  cases roleFound : t.getRole row.roleId with
  | error fault =>
    rw [getRole_eq_error recorded roleFound]
    exact nofun
  | ok role =>
    cases channelFound : t.getChannel row.channelId with
    | error fault => rcases getChannel_eq_error recorded channelFound with rfl | rfl <;> exact nofun
    | ok channel =>
      by_cases shared : role.serverId = row.serverId ∧ channel.serverId = row.serverId
      · simp only [if_pos shared]
        rw [Joint.apply_inserting (j := overrideJoint t row)
          (f := (·.insertOverride (storeOverride row)))
          (override_refers sound roleFound channelFound shared) rfl]
        exact Joint.inserted_ne_foreignKey
      · simp only [if_neg shared]
        exact nofun

/-- In reachable tables assignments and overrides are taken up exactly if nothing stands against them,
and otherwise the first thing that does is reported; for an override this takes that the time of its
channel can be read. No foreign key is ever broken. -/
theorem joining_rows_decided (reachable : Reachable t) :
    (∀ row : Assignment,
      (assignmentJoint t row).Decides t ((Write.createAssignment row).change.apply t)) ∧
    (∀ row : Override,
      (∀ channel ∈ t.channels, channel.id = row.channelId.text →
        (Time.ofExact? channel.createdAt).isSome = true) →
      (overrideJoint t row).Decides t ((Write.createOverride row).change.apply t)) ∧
    ∀ row : Override,
      ((Write.createOverride row).change.apply t).1 ≠ .error (.database .foreignKey) :=
  ⟨createAssignment_decides reachable.sound, createOverride_decides reachable.sound,
    createOverride_ne_foreignKey reachable.sound⟩

namespace Sample

/-- Two servers with a role each, and a subscription and a channel of the first. -/
def unjoined : StoredTables :=
  Write.runAll
    [.createServer ⟨⟨5⟩, "hut", ⟨2⟩, .epoch⟩ ⟨4⟩ .epoch,
      .createRole ⟨⟨9⟩, ⟨5⟩, "keys", 0, 0, 0⟩,
      .createChannel ⟨⟨12⟩, ⟨7⟩, "hall", true, .epoch⟩]
    founded

end Sample

/-- A role of the other server is neither assigned to the subscription nor let into the channel, and a
role that is not there is not found. -/
theorem foreign_role_refused :
    Reachable Sample.unjoined ∧
      ((Write.createAssignment ⟨⟨10⟩, ⟨7⟩, ⟨1⟩, ⟨6⟩, ⟨9⟩⟩).change.apply Sample.unjoined).1 =
        .error (.mixedServers .assignment) ∧
      ((Write.createAssignment ⟨⟨10⟩, ⟨7⟩, ⟨1⟩, ⟨6⟩, ⟨11⟩⟩).change.apply Sample.unjoined).1 =
        .error .notFound ∧
      ((Write.createOverride ⟨⟨10⟩, ⟨7⟩, ⟨12⟩, ⟨9⟩⟩).change.apply Sample.unjoined).1 =
        .error (.mixedServers .override) := by
  have founded : Reachable Sample.founded := ⟨_, rfl⟩
  have reachable : Reachable Sample.unjoined := ((founded.apply _).apply _).apply _
  obtain ⟨assigns, restricts, -⟩ := joining_rows_decided reachable
  refine ⟨reachable, (assigns _).mixed.mpr ?assigned, (assigns _).notFound.mpr ?missing,
    (restricts _ ?readable).mixed.mpr ?restricted⟩
  case readable => decide +kernel
  all_goals
    simp only [assignmentJoint, overrideJoint]
    decide +kernel

end Creations

end Gatehouse.Store
