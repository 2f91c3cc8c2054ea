import Gatehouse.Proofs.Calm
import Gatehouse.Proofs.Store.Run
import Gatehouse.Proofs.Store.Slice
import Gatehouse.Proofs.TimeText

/-! # Exact lookups

In sound tables whose times can all be read, every lookup is answered. A lookup for one row finds a
record exactly if a row with the id, or with the pair of ids, reads as that record; what it answers is
settled by the rows that fit.
-/

namespace Gatehouse.Store

/-- What a record is read back as: as it was, or, if it has a time that cannot be read, with the
column of the time as the fault. -/
def readBack {α : Type} (time? : Option (Nat × (α → Time))) (record : α) : Except DatabaseFault α :=
  match time? with
  | some (column, time) =>
    if (time record).Readable then .ok record else .error (.conversion column)
  | none => .ok record

section ReadBack

variable {α : Type} {column : Nat} {time : α → Time} {record : α}

theorem readBack_of_readable (readable : (time record).Readable) :
    readBack (some (column, time)) record = .ok record := if_pos readable

theorem readBack_of_unreadable (unreadable : ¬ (time record).Readable) :
    readBack (some (column, time)) record = .error (.conversion column) := if_neg unreadable

theorem readable_of_readBack {read : α} (known : readBack (some (column, time)) record = .ok read) :
    (time record).Readable := by
  by_cases readable : (time record).Readable
  · exact readable
  · rw [readBack_of_unreadable readable] at known
    cases known

end ReadBack

/-- A time that is stored is read as it was or not at all. -/
theorem readTime_storedText (column : Nat) (t : Time) :
    readTime column t.storedText = if t.Readable then .ok t else .error (.conversion column) := by
  unfold readTime
  by_cases readable : t.Readable
  · rw [Time.ofExact?_storedText readable, if_pos readable]
  · rw [if_neg readable]
    cases known : Time.ofExact? t.storedText with
    | none => rfl
    | some read => exact absurd (Time.readable_of_ofExact? known) readable

theorem readBack_user (r : User) :
    readUser (storeUser r) = readBack (some (2, (·.createdAt))) r := by
  simp only [readUser, storeUser, readId_text, readTime_storedText, readBack]
  split <;> rfl

theorem readBack_server (r : Server) :
    readServer (storeServer r) = readBack (some (3, (·.createdAt))) r := by
  simp only [readServer, storeServer, readId_text, readTime_storedText, readBack]
  split <;> rfl

theorem readBack_subscription (r : Subscription) :
    readSubscription (storeSubscription r) = readBack (some (3, (·.createdAt))) r := by
  simp only [readSubscription, storeSubscription, readId_text, readTime_storedText, readBack]
  split <;> rfl

theorem readBack_channel (r : Channel) :
    readChannel (storeChannel r) = readBack (some (4, (·.createdAt))) r := by
  simp only [readChannel, storeChannel, readId_text, readFlag_ofBool, readTime_storedText, readBack]
  split <;> rfl

theorem readServer_of_readable {r : Server} (readable : r.createdAt.Readable) :
    readServer (storeServer r) = .ok r :=
  (readBack_server r).trans (readBack_of_readable readable)

theorem readSubscription_of_readable {r : Subscription} (readable : r.createdAt.Readable) :
    readSubscription (storeSubscription r) = .ok r :=
  (readBack_subscription r).trans (readBack_of_readable readable)

theorem readChannel_of_readable {r : Channel} (readable : r.createdAt.Readable) :
    readChannel (storeChannel r) = .ok r :=
  (readBack_channel r).trans (readBack_of_readable readable)

theorem readable_of_readServer {r record : Server} (known : readServer (storeServer r) = .ok record) :
    r.createdAt.Readable :=
  readable_of_readBack ((readBack_server r).symm.trans known)

theorem readable_of_readSubscription {r record : Subscription}
    (known : readSubscription (storeSubscription r) = .ok record) : r.createdAt.Readable :=
  readable_of_readBack ((readBack_subscription r).symm.trans known)

theorem readable_of_readChannel {r record : Channel}
    (known : readChannel (storeChannel r) = .ok record) : r.createdAt.Readable :=
  readable_of_readBack ((readBack_channel r).symm.trans known)

section OneRow

variable {α β : Type} {read : α → Except DatabaseFault β} {rows : List α} {p : α → Bool}

/-- Where no two rows fit, the record is that of the row that fits. -/
theorem lookedUp_readFound_eq_ok_iff
    (unique : ∀ a ∈ rows, ∀ b ∈ rows, p a = true → p b = true → a = b) {record : β} :
    lookedUp (readFound read (rows.find? p)) = .ok record ↔
      ∃ r ∈ rows, p r = true ∧ read r = .ok record := by
  rw [lookedUp_eq_ok_iff]
  cases hit : rows.find? p with
  | none =>
    have missing := List.find?_eq_none.mp hit
    simp only [readFound, reduceCtorEq, false_iff]
    rintro ⟨r, stored, fits, -⟩
    exact missing r stored fits
  | some r =>
    have stored := List.mem_of_find?_eq_some hit
    have fits := List.find?_some hit
    have told : readFound read (some r) = .ok record ↔ read r = .ok record := by
      simp only [readFound]
      cases read r <;> simp
    rw [told]
    constructor
    · intro known
      exact ⟨r, stored, fits, known⟩
    · rintro ⟨r', stored', fits', known⟩
      rwa [unique r stored r' stored' fits fits']

/-- Where all rows can be read there is no failure. -/
theorem lookedUp_readFound_ne_backend (legible : ∀ r ∈ rows, ∃ record, read r = .ok record)
    {report : String} {causes : List String} :
    lookedUp (readFound read (rows.find? p)) ≠ .error (.backend report causes) := by
  cases hit : rows.find? p with
  | none => simp [readFound, lookedUp]
  | some r =>
    obtain ⟨record, known⟩ := legible r (List.mem_of_find?_eq_some hit)
    simp [readFound, known, lookedUp]

/-- A stored record can be read if the lookup for its id does not fail. -/
theorem read_of_reliable {α β : Type} {store : β → α} {read : α → Except DatabaseFault β}
    {records : List β} {key : α → String} (distinct : ((records.map store).map key).Nodup) {r : β}
    (there : r ∈ records)
    (reliable : ∀ report causes,
      lookedUp (readFound read ((records.map store).find? fun a => key a = key (store r))) ≠
        .error (.backend report causes)) :
    ∃ record, read (store r) = .ok record := by
  rw [Tables.find?_id_eq_some distinct (List.mem_map_of_mem there)] at reliable
  cases known : read (store r) with
  | ok record => exact ⟨record, rfl⟩
  | error fault =>
    simp only [readFound, known] at reliable
    exact (reliable _ _ rfl).elim

private theorem readAll_eq_ok (legible : ∀ r ∈ rows, ∃ record, read r = .ok record) :
    readAll read rows = .ok (rows.filterMap fun r => (read r).toOption) := by
  have records : rows.mapM read = .ok (rows.filterMap fun r => (read r).toOption) := by
    induction rows with
    | nil => rfl
    | cons r rest ih =>
      obtain ⟨record, known⟩ := legible r (List.mem_cons_self ..)
      have later := ih fun r stored => legible r (List.mem_cons_of_mem _ stored)
      rw [List.mapM_cons, known, later, List.filterMap_cons, known]
      rfl
  rw [readAll, records]
  rfl

end OneRow

/-- An answer that is no failure is settled by what it finds. -/
theorem reply_ext {α : Type} {reply reply' : Except LookupFailure α}
    (reliable : ∀ report causes, reply ≠ .error (.backend report causes))
    (reliable' : ∀ report causes, reply' ≠ .error (.backend report causes))
    (same : ∀ record, reply = .ok record ↔ reply' = .ok record) : reply = reply' := by
  cases reply with
  | ok record => exact ((same record).mp rfl).symm
  | error failure =>
    cases reply' with
    | ok record => exact (same record).mpr rfl
    | error failure' =>
      cases failure with
      | backend report causes => exact (reliable report causes rfl).elim
      | noRows =>
        cases failure' with
        | backend report causes => exact (reliable' report causes rfl).elim
        | noRows => rfl

namespace Tables

variable {t : StoredTables}

/-- The times of servers, subscriptions and channels can be read. No lookup reads those of users. -/
structure Legible (t : StoredTables) : Prop where
  servers : ∀ r ∈ t.servers, (Time.ofExact? r.createdAt).isSome = true
  subscriptions : ∀ r ∈ t.subscriptions, (Time.ofExact? r.createdAt).isSome = true
  channels : ∀ r ∈ t.channels, (Time.ofExact? r.createdAt).isSome = true

/-- A stored time that can be read at all is one that is read as it was. -/
theorem readable_of_isSome {time : Time} (known : (Time.ofExact? time.storedText).isSome = true) :
    time.Readable := by
  obtain ⟨read, known⟩ := Option.isSome_iff_exists.mp known
  exact Time.readable_of_ofExact? known

theorem Legible.readServer (legible : t.Legible) (recorded : t.Recorded) :
    ∀ r ∈ t.servers, ∃ record, readServer r = .ok record := by
  intro r stored
  obtain ⟨record, rfl⟩ := recorded.servers r stored
  have known := legible.servers _ stored
  simp only [storeServer] at known
  exact ⟨record, readServer_of_readable (readable_of_isSome known)⟩

theorem Legible.readSubscription (legible : t.Legible) (recorded : t.Recorded) :
    ∀ r ∈ t.subscriptions, ∃ record, readSubscription r = .ok record := by
  intro r stored
  obtain ⟨record, rfl⟩ := recorded.subscriptions r stored
  have known := legible.subscriptions _ stored
  simp only [storeSubscription] at known
  exact ⟨record, readSubscription_of_readable (readable_of_isSome known)⟩

theorem Legible.readChannel (legible : t.Legible) (recorded : t.Recorded) :
    ∀ r ∈ t.channels, ∃ record, readChannel r = .ok record := by
  intro r stored
  obtain ⟨record, rfl⟩ := recorded.channels r stored
  have known := legible.channels _ stored
  simp only [storeChannel] at known
  exact ⟨record, readChannel_of_readable (readable_of_isSome known)⟩

/-- Rows of records can be read if every record is read back. -/
theorem legible_of_recorded {α β : Type} {rows : List α} {store : β → α}
    {read : α → Except DatabaseFault β} (recorded : ∀ r ∈ rows, ∃ record, store record = r)
    (back : ∀ record, read (store record) = .ok record) : ∀ r ∈ rows, ∃ record, read r = .ok record := by
  intro r stored
  obtain ⟨record, rfl⟩ := recorded r stored
  exact ⟨record, back record⟩

theorem Recorded.readRole (recorded : t.Recorded) :
    ∀ r ∈ t.roles, ∃ record, readRole r = .ok record :=
  legible_of_recorded recorded.roles readRole_storeRole

theorem Recorded.readAssignment (recorded : t.Recorded) :
    ∀ r ∈ t.assignments, ∃ record, readAssignment r = .ok record :=
  legible_of_recorded recorded.assignments readAssignment_storeAssignment

theorem Recorded.readGrant (recorded : t.Recorded) :
    ∀ r ∈ t.grants, ∃ record, readGrant r = .ok record :=
  legible_of_recorded recorded.grants readGrant_storeGrant

theorem Recorded.readOverride (recorded : t.Recorded) :
    ∀ r ∈ t.overrides, ∃ record, readOverride r = .ok record :=
  legible_of_recorded recorded.overrides readOverride_storeOverride

/-- The rows of the roles assigned to a user on a server. -/
def rolesJoined (t : StoredTables) (serverId userId : Uuid) : List (RoleRow String Cell) :=
  (t.assignments.filter fun a => a.serverId = serverId.text && a.userId = userId.text).flatMap
    fun a => t.roles.filter (·.id = a.roleId)

theorem mem_roles_of_joined {serverId userId : Uuid} {r : RoleRow String Cell}
    (joined : r ∈ t.rolesJoined serverId userId) : r ∈ t.roles := by
  obtain ⟨a, -, there⟩ := List.mem_flatMap.mp joined
  exact (List.mem_filter.mp there).1

/-- The roles that a user holds on a server can always be read. -/
theorem listRolesHeld_eq (recorded : t.Recorded) (serverId userId : Uuid) :
    t.listRolesHeld serverId userId =
      .ok ((t.rolesJoined serverId userId).filterMap fun r => (readRole r).toOption) :=
  readAll_eq_ok fun r joined => recorded.readRole r (mem_roles_of_joined joined)

/-- Tables with legible times answer every lookup. -/
theorem Legible.reliable (legible : t.Legible) (recorded : t.Recorded) : t.storage.Reliable := by
  intro q report causes
  cases q with
  | server id => exact lookedUp_readFound_ne_backend (legible.readServer recorded)
  | subscription id | membership serverId userId =>
    exact lookedUp_readFound_ne_backend (legible.readSubscription recorded)
  | role id => exact lookedUp_readFound_ne_backend recorded.readRole
  | assignment id => exact lookedUp_readFound_ne_backend recorded.readAssignment
  | grantFor serverId userId | grant id => exact lookedUp_readFound_ne_backend recorded.readGrant
  | channel id => exact lookedUp_readFound_ne_backend (legible.readChannel recorded)
  | override id => exact lookedUp_readFound_ne_backend recorded.readOverride
  | rolesHeld serverId userId =>
    simp only [storage, listRolesHeld_eq recorded, lookedUp]
    exact nofun

end Tables

end Gatehouse.Store
