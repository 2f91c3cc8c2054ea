import Gatehouse.Proofs.Store.Deletion
import Gatehouse.Proofs.Store.Exact

/-! # Kinds of records

The store treats its eight kinds of records in one way. A record is written as one row of the table of
its kind, is found there by the text of its id, and is read back as it was, unless it has a time that
cannot be read. What the kinds differ in is listed here, with the few laws that they share; what is
proved from these laws holds for every kind.
-/

namespace Gatehouse.Store

/-- A kind of record: `α` is the type of its records and `ρ` the type of its rows. -/
structure Kind (α ρ : Type) where
  rows : StoredTables → List ρ
  key : ρ → String
  id : α → Uuid
  write : α → ρ
  read : ρ → Except DatabaseFault α
  /-- The time of a record and its column, for a kind that has one. -/
  time? : Option (Nat × (α → Time))
  get : StoredTables → Uuid → Except StoreFault α
  delete : Uuid → Write
  key_write (record : α) : key (write record) = (id record).text
  read_write (record : α) : read (write record) = readBack time? record
  get_eq (t : StoredTables) (id : Uuid) :
    get t id = readFound read ((rows t).find? fun r => key r = id.text)
  keyed {t : StoredTables} : t.Keyed → ((rows t).map key).Nodup
  recorded {t : StoredTables} : t.Recorded → ∀ r ∈ rows t, ∃ record, write record = r
  deletes (id : Uuid) : (delete id).deletes = true
  hits_iff (t : StoredTables) (id : Uuid) : (delete id).Hits t ↔ ∃ r ∈ rows t, key r = id.text

namespace Kind

def users : Kind User (UserRow String String) where
  rows := (·.users)
  key := (·.id)
  id := (·.id)
  write := storeUser
  read := readUser
  time? := some (2, (·.createdAt))
  get := Tables.getUser
  delete := .deleteUser
  key_write _ := rfl
  read_write := readBack_user
  get_eq _ _ := rfl
  keyed keyed := keyed.userIds
  recorded recorded := recorded.users
  deletes _ := rfl
  hits_iff _ _ := Iff.rfl

def servers : Kind Server (ServerRow String String) where
  rows := (·.servers)
  key := (·.id)
  id := (·.id)
  write := storeServer
  read := readServer
  time? := some (3, (·.createdAt))
  get := Tables.getServer
  delete := .deleteServer
  key_write _ := rfl
  read_write := readBack_server
  get_eq _ _ := rfl
  keyed keyed := keyed.serverIds
  recorded recorded := recorded.servers
  deletes _ := rfl
  hits_iff _ _ := Iff.rfl

def subscriptions : Kind Subscription (SubscriptionRow String String) where
  rows := (·.subscriptions)
  key := (·.id)
  id := (·.id)
  write := storeSubscription
  read := readSubscription
  time? := some (3, (·.createdAt))
  get := Tables.getSubscription
  delete := .deleteSubscription
  key_write _ := rfl
  read_write := readBack_subscription
  get_eq _ _ := rfl
  keyed keyed := keyed.subscriptionIds
  recorded recorded := recorded.subscriptions
  deletes _ := rfl
  hits_iff _ _ := Iff.rfl

def roles : Kind Role (RoleRow String Cell) where
  rows := (·.roles)
  key := (·.id)
  id := (·.id)
  write := storeRole
  read := readRole
  time? := none
  get := Tables.getRole
  delete := .deleteRole
  key_write _ := rfl
  read_write := readRole_storeRole
  get_eq _ _ := rfl
  keyed keyed := keyed.roleIds
  recorded recorded := recorded.roles
  deletes _ := rfl
  hits_iff _ _ := Iff.rfl

def assignments : Kind Assignment (AssignmentRow String) where
  rows := (·.assignments)
  key := (·.id)
  id := (·.id)
  write := storeAssignment
  read := readAssignment
  time? := none
  get := Tables.getAssignment
  delete := .deleteAssignment
  key_write _ := rfl
  read_write := readAssignment_storeAssignment
  get_eq _ _ := rfl
  keyed keyed := keyed.assignmentIds
  recorded recorded := recorded.assignments
  deletes _ := rfl
  hits_iff _ _ := Iff.rfl

def grants : Kind Grant (GrantRow String Cell) where
  rows := (·.grants)
  key := (·.id)
  id := (·.id)
  write := storeGrant
  read := readGrant
  time? := none
  get := Tables.getGrant
  delete := .deleteGrant
  key_write _ := rfl
  read_write := readGrant_storeGrant
  get_eq _ _ := rfl
  keyed keyed := keyed.grantIds
  recorded recorded := recorded.grants
  deletes _ := rfl
  hits_iff _ _ := Iff.rfl

def channels : Kind Channel (ChannelRow String Cell String) where
  rows := (·.channels)
  key := (·.id)
  id := (·.id)
  write := storeChannel
  read := readChannel
  time? := some (4, (·.createdAt))
  get := Tables.getChannel
  delete := .deleteChannel
  key_write _ := rfl
  read_write := readBack_channel
  get_eq _ _ := rfl
  keyed keyed := keyed.channelIds
  recorded recorded := recorded.channels
  deletes _ := rfl
  hits_iff _ _ := Iff.rfl

def overrides : Kind Override (OverrideRow String) where
  rows := (·.overrides)
  key := (·.id)
  id := (·.id)
  write := storeOverride
  read := readOverride
  time? := none
  get := Tables.getOverride
  delete := .deleteOverride
  key_write _ := rfl
  read_write := readOverride_storeOverride
  get_eq _ _ := rfl
  keyed keyed := keyed.overrideIds
  recorded recorded := recorded.overrides
  deletes _ := rfl
  hits_iff _ _ := Iff.rfl

variable {α ρ : Type} (k : Kind α ρ) {t : StoredTables}

/-- The lookup for a stored record finds its row. -/
theorem get_of_stored (sound : t.Sound) {record : α} (stored : k.write record ∈ k.rows t) :
    k.get t (k.id record) = (readBack k.time? record).mapError .database := by
  rw [k.get_eq, ← k.key_write, Tables.find?_id_eq_some (k.keyed sound.keyed) stored, readFound,
    k.read_write]

/-- What is not stored is not found. -/
theorem get_of_not_hits {id : Uuid} (misses : ¬ (k.delete id).Hits t) :
    k.get t id = .error .notFound := by
  rw [k.get_eq, readFound_eq_notFound_iff]
  intro r stored named
  exact misses ((k.hits_iff t id).mpr ⟨r, stored, of_decide_eq_true named⟩)

end Kind

namespace Sample

/-- The last nanosecond of 2016, in a leap second. -/
def leapSecond : Time := ⟨1483228799, 1999999999, by decide⟩

/-- The start of the year 10000. -/
def afterAll : Time := ⟨253402300800, 0, by decide⟩

end Sample

end Gatehouse.Store
