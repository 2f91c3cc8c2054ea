import Gatehouse.Store.Cell
import Gatehouse.Store.Tables
import Gatehouse.Time.Text

/-! # Stored rows

The store keeps ids and times as text and masks and flags as numbers. A record is written in one
way. A row is read column by column from the left, and the first column that cannot be read is
reported with its number: ids are read in any of their layouts, times in the exact form, so a time
outside the years 0 to 9999 is kept but cannot be read, and any number but zero is a true flag.
-/

namespace Gatehouse.Store

abbrev StoredTables := Tables String String Cell Cell

def readId (index : Nat) (s : String) : Except DatabaseFault Uuid :=
  match Uuid.ofText? s with
  | some id => .ok id
  | none => .error (.conversion index)

def readTime (index : Nat) (s : String) : Except DatabaseFault Time :=
  match Time.ofExact? s with
  | some t => .ok t
  | none => .error (.conversion index)

def readWord (index : Nat) (column : String) : Cell → Except DatabaseFault Int64
  | .int word => .ok word
  | .real => .error (.columnType .real index column)
  | .text _ => .error (.columnType .text index column)

def readFlag (index : Nat) (column : String) (cell : Cell) : Except DatabaseFault Bool :=
  (readWord index column cell).map (· ≠ 0)

def storeUser (r : User) : UserRow String String := ⟨r.id.text, r.username, r.createdAt.storedText⟩

def readUser (r : UserRow String String) : Except DatabaseFault User := do
  return ⟨← readId 0 r.id, r.username, ← readTime 2 r.createdAt⟩

def storeServer (r : Server) : ServerRow String String :=
  ⟨r.id.text, r.name, r.ownerId.text, r.createdAt.storedText⟩

def readServer (r : ServerRow String String) : Except DatabaseFault Server := do
  return ⟨← readId 0 r.id, r.name, ← readId 2 r.ownerId, ← readTime 3 r.createdAt⟩

def storeSubscription (r : Subscription) : SubscriptionRow String String :=
  ⟨r.id.text, r.serverId.text, r.userId.text, r.createdAt.storedText⟩

def readSubscription (r : SubscriptionRow String String) : Except DatabaseFault Subscription := do
  return ⟨← readId 0 r.id, ← readId 1 r.serverId, ← readId 2 r.userId, ← readTime 3 r.createdAt⟩

def storeRole (r : Role) : RoleRow String Cell :=
  ⟨r.id.text, r.serverId.text, r.name, .int r.serverMask, .int r.channelMask, .int r.subMask⟩

def readRole (r : RoleRow String Cell) : Except DatabaseFault Role := do
  return ⟨← readId 0 r.id, ← readId 1 r.serverId, r.name, ← readWord 3 "server_mask" r.serverMask,
    ← readWord 4 "channel_mask" r.channelMask, ← readWord 5 "sub_mask" r.subMask⟩

def storeAssignment (r : Assignment) : AssignmentRow String :=
  ⟨r.id.text, r.serverId.text, r.userId.text, r.subscriptionId.text, r.roleId.text⟩

def readAssignment (r : AssignmentRow String) : Except DatabaseFault Assignment := do
  return ⟨← readId 0 r.id, ← readId 1 r.serverId, ← readId 2 r.userId, ← readId 3 r.subscriptionId,
    ← readId 4 r.roleId⟩

def storeGrant (r : Grant) : GrantRow String Cell :=
  ⟨r.id.text, r.serverId.text, r.userId.text, .ofBool r.readAll, .ofBool r.writeAll,
    .ofBool r.deleteAll⟩

def readGrant (r : GrantRow String Cell) : Except DatabaseFault Grant := do
  return ⟨← readId 0 r.id, ← readId 1 r.serverId, ← readId 2 r.userId,
    ← readFlag 3 "read_all" r.readAll, ← readFlag 4 "write_all" r.writeAll,
    ← readFlag 5 "delete_all" r.deleteAll⟩

def storeChannel (r : Channel) : ChannelRow String Cell String :=
  ⟨r.id.text, r.serverId.text, r.name, .ofBool r.isPrivate, r.createdAt.storedText⟩

def readChannel (r : ChannelRow String Cell String) : Except DatabaseFault Channel := do
  return ⟨← readId 0 r.id, ← readId 1 r.serverId, r.name, ← readFlag 3 "is_private" r.isPrivate,
    ← readTime 4 r.createdAt⟩

def storeOverride (r : Override) : OverrideRow String :=
  ⟨r.id.text, r.serverId.text, r.channelId.text, r.roleId.text⟩

def readOverride (r : OverrideRow String) : Except DatabaseFault Override := do
  return ⟨← readId 0 r.id, ← readId 1 r.serverId, ← readId 2 r.channelId, ← readId 3 r.roleId⟩

end Gatehouse.Store
