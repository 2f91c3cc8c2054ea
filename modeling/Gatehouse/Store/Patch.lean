import Gatehouse.Store.Change
import Gatehouse.Store.Row

/-! # Patching single columns

Someone with access to the database itself can set one column of one row. References are not checked
then, so a row may end up referring to nothing, but no column becomes null, and what must be unique
stays so. Columns are looked up by name; each is a column of texts or of numbers.
-/

namespace Gatehouse.Store

/-- A column of rows: how to see it as a cell, and how to put a value in. -/
structure Column (ρ : Type) where
  name : String
  get : ρ → Cell
  set? : Value → ρ → Option ρ

namespace Column

variable {ρ : Type}

/-- A column of texts. -/
def ofText (name : String) (get : ρ → String) (put : String → ρ → ρ) : Column ρ :=
  ⟨name, fun r => .text (get r), fun v r => v.toText?.map (put · r)⟩

/-- A column of numbers. -/
def ofCell (name : String) (get : ρ → Cell) (put : Cell → ρ → ρ) : Column ρ :=
  ⟨name, get, fun v r => v.toCell?.map (put · r)⟩

end Column

/-- How the rows of a table look: the columns in order and the groups of columns that must be
unique, in the order in which they are checked. -/
structure Layout (ρ : Type) where
  table : Table
  columns : List (Column ρ)
  unique : List (List String)

namespace Layout

variable {ρ : Type}

/-- The values of a row, in the order of the columns. -/
def cells (l : Layout ρ) (r : ρ) : List Cell := l.columns.map (·.get r)

def column? (l : Layout ρ) (name : String) : Option (Column ρ) := l.columns.find? (·.name == name)

/-- The values of a row in some columns. -/
def key (l : Layout ρ) (names : List String) (r : ρ) : List Cell :=
  names.filterMap fun name => (l.column? name).map (·.get r)

/-- Set a column of the row with the given id among `rows`; the number of rows that were changed is
returned with them. -/
def patch (l : Layout ρ) (id : String) (column : Column ρ) (value : Value) (rows : List ρ) :
    Except DatabaseFault (Nat × List ρ) :=
  let hit (r : ρ) : Bool := l.key ["id"] r = [.text id]
  match rows.find? hit with
  | none => .ok (0, rows)
  | some row =>
    match column.set? value row with
    | none => .error (.notNull l.table column.name)
    | some patched =>
      let others := rows.filter fun r => !hit r
      let clashes (names : List String) : Bool :=
        others.any fun r => l.key names r = l.key names patched
      match l.unique.find? clashes with
      | some names => .error (.unique l.table names)
      | none => .ok (1, rows.map fun r => if hit r then patched else r)

end Layout

namespace Layout

def users : Layout (UserRow String String) where
  table := .users
  columns := [
    .ofText "id" (·.id) fun v r => { r with id := v },
    .ofText "username" (·.username) fun v r => { r with username := v },
    .ofText "created_at" (·.createdAt) fun v r => { r with createdAt := v }]
  unique := [["username"], ["id"]]

def servers : Layout (ServerRow String String) where
  table := .servers
  columns := [
    .ofText "id" (·.id) fun v r => { r with id := v },
    .ofText "name" (·.name) fun v r => { r with name := v },
    .ofText "owner_id" (·.ownerId) fun v r => { r with ownerId := v },
    .ofText "created_at" (·.createdAt) fun v r => { r with createdAt := v }]
  unique := [["id"]]

def subscriptions : Layout (SubscriptionRow String String) where
  table := .subscriptions
  columns := [
    .ofText "id" (·.id) fun v r => { r with id := v },
    .ofText "server_id" (·.serverId) fun v r => { r with serverId := v },
    .ofText "user_id" (·.userId) fun v r => { r with userId := v },
    .ofText "created_at" (·.createdAt) fun v r => { r with createdAt := v }]
  unique := [["server_id", "user_id"], ["id"]]

def roles : Layout (RoleRow String Cell) where
  table := .roles
  columns := [
    .ofText "id" (·.id) fun v r => { r with id := v },
    .ofText "server_id" (·.serverId) fun v r => { r with serverId := v },
    .ofText "name" (·.name) fun v r => { r with name := v },
    .ofCell "server_mask" (·.serverMask) fun v r => { r with serverMask := v },
    .ofCell "channel_mask" (·.channelMask) fun v r => { r with channelMask := v },
    .ofCell "sub_mask" (·.subMask) fun v r => { r with subMask := v }]
  unique := [["id"]]

def assignments : Layout (AssignmentRow String) where
  table := .assignments
  columns := [
    .ofText "id" (·.id) fun v r => { r with id := v },
    .ofText "server_id" (·.serverId) fun v r => { r with serverId := v },
    .ofText "user_id" (·.userId) fun v r => { r with userId := v },
    .ofText "subscription_id" (·.subscriptionId) fun v r => { r with subscriptionId := v },
    .ofText "role_id" (·.roleId) fun v r => { r with roleId := v }]
  unique := [["subscription_id", "role_id"], ["id"]]

def grants : Layout (GrantRow String Cell) where
  table := .grants
  columns := [
    .ofText "id" (·.id) fun v r => { r with id := v },
    .ofText "server_id" (·.serverId) fun v r => { r with serverId := v },
    .ofText "user_id" (·.userId) fun v r => { r with userId := v },
    .ofCell "read_all" (·.readAll) fun v r => { r with readAll := v },
    .ofCell "write_all" (·.writeAll) fun v r => { r with writeAll := v },
    .ofCell "delete_all" (·.deleteAll) fun v r => { r with deleteAll := v }]
  unique := [["server_id", "user_id"], ["id"]]

def channels : Layout (ChannelRow String Cell String) where
  table := .channels
  columns := [
    .ofText "id" (·.id) fun v r => { r with id := v },
    .ofText "server_id" (·.serverId) fun v r => { r with serverId := v },
    .ofText "name" (·.name) fun v r => { r with name := v },
    .ofCell "is_private" (·.isPrivate) fun v r => { r with isPrivate := v },
    .ofText "created_at" (·.createdAt) fun v r => { r with createdAt := v }]
  unique := [["id"]]

def overrides : Layout (OverrideRow String) where
  table := .overrides
  columns := [
    .ofText "id" (·.id) fun v r => { r with id := v },
    .ofText "server_id" (·.serverId) fun v r => { r with serverId := v },
    .ofText "channel_id" (·.channelId) fun v r => { r with channelId := v },
    .ofText "role_id" (·.roleId) fun v r => { r with roleId := v }]
  unique := [["channel_id", "role_id"], ["id"]]

end Layout

namespace Table

def all : List Table :=
  [.users, .servers, .subscriptions, .roles, .assignments, .grants, .channels, .overrides]

def ofName? (name : String) : Option Table := all.find? (·.name == name)

/-- Set a column of a row of one table. `none` if the table has no such column. -/
def patch? (table : Table) (id column : String) (value : Value) :
    Option (Change StoredTables StoreFault Nat) :=
  let go {ρ : Type} (l : Layout ρ) (get : StoredTables → List ρ)
      (put : List ρ → StoredTables → StoredTables) : Option (Change StoredTables StoreFault Nat) :=
    (l.column? column).map fun column => do
      let t ← get <$> MonadState.get
      let (count, rows) ← Change.ofExcept ((l.patch id column value t).mapError .database)
      modify (put rows)
      return count
  match table with
  | .users => go .users (·.users) fun rows t => { t with users := rows }
  | .servers => go .servers (·.servers) fun rows t => { t with servers := rows }
  | .subscriptions =>
    go .subscriptions (·.subscriptions) fun rows t => { t with subscriptions := rows }
  | .roles => go .roles (·.roles) fun rows t => { t with roles := rows }
  | .assignments => go .assignments (·.assignments) fun rows t => { t with assignments := rows }
  | .grants => go .grants (·.grants) fun rows t => { t with grants := rows }
  | .channels => go .channels (·.channels) fun rows t => { t with channels := rows }
  | .overrides => go .overrides (·.overrides) fun rows t => { t with overrides := rows }

/-- All rows of a table as cells. -/
def contents (table : Table) (t : StoredTables) : List (List Cell) :=
  match table with
  | .users => t.users.map (Layout.cells .users)
  | .servers => t.servers.map (Layout.cells .servers)
  | .subscriptions => t.subscriptions.map (Layout.cells .subscriptions)
  | .roles => t.roles.map (Layout.cells .roles)
  | .assignments => t.assignments.map (Layout.cells .assignments)
  | .grants => t.grants.map (Layout.cells .grants)
  | .channels => t.channels.map (Layout.cells .channels)
  | .overrides => t.overrides.map (Layout.cells .overrides)

end Table

end Gatehouse.Store
