import Gatehouse.Store.Change
import Gatehouse.Store.Row

/-! # Schema

A database has tables and indexes, a number that says which steps of the schema it has gone through,
and rows. To bring it up to date, the steps above its number are taken in order: each creates what
is not there yet, and when all of that is done the number of the step is recorded. A step that fails
midway leaves what it has created, and the number of the step before. Rows are never touched.
-/

namespace Gatehouse.Store

inductive Index where
  | serversOwner
  | subscriptionsUser
  | rolesServer
  | assignmentsServerUser
  | assignmentsRole
  | channelsServer
  | overridesRole
deriving DecidableEq, Repr

def Index.name : Index → String
  | .serversOwner => "idx_servers_owner"
  | .subscriptionsUser => "idx_subscriptions_user"
  | .rolesServer => "idx_roles_server"
  | .assignmentsServerUser => "idx_role_subs_server_user"
  | .assignmentsRole => "idx_role_subs_role"
  | .channelsServer => "idx_channels_server"
  | .overridesRole => "idx_channel_roles_role"

/-- The table that an index is on. -/
def Index.table : Index → Table
  | .serversOwner => .servers
  | .subscriptionsUser => .subscriptions
  | .rolesServer => .roles
  | .assignmentsServerUser | .assignmentsRole => .assignments
  | .channelsServer => .channels
  | .overridesRole => .overrides

/-- What a schema consists of. -/
inductive SchemaObject where
  | table (t : Table)
  | index (i : Index)
deriving DecidableEq, Repr

def SchemaObject.text : SchemaObject → String
  | .table t => "table " ++ t.name
  | .index i => "index " ++ i.name

/-- A step of the schema: what it creates, in order. -/
structure Step where
  version : Int
  name : String
  creates : List SchemaObject
deriving DecidableEq, Repr

namespace Step

def initial : Step :=
  ⟨1, "v001_initial",
    [.table .users, .table .servers, .table .subscriptions, .table .roles, .table .assignments,
      .table .grants, .table .channels, .table .overrides]⟩

def indexes : Step :=
  ⟨2, "v002_indexes",
    [.index .serversOwner, .index .subscriptionsUser, .index .rolesServer,
      .index .assignmentsServerUser, .index .assignmentsRole, .index .channelsServer,
      .index .overridesRole]⟩

def all : List Step := [initial, indexes]

end Step

/-- The number of the newest step. -/
def currentVersion : Int := 2

structure Database where
  version : Int
  objects : List SchemaObject
  tables : StoredTables
deriving DecidableEq, Repr

namespace Database

/-- A database that nothing was ever done to. -/
def blank : Database := ⟨0, [], Tables.empty⟩

/-- Record a schema version. A number that does not fit into 32 bits with sign is recorded as zero.
-/
def stamp (version : Int) (d : Database) : Database :=
  let fits := Int32.minValue.toInt ≤ version ∧ version ≤ Int32.maxValue.toInt
  { d with version := if fits then version else 0 }

/-- Create an object unless it is there. An index needs its table. -/
def create (o : SchemaObject) (d : Database) : Except DatabaseFault Database :=
  if o ∈ d.objects then .ok d
  else
    match o with
    | .table _ => .ok { d with objects := d.objects ++ [o] }
    | .index i =>
      if .table i.table ∈ d.objects then .ok { d with objects := d.objects ++ [o] }
      else .error (.noSuchTable i.table)

/-- Create objects in order, up to the first that cannot be created. -/
def createAll : List SchemaObject → Change Database DatabaseFault Unit
  | [] => return
  | o :: rest => do
    Change.update (create o)
    createAll rest

/-- Take steps in order, up to the first that fails. -/
def takeSteps : List Step → Change Database StoreFault Unit
  | [] => return
  | step :: rest => do
    (createAll step.creates).mapFault fun fault => .migration (.stepFailed step.name fault)
    modify (stamp step.version)
    takeSteps rest

/-- Bring the schema up to date. -/
def migrate : Change Database StoreFault Unit := do
  let version := (← get).version
  if version < 0 then throw (.database (.versionRange version))
  if currentVersion < version then throw (.migration (.newerSchema version currentVersion))
  takeSteps (Step.all.filter (version < ·.version))

/-- Change the rows. -/
def onTables {α : Type} (change : Change StoredTables StoreFault α) (d : Database) :
    Except StoreFault α × Database :=
  let (ending, tables) := change.apply d.tables
  (ending, { d with tables })

end Database

end Gatehouse.Store
