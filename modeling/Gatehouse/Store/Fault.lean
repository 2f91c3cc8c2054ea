import Gatehouse.Name

/-! # What goes wrong in the store

The database refuses statements and files, and finds columns that cannot be read; the store refuses
names and records that do not belong together. Each fault has one text.
-/

namespace Gatehouse.Store

inductive Table where
  | users
  | servers
  | subscriptions
  | roles
  | assignments
  | grants
  | channels
  | overrides
deriving DecidableEq, Repr

def Table.name : Table → String
  | .users => "users"
  | .servers => "servers"
  | .subscriptions => "subscriptions"
  | .roles => "roles"
  | .assignments => "role_subs"
  | .grants => "explicit_grants"
  | .channels => "channels"
  | .overrides => "channel_roles"

/-- A kind of value that was found where another kind is read. -/
inductive ColumnType where
  | real
  | text
deriving DecidableEq, Repr

def ColumnType.name : ColumnType → String
  | .real => "Real"
  | .text => "Text"

/-- What the database itself reports. -/
inductive DatabaseFault where
  /-- Another row has the same values in these columns. -/
  | unique (table : Table) (columns : List String)
  | notNull (table : Table) (column : String)
  /-- A referenced row does not exist. -/
  | foreignKey
  /-- The text in the column with this number is no id or no time. -/
  | conversion (index : Nat)
  | columnType (found : ColumnType) (index : Nat) (column : String)
  /-- A schema version that is no natural number. -/
  | versionRange (version : Int)
  | noSuchTable (table : Table)
  | notADatabase
  /-- The pages of a file contradict each other. -/
  | malformed
  /-- The layout of a schema is newer than any that is known. -/
  | unknownFormat
  | readOnly
  | cannotOpen
deriving DecidableEq, Repr

def DatabaseFault.text : DatabaseFault → String
  | .unique table columns =>
    "UNIQUE constraint failed: " ++
      ", ".intercalate (columns.map fun column => s!"{table.name}.{column}")
  | .notNull table column => s!"NOT NULL constraint failed: {table.name}.{column}"
  | .foreignKey => "FOREIGN KEY constraint failed"
  | .conversion index => s!"Conversion error from type Text at index: {index}"
  | .columnType found index column =>
    s!"Invalid column type {found.name} at index: {index}, name: {column}"
  | .versionRange version => s!"Integer {version} out of range at index 0"
  | .noSuchTable table => s!"no such table: main.{table.name}"
  | .notADatabase => "file is not a database"
  | .malformed => "database disk image is malformed"
  | .unknownFormat => "unsupported file format"
  | .readOnly => "attempt to write a readonly database"
  | .cannotOpen => "unable to open database file"

/-- Why the folder of a database file cannot be made. -/
inductive FolderFault where
  | fileExists
  | notADirectory
  /-- A name or the whole path has too many bytes. -/
  | nameTooLong
  /-- A name has a character that no name may have. -/
  | badName
deriving DecidableEq, Repr

def FolderFault.text : FolderFault → String
  | .fileExists => "File exists (os error 17)"
  | .notADirectory => "Not a directory (os error 20)"
  | .nameTooLong => "File name too long (os error 36)"
  | .badName => "file name contained an unexpected NUL byte"

/-- Why the schema cannot be brought up to date. -/
inductive MigrationFault where
  | stepFailed (step : String) (fault : DatabaseFault)
  /-- The schema has a version that this build does not know. -/
  | newerSchema (version current : Int)
deriving DecidableEq, Repr

def MigrationFault.text : MigrationFault → String
  | .stepFailed step fault => s!"{step}: {fault.text}"
  | .newerSchema version current =>
    s!"database schema v{version} is newer than this build (v{current})"

/-- Records that had to live in one server and do not. -/
inductive Mixture where
  | assignment
  | override
deriving DecidableEq, Repr

def Mixture.text : Mixture → String
  | .assignment => "subscription, role and assignment must share one server"
  | .override => "channel, role and override must share one server"

inductive StoreFault where
  | database (fault : DatabaseFault)
  | folder (fault : FolderFault)
  | notFound
  | migration (fault : MigrationFault)
  | mixedServers (found : Mixture)
  /-- The lock on the database was left in an unknown state. -/
  | lockPoisoned
  | invalidName
deriving DecidableEq, Repr

def StoreFault.text : StoreFault → String
  | .database fault => s!"Database error: {fault.text}"
  | .folder fault => s!"IO error: {fault.text}"
  | .notFound => "Record not found"
  | .migration fault => s!"Migration error: {fault.text}"
  | .mixedServers found => s!"Invariant violation: {found.text}"
  | .lockPoisoned => "Database lock poisoned"
  | .invalidName => s!"Invalid name: {Name.complaint}"

/-- The texts of the causes behind a fault. -/
def StoreFault.causes : StoreFault → List String
  | .database fault => [fault.text]
  | .folder fault => [fault.text]
  | .invalidName => [Name.complaint]
  | .notFound | .migration _ | .mixedServers _ | .lockPoisoned => []

end Gatehouse.Store
