import Gatehouse.Text.Blank

/-! # Operations

A request names its operation by two words, an action and perhaps a sub-action. Words that differ
only in blanks around them are the same, and a blank sub-action is none. Several pairs of words mean
one operation; a pair outside the vocabulary means none, and so can never be allowed.
-/

namespace Gatehouse

inductive Action where
  | read
  | write
  | create
  | delete
deriving DecidableEq, Repr

inductive SubAction where
  | listServerRoles
  | listServerSubs
  | listUserSubs
  | listServerUserPermissions
  | listRoleAssignments
  | listChannels
  /-- A bare list, for classes that have one kind of list. -/
  | list
  | getById
  | create
  | delete
deriving DecidableEq, Repr

/-- The kinds of operations that a grant tells apart. -/
inductive Family where
  | read
  | write
  | delete
deriving DecidableEq, Repr

inductive Operation where
  | read (sub : Option SubAction)
  | create
  | write (sub : Option SubAction)
  | delete
deriving DecidableEq, Repr

def Action.ofWord? (word : String) : Option Action :=
  match Text.trim word with
  | "read" => some .read
  | "write" => some .write
  | "create" => some .create
  | "delete" => some .delete
  | _ => none

namespace SubAction

def name : SubAction → String
  | .listServerRoles => "list-server-roles"
  | .listServerSubs => "list-server-subs"
  | .listUserSubs => "list-user-subs"
  | .listServerUserPermissions => "list-server-user-permissions"
  | .listRoleAssignments => "list-role-assignments"
  | .listChannels => "list-channels"
  | .list => "list"
  | .getById => "get-by-id"
  | .create => "create"
  | .delete => "delete"

/-- The list of grants is also known by an older name. -/
def ofWord? (word : String) : Option SubAction :=
  match Text.trim word with
  | "list-server-roles" => some .listServerRoles
  | "list-server-subs" => some .listServerSubs
  | "list-user-subs" => some .listUserSubs
  | "list-server-user-permissions" | "list-appserver-user-permissions" =>
    some .listServerUserPermissions
  | "list-role-assignments" => some .listRoleAssignments
  | "list-channels" => some .listChannels
  | "list" => some .list
  | "get-by-id" => some .getById
  | "create" => some .create
  | "delete" => some .delete
  | _ => none

end SubAction

def Family.name : Family → String
  | .read => "read"
  | .write => "write"
  | .delete => "delete"

namespace Operation

/-- The operation of an action and a sub-action. -/
def ofActions? : Action → Option SubAction → Option Operation
  | .read, sub => some (.read sub)
  | .write, some .create => some .create
  | .write, sub => some (.write sub)
  | .create, none => some .create
  | .create, some .create => some .create
  | .create, some _ => none
  | .delete, _ => some .delete

/-- The operation of two words. -/
def ofWords? (action : String) (subAction : Option String) : Option Operation := do
  let action ← Action.ofWord? action
  let sub ← match subAction.bind Text.trimmed? with
    | some word => (SubAction.ofWord? word).map some
    | none => some none
  ofActions? action sub

def family : Operation → Family
  | .read _ => .read
  | .create | .write _ => .write
  | .delete => .delete

/-- The operation as two words with a slash. -/
def text : Operation → String
  | .read none => "read"
  | .read (some sub) => "read/" ++ sub.name
  | .create => "write/create"
  | .write none => "write"
  | .write (some sub) => "write/" ++ sub.name
  | .delete => "delete"

end Operation

end Gatehouse
