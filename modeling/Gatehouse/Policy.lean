import Gatehouse.ObjectClass
import Gatehouse.Operation
import Gatehouse.Permission

/-! # Policy tables

For each class of objects a table says which operations there are, whether an operation addresses an
object, whether it needs a scope, and by which rule it is allowed. A rule is an optional guard,
which denies, and an ordered list of predicates, any one of which allows.
-/

namespace Gatehouse

inductive Predicate where
  /-- Any caller. -/
  | always
  | serverOwner
  /-- The caller is subscribed to the server. -/
  | member
  /-- The caller owns the server or has a grant for the family of the operation. -/
  | baseCheck
  | serverFlag (asked : ServerFlags)
  | subFlag (asked : SubFlags)
  /-- The target belongs to the caller. -/
  | targetIsCaller
  /-- The target belongs to the server's owner. -/
  | targetIsOwner
deriving DecidableEq, Repr

/-- What an operation does with the id of an object. -/
inductive TargetUse where
  | ignored
  | optional
  | required
deriving DecidableEq, Repr

/-- What an operation does with the scope of the request. -/
inductive ScopeUse where
  | ignored
  | ifPresent
  | required
deriving DecidableEq, Repr

structure Rule where
  denyIf : Option Predicate
  allowIf : List Predicate
deriving DecidableEq, Repr

def Rule.anyOf (allowIf : List Predicate) : Rule := ⟨none, allowIf⟩

/-- A rule that denies what the guard describes, whatever else holds. -/
def Rule.except (guard : Predicate) (allowIf : List Predicate) : Rule := ⟨some guard, allowIf⟩

structure PolicyEntry where
  target : TargetUse
  scope : ScopeUse
  rule : Rule
deriving DecidableEq, Repr

namespace Policy

def ownerOnly : Rule := .anyOf [.serverOwner]

def anyone : Rule := .anyOf [.always]

def members : Rule := .anyOf [.member]

def roleManagers : Rule := .anyOf [.baseCheck, .serverFlag .manageRoles]

def channelManagers : Rule := .anyOf [.serverOwner, .serverFlag .manageChannels]

def overrideManagers : Rule := .anyOf [.baseCheck, .serverFlag .manageChannels]

/-- Members leave, owners and moderators remove; the owner's own membership stays. -/
def subscriptionRemovers : Rule :=
  .except .targetIsOwner [.targetIsCaller, .serverOwner, .subFlag .manageSubs]

def server : Operation → Option PolicyEntry
  | .read none | .read (some .list) | .read (some .getById) => some ⟨.optional, .ignored, anyone⟩
  | .create => some ⟨.ignored, .ignored, anyone⟩
  | .delete => some ⟨.required, .ignored, ownerOnly⟩
  | .read _ | .write _ => none

def subscription : Operation → Option PolicyEntry
  | .create => some ⟨.ignored, .ifPresent, anyone⟩
  | .read (some .listServerSubs) => some ⟨.ignored, .required, .anyOf [.baseCheck]⟩
  | .read (some .listUserSubs) => some ⟨.ignored, .ifPresent, anyone⟩
  | .delete => some ⟨.required, .ignored, subscriptionRemovers⟩
  | .read _ | .write _ => none

def role : Operation → Option PolicyEntry
  | .read (some .listServerRoles) =>
    some ⟨.ignored, .required, .anyOf [.member, .serverFlag .manageRoles]⟩
  | .create => some ⟨.ignored, .required, roleManagers⟩
  | .delete => some ⟨.required, .ifPresent, roleManagers⟩
  | .read _ | .write _ => none

def assignment : Operation → Option PolicyEntry
  | .read (some .listRoleAssignments) | .read (some .list) | .create =>
    some ⟨.ignored, .required, roleManagers⟩
  | .delete => some ⟨.required, .ifPresent, roleManagers⟩
  | .read _ | .write _ => none

def channel : Operation → Option PolicyEntry
  | .read (some .listChannels) => some ⟨.ignored, .required, members⟩
  | .read (some .getById) => some ⟨.required, .required, members⟩
  | .create => some ⟨.ignored, .required, channelManagers⟩
  | .delete => some ⟨.required, .ifPresent, channelManagers⟩
  | .read _ | .write _ => none

def override : Operation → Option PolicyEntry
  | .read none | .read (some .list) | .read (some .getById) => some ⟨.optional, .required, members⟩
  | .create => some ⟨.ignored, .required, overrideManagers⟩
  | .delete => some ⟨.required, .ifPresent, overrideManagers⟩
  | .read _ | .write _ => none

def grant : Operation → Option PolicyEntry
  | .read (some .listServerUserPermissions) | .create => some ⟨.ignored, .required, ownerOnly⟩
  | .delete => some ⟨.required, .ignored, ownerOnly⟩
  | .read _ | .write _ => none

/-- The table entry of an operation on a class, if there is one. -/
def entry? : ObjectClass → Operation → Option PolicyEntry
  | .server => server
  | .subscription => subscription
  | .role => role
  | .assignment => assignment
  | .channel => channel
  | .override => override
  | .grant => grant

end Policy

end Gatehouse
