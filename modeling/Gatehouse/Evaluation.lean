import Gatehouse.Inquiry
import Gatehouse.Policy

/-! # Evaluating rules

Each predicate is a short inquiry about a user on a server. A missing supporting row is a negative
answer; a missing server is a refusal, since the decision speaks of something that does not exist. A
rule asks its predicates in order and stops at the first that holds.
-/

namespace Gatehouse

open Inquiry (find?)

/-- The server that a decision depends on. -/
def loadServer (serverId : Uuid) : Inquiry Server := do
  match ← find? "predicates.load_server" (.server serverId) with
  | some server => return server
  | none => .refused (.notFound "predicates.load_server")

def ownsServer (serverId userId : Uuid) : Inquiry Bool := do
  let server ← loadServer serverId
  return server.ownerId = userId

def isMember (serverId userId : Uuid) : Inquiry Bool := do
  return (← find? "predicates.user_has_server_sub" (.membership serverId userId)).isSome

/-- What all roles of the user on the server permit together. -/
def maskOf (serverId userId : Uuid) : Inquiry PermissionMask := do
  let roles ← find? "predicates.user_permission_mask" (.rolesHeld serverId userId)
  return PermissionMask.collect ((roles.getD []).map RoleRow.mask)

/-- Whether a grant covers a family of operations. -/
def GrantRow.covers (grant : Grant) : Family → Bool
  | .read => grant.readAll
  | .write => grant.writeAll
  | .delete => grant.deleteAll

/-- The owner, or a user with a grant that covers the family. -/
def ownsOrGranted (serverId userId : Uuid) (family : Family) : Inquiry Bool := do
  if ← ownsServer serverId userId then return true
  match ← find? "predicates.base_permission_check" (.grantFor serverId userId) with
  | some grant => return grant.covers family
  | none => return false

/-- What a rule is evaluated against. -/
structure Facts where
  caller : Uuid
  /-- The server of the target, or else of the scope. -/
  server : Option Uuid
  /-- The user that the target belongs to, if its class has one. -/
  targetUser : Option Uuid
  family : Family
deriving DecidableEq, Repr

/-- The deciding server, which most predicates need. -/
def Facts.needServer (facts : Facts) : Inquiry Uuid :=
  match facts.server with
  | some id => .decided id
  | none => .refused (.missingField "policy.server")

def Predicate.holds (facts : Facts) : Predicate → Inquiry Bool
  | .always => return true
  | .serverOwner => do ownsServer (← facts.needServer) facts.caller
  | .member => do isMember (← facts.needServer) facts.caller
  | .baseCheck => do ownsOrGranted (← facts.needServer) facts.caller facts.family
  | .serverFlag asked => do return (← maskOf (← facts.needServer) facts.caller).hasServer asked
  | .subFlag asked => do return (← maskOf (← facts.needServer) facts.caller).hasSub asked
  | .targetIsCaller => return facts.targetUser = some facts.caller
  | .targetIsOwner =>
    match facts.targetUser with
    | some user => do ownsServer (← facts.needServer) user
    | none => return false

/-- Whether any predicate of a list holds, asked in order up to the first that does. -/
def anyHolds (facts : Facts) : List Predicate → Inquiry Bool
  | [] => return false
  | p :: rest => do if ← p.holds facts then return true else anyHolds facts rest

/-- Whether the rule allows: its guard does not hold and one of its predicates does. -/
def Rule.allows (rule : Rule) (facts : Facts) : Inquiry Bool := do
  match rule.denyIf with
  | some guard => if ← guard.holds facts then return false else anyHolds facts rule.allowIf
  | none => anyHolds facts rule.allowIf

end Gatehouse
