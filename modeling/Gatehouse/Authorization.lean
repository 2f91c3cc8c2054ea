import Gatehouse.Context
import Gatehouse.Evaluation

/-! # Authorization

A decision goes through fixed stages: the claims and their expiry, the ids of caller and object, the
words of the operation, the policy entry, the target id that the entry requires, the scope, the
target itself, and last the rule. The first stage that fails refuses. Up to the scope nothing is
looked up.
-/

namespace Gatehouse

open Inquiry (find?)

/-- What a caller asks for. -/
structure Request where
  objectClass : ObjectClass
  objectId : Option String
  action : String
  subAction : Option String
deriving DecidableEq, Repr

/-- A loaded object of a guarded class. -/
inductive Target where
  | server (row : Server)
  | subscription (row : Subscription)
  | role (row : Role)
  | assignment (row : Assignment)
  | channel (row : Channel)
  | override (row : Override)
  | grant (row : Grant)
deriving DecidableEq, Repr

namespace Target

/-- The server that the object lives in; a server lives in itself. -/
def serverId : Target → Uuid
  | .server row => row.id
  | .subscription row => row.serverId
  | .role row => row.serverId
  | .assignment row => row.serverId
  | .channel row => row.serverId
  | .override row => row.serverId
  | .grant row => row.serverId

/-- The user that the object belongs to. -/
def user? : Target → Option Uuid
  | .subscription row => some row.userId
  | .assignment row => some row.userId
  | .grant row => some row.userId
  | .server _ | .role _ | .channel _ | .override _ => none

/-- The channel that the object is or restricts. -/
def channel? : Target → Option Uuid
  | .channel row => some row.id
  | .override row => some row.channelId
  | .server _ | .subscription _ | .role _ | .assignment _ | .grant _ => none

def origin : String := "resolve.load_object"

/-- Look an object up by its id. -/
def fetch? : ObjectClass → Uuid → Inquiry (Option Target)
  | .server, id => do return (← find? origin (.server id)).map .server
  | .subscription, id => do return (← find? origin (.subscription id)).map .subscription
  | .role, id => do return (← find? origin (.role id)).map .role
  | .assignment, id => do return (← find? origin (.assignment id)).map .assignment
  | .channel, id => do return (← find? origin (.channel id)).map .channel
  | .override, id => do return (← find? origin (.override id)).map .override
  | .grant, id => do return (← find? origin (.grant id)).map .grant

/-- Load an object. Where a server is given, an object of another server counts as not found. -/
def load (c : ObjectClass) (id : Uuid) (within : Option Uuid) : Inquiry Target := do
  match ← fetch? c id with
  | none => .refused (.notFound origin)
  | some target =>
    match within with
    | some serverId =>
      if target.serverId = serverId then return target
      else .refused (.notFound "resolve.scope_mismatch")
    | none => return target

/-- Load the object that a text names. -/
def resolve (c : ObjectClass) (raw : String) (within : Option Uuid) : Inquiry Target := do
  let id ← Inquiry.ofExcept (readId "resolve.object_id" raw)
  load c id within

end Target

/-- A scope whose server was found. -/
structure ResolvedScope where
  server : Server
  channelId : Option Uuid
deriving DecidableEq, Repr

/-- Find the server of a scope; a channel is found first, then its server. -/
def Scope.resolve : Scope → Inquiry (Option ResolvedScope)
  | .unscoped => return none
  | .server id => do return some ⟨← loadServer id, none⟩
  | .channel id => do
    let channel ← Target.load .channel id none
    return some ⟨← loadServer channel.serverId, some id⟩

/-- The caller of unexpired claims. -/
def Claims.caller (now : Time) : Option Claims → Except Refusal Uuid
  | none => .error (.unauthenticated "dispatch.claims")
  | some claims =>
    if claims.expiry.toInt ≤ now.seconds then .error (.unauthenticated "dispatch.claims_expired")
    else readId "dispatch.caller_id" claims.userId

/-- The operation of a request with its policy entry. -/
def Request.entry (request : Request) : Except Refusal (Operation × PolicyEntry) :=
  match Operation.ofWords? request.action request.subAction with
  | none => .error (.denied "dispatch.vocabulary")
  | some operation =>
    match Policy.entry? request.objectClass operation with
    | none => .error (.denied "dispatch.policy")
    | some entry => .ok (operation, entry)

/-- The id to load, by what the entry does with ids. -/
def TargetUse.select (use : TargetUse) (objectId : Option Uuid) : Except Refusal (Option Uuid) :=
  match use, objectId with
  | .ignored, _ => .ok none
  | .optional, id => .ok id
  | .required, some id => .ok (some id)
  | .required, none => .error (.denied "dispatch.missing_target")

/-- The scope to judge by, by what the entry does with scopes. -/
def ScopeUse.select (use : ScopeUse) (scope : Scope) : Inquiry (Option ResolvedScope) :=
  match use with
  | .ignored => return none
  | .ifPresent => scope.resolve
  | .required => do
    match ← scope.resolve with
    | some resolved => return some resolved
    | none => .refused (.missingField "dispatch.scope")

/-- The target, in the scope's server if its class is checked for that, and in the scope's channel
if it has to do with channels. -/
def loadTarget (c : ObjectClass) (id : Option Uuid) (scope : Option ResolvedScope) :
    Inquiry (Option Target) := do
  match id with
  | none => return none
  | some id =>
    let within := if c.scopeChecked then scope.map (·.server.id) else none
    let target ← Target.load c id within
    match target.channel?, scope.bind (·.channelId) with
    | some own, some asked =>
      if own = asked then return some target
      else .refused (.notFound "dispatch.channel_mismatch")
    | _, _ => return some target

/-- What the rule is judged on, once scope and target are there. -/
def Facts.ofParts (caller : Uuid) (operation : Operation) (scope : Option ResolvedScope)
    (target : Option Target) : Facts :=
  { caller
    server := (target.map Target.serverId).or (scope.map (·.server.id))
    targetUser := target.bind Target.user?
    family := operation.family }

/-- Decide a request: the inquiry ends with `()` if it is allowed and is refused otherwise. -/
def authorize (now : Time) (claims : Option Claims) (scope : Scope) (request : Request) :
    Inquiry Unit := do
  let caller ← Inquiry.ofExcept (Claims.caller now claims)
  let objectId ← Inquiry.ofExcept (readObjectId request.objectId)
  let (operation, entry) ← Inquiry.ofExcept request.entry
  let targetId ← Inquiry.ofExcept (entry.target.select objectId)
  let scope ← entry.scope.select scope
  let target ← loadTarget request.objectClass targetId scope
  if ← entry.rule.allows (.ofParts caller operation scope target) then return ()
  else .refused (.denied "policy.rule")

end Gatehouse
