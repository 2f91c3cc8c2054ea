import Gatehouse.Uuid
import Gatehouse.Time.Basic
import Gatehouse.Word
import Gatehouse.Refusal

/-! # What is known about a request

The claims of a verified token, the scope that the decision is asked for, the request id, and the
limits of the request in time. Ids are texts when they arrive: blanks around them are cut, a blank
text is an absent one, and what is left must be a UUID.
-/

namespace Gatehouse

/-- The claims of a verified token. The user id is still unread text. -/
structure Claims where
  userId : String
  issuer : String
  audience : String
  /-- The end of validity, in seconds since the start of 1970. -/
  expiry : Int64
deriving DecidableEq, Repr

/-- The part of the world that a decision is asked for. -/
inductive Scope where
  | unscoped
  | server (id : Uuid)
  | channel (id : Uuid)
deriving DecidableEq, Repr

/-- Read an id, reporting failure at `origin`. -/
def readId (origin raw : String) : Except Refusal Uuid :=
  match Uuid.ofPadded? raw with
  | some id => .ok id
  | none => .error (.invalidUuid origin)

/-- Read the id of the addressed object. Blank text and the nil id address none. -/
def readObjectId (raw : Option String) : Except Refusal (Option Uuid) :=
  match raw.bind Text.trimmed? with
  | none => .ok none
  | some word => do
    let id ← readId "resolve.object_id" word
    return if id = .nil then none else some id

/-- The scope of two texts, of which at most one may say something. -/
def Scope.ofParts (serverId channelId : Option String) : Except Refusal Scope :=
  match serverId.bind Text.trimmed?, channelId.bind Text.trimmed? with
  | none, none => .ok .unscoped
  | some word, none => (readId "scope.server_id" word).map .server
  | none, some word => (readId "scope.channel_id" word).map .channel
  | some _, some _ => .error (.invalidArgument "scope.conflict" "conflicting scope")

/-- A request id is the caller's, or a fresh one. -/
inductive RequestId where
  | supplied (text : String)
  | generated (id : Uuid)
deriving DecidableEq, Repr

/-- The caller's id without blanks around it, or else the fresh one. -/
def RequestId.choose (offered : Option String) (fresh : Uuid) : RequestId :=
  match offered.bind Text.trimmed? with
  | some text => .supplied text
  | none => .generated fresh

def RequestId.text : RequestId → String
  | .supplied text => text
  | .generated id => id.text

structure Context where
  requestId : RequestId
  claims : Option Claims
  scope : Scope
  deadline : Option Time
  cancelled : Bool
deriving DecidableEq, Repr

/-- The context of a request of which nothing is known yet. -/
def Context.ofRequestId (id : RequestId) : Context := ⟨id, none, .unscoped, none, false⟩

end Gatehouse
