import Gatehouse.Authorization
import Gatehouse.Json.Shape
import Gatehouse.Wire.Claims

/-! # Requests on the wire

A request names its class by a token, or by an object whose only member has the token as its name
and nothing as its value. A submission is the body of a call: an object with the members of a
request and besides them the claims of the caller and the two texts of the scope.

The claims and the scope are read where they stand; all other members are kept until the end of the
object and only then searched for the request. So a break of the grammar anywhere is found before a
member of the request that does not fit.
-/

namespace Gatehouse

open Json (Decoder Fragment Shape)
open Json.Shape (required optional)

namespace ObjectClass

/-- Read a class; `isNothing` says which values count as nothing. -/
def decodeWith (isNothing : Fragment → Bool) : Decoder ObjectClass
  | .obj [(some name, value)] true =>
    match ofToken? name, isNothing value with
    | some c, true => .ok c
    | _, _ => .error .mismatched
  | f => Decoder.parsed ofToken? f

/-- Read a class; nothing is null. -/
def decode : Decoder ObjectClass := decodeWith fun
  | .null => true
  | _ => false

/-- Read a class from a kept value; nothing is null or an empty object. -/
def decodeKept : Decoder ObjectClass := decodeWith fun
  | .null | .obj [] true => true
  | _ => false

end ObjectClass

namespace Request

def shapeOf (readClass : Decoder ObjectClass) : Shape Request :=
  Request.mk <$> required "class" readClass <*> optional "object_id" Decoder.string <*>
    required "action" Decoder.string <*> optional "sub_action" Decoder.string

def shape : Shape Request := shapeOf ObjectClass.decode

def toJson (request : Request) : Json :=
  .obj [("class", .str request.objectClass.name), ("object_id", request.objectId.elim .null .str),
    ("action", .str request.action), ("sub_action", request.subAction.elim .null .str)]

end Request

/-- The two texts of a scope, as they come. -/
structure ScopeTexts where
  serverId : Option String
  channelId : Option String
deriving DecidableEq, Repr

def ScopeTexts.shape : Shape ScopeTexts :=
  ScopeTexts.mk <$> optional "server_id" Decoder.string <*> optional "channel_id" Decoder.string

/-- What is submitted for a decision. -/
structure Submission where
  claims : Option Claims
  request : Request
  scope : Option ScopeTexts
deriving DecidableEq, Repr

namespace Submission

/-- The part that is read where it stands. -/
def head : Shape (Option Claims × Option ScopeTexts) :=
  (fun claims scope => (claims, scope)) <$> optional "claims" Claims.shape.decode <*>
    optional "scope" ScopeTexts.shape.decode

/-- How deep the members that are kept may be nested. -/
def depth : Nat := 126

/-- The members that belong to the request. -/
def requestMembers (members : List (Option String × Fragment)) : List (Option String × Fragment) :=
  members.filter fun member => member.1.any fun name => Request.shape.fields.any (·.name == name)

/-- Read a submission. -/
def decode : Decoder Submission := fun f => do
  let (claims, scope) ← head.ofObject (Decoder.keep depth) f
  match f with
  | .obj members _ =>
    let request ← (Request.shapeOf ObjectClass.decodeKept).ofObject Decoder.skim
      (.obj (requestMembers members) true)
    return ⟨claims, request, scope⟩
  | f => throw (Decoder.unfit f)

/-- Read a submission at the start of a text; what follows it is not looked at. -/
def ofText (s : String) : Except Json.Fault Submission := decode (Fragment.ofText s).1

end Submission

end Gatehouse
