import Gatehouse.Context
import Gatehouse.Json.Shape
import Gatehouse.Json.Value

/-! # Claims and scopes on the wire

A scope is written as an object whose member `kind` tells which of the others there is. It is read
from such an object, whose other members only have to be readable, or from an array that starts with
the kind and has nothing but the id after it.
-/

namespace Gatehouse

open Json (Decoder Fragment)
open Json.Shape (required)

def Claims.toJson (claims : Claims) : Json :=
  .obj [("user_id", .str claims.userId), ("iss", .str claims.issuer),
    ("aud", .str claims.audience), ("exp", .int claims.expiry.toInt)]

def Claims.shape : Json.Shape Claims :=
  Claims.mk <$> required "user_id" Decoder.string <*> required "iss" Decoder.string <*>
    required "aud" Decoder.string <*> required "exp" Decoder.int64

namespace Scope

def toJson : Scope → Json
  | .unscoped => .obj [("kind", .str "unscoped")]
  | .server id => .obj [("kind", .str "server"), ("server_id", .str id.text)]
  | .channel id => .obj [("kind", .str "channel"), ("channel_id", .str id.text)]

/-- The kinds of scopes, without their ids. -/
inductive Kind where
  | unscoped
  | server
  | channel
deriving DecidableEq, Repr

def Kind.ofName? : String → Option Kind
  | "unscoped" => some .unscoped
  | "server" => some .server
  | "channel" => some .channel
  | _ => none

/-- The only value under a name. -/
def only (name : String) (members : List (Option String × Fragment)) :
    Except Json.Fault Fragment :=
  match members.filter fun member => member.1 = some name with
  | [(_, f)] => .ok f
  | _ => .error .mismatched

/-- How deep the members of a scope may be nested. -/
def depth : Nat := 126

/-- Read a scope from an object or an array. -/
def decode : Decoder Scope := fun f => do
  match f with
  | .obj members closed =>
    let kind ← Decoder.parsed Kind.ofName? (← only "kind" members)
    Decoder.keepMembers depth members
    Decoder.ended closed
    match kind with
    | .unscoped => return .unscoped
    | .server => return .server (← Decoder.parsed Uuid.ofText? (← only "server_id" members))
    | .channel => return .channel (← Decoder.parsed Uuid.ofText? (← only "channel_id" members))
  | .arr (first :: rest) closed =>
    let kind ← Decoder.parsed Kind.ofName? first
    Decoder.keepItems depth rest
    Decoder.ended closed
    match kind, rest with
    | .unscoped, [] => return .unscoped
    | .server, [id] => return .server (← Decoder.parsed Uuid.ofText? id)
    | .channel, [id] => return .channel (← Decoder.parsed Uuid.ofText? id)
    | _, _ => throw .mismatched
  | f => throw (Decoder.unfit f)

end Scope

end Gatehouse
