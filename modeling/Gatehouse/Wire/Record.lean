import Gatehouse.Json.Shape
import Gatehouse.Json.Value
import Gatehouse.Record
import Gatehouse.Time.Text

/-! # Records on the wire

Each record is written as an object with its columns in order, ids and times as text and masks as
whole numbers, and read back by the shape of the same fields.
-/

namespace Gatehouse

def Uuid.toJson (u : Uuid) : Json := .str u.text

def Uuid.decode : Json.Decoder Uuid := .parsed Uuid.ofText?

def Time.toJson (t : Time) : Json := .str t.wireText

def Time.decode : Json.Decoder Time := .parsed Time.ofFree?

open Json.Shape (required)
open Json.Decoder (string bool int64)

def UserRow.toJson (r : User) : Json :=
  .obj [("id", r.id.toJson), ("username", .str r.username), ("created_at", r.createdAt.toJson)]

def UserRow.shape : Json.Shape User :=
  UserRow.mk <$> required "id" Uuid.decode <*> required "username" string <*>
    required "created_at" Time.decode

def ServerRow.toJson (r : Server) : Json :=
  .obj [("id", r.id.toJson), ("name", .str r.name), ("owner_id", r.ownerId.toJson),
    ("created_at", r.createdAt.toJson)]

def ServerRow.shape : Json.Shape Server :=
  ServerRow.mk <$> required "id" Uuid.decode <*> required "name" string <*>
    required "owner_id" Uuid.decode <*> required "created_at" Time.decode

def SubscriptionRow.toJson (r : Subscription) : Json :=
  .obj [("id", r.id.toJson), ("server_id", r.serverId.toJson), ("user_id", r.userId.toJson),
    ("created_at", r.createdAt.toJson)]

def SubscriptionRow.shape : Json.Shape Subscription :=
  SubscriptionRow.mk <$> required "id" Uuid.decode <*> required "server_id" Uuid.decode <*>
    required "user_id" Uuid.decode <*> required "created_at" Time.decode

def RoleRow.toJson (r : Role) : Json :=
  .obj [("id", r.id.toJson), ("server_id", r.serverId.toJson), ("name", .str r.name),
    ("server_mask", .int r.serverMask.toInt), ("channel_mask", .int r.channelMask.toInt),
    ("sub_mask", .int r.subMask.toInt)]

def RoleRow.shape : Json.Shape Role :=
  RoleRow.mk <$> required "id" Uuid.decode <*> required "server_id" Uuid.decode <*>
    required "name" string <*> required "server_mask" int64 <*>
    required "channel_mask" int64 <*> required "sub_mask" int64

def AssignmentRow.toJson (r : Assignment) : Json :=
  .obj [("id", r.id.toJson), ("server_id", r.serverId.toJson), ("user_id", r.userId.toJson),
    ("subscription_id", r.subscriptionId.toJson), ("role_id", r.roleId.toJson)]

def AssignmentRow.shape : Json.Shape Assignment :=
  AssignmentRow.mk <$> required "id" Uuid.decode <*> required "server_id" Uuid.decode <*>
    required "user_id" Uuid.decode <*> required "subscription_id" Uuid.decode <*>
    required "role_id" Uuid.decode

def GrantRow.toJson (r : Grant) : Json :=
  .obj [("id", r.id.toJson), ("server_id", r.serverId.toJson), ("user_id", r.userId.toJson),
    ("read_all", .bool r.readAll), ("write_all", .bool r.writeAll),
    ("delete_all", .bool r.deleteAll)]

def GrantRow.shape : Json.Shape Grant :=
  GrantRow.mk <$> required "id" Uuid.decode <*> required "server_id" Uuid.decode <*>
    required "user_id" Uuid.decode <*> required "read_all" bool <*> required "write_all" bool <*>
    required "delete_all" bool

def ChannelRow.toJson (r : Channel) : Json :=
  .obj [("id", r.id.toJson), ("server_id", r.serverId.toJson), ("name", .str r.name),
    ("is_private", .bool r.isPrivate), ("created_at", r.createdAt.toJson)]

def ChannelRow.shape : Json.Shape Channel :=
  ChannelRow.mk <$> required "id" Uuid.decode <*> required "server_id" Uuid.decode <*>
    required "name" string <*> required "is_private" bool <*> required "created_at" Time.decode

def OverrideRow.toJson (r : Override) : Json :=
  .obj [("id", r.id.toJson), ("server_id", r.serverId.toJson),
    ("channel_id", r.channelId.toJson), ("role_id", r.roleId.toJson)]

def OverrideRow.shape : Json.Shape Override :=
  OverrideRow.mk <$> required "id" Uuid.decode <*> required "server_id" Uuid.decode <*>
    required "channel_id" Uuid.decode <*> required "role_id" Uuid.decode

end Gatehouse
