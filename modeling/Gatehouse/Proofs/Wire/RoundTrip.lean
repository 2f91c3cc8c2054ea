import Gatehouse.Wire.Claims
import Gatehouse.Wire.Mask
import Gatehouse.Wire.Record
import Gatehouse.Proofs.Json.Fields
import Gatehouse.Proofs.Wire.Flags
import Gatehouse.Proofs.Wire.Times

/-! # Records read back from the wire

The members that are written of a record are the fields of its shape in the same order, and each of
them is read as the value that it was written of: ids, times, texts, words and truth values. So records,
claims and scopes are read back. Masks are too, unless a word that is written by names is negative. Such
words come from no stored mask, only from texts with a sign in a hexadecimal word.
-/

namespace Gatehouse

open Json (Decoder)
open Json.Shape (reads_required)

/-- How values are written on the wire and how they are read from it. -/
structure Codec (α : Type) where
  toJson : α → Json
  read : Decoder α

namespace Codec

variable {α : Type} (codec : Codec α)

def encode (a : α) : String := (codec.toJson a).text

def decode (s : String) : Option α := Json.decodeText? codec.read s

/-- Nothing is lost on the wire: a value is read back from what is written of it, and so what a text
was read as is read back, however it was spelled in that text. -/
structure Faithful : Prop where
  value : ∀ a, codec.decode (codec.encode a) = some a
  text : ∀ s a, codec.decode s = some a → codec.decode (codec.encode a) = some a

variable {codec}

private theorem faithful (reads : ∀ a, codec.read.Reads (codec.toJson a) a) : codec.Faithful :=
  ⟨fun a => (reads a).decodeText?, fun _ a _ => (reads a).decodeText?⟩

end Codec

namespace Json.Decoder

theorem reads_string (s : String) : string.Reads (.str s) s := ⟨trivial, rfl⟩

private theorem reads_bool (b : Bool) : bool.Reads (.bool b) b := ⟨trivial, rfl⟩

private theorem reads_parsed {α : Type} {read : String → Option α} {s : String} {a : α}
    (known : read s = some a) : (parsed read).Reads (.str s) a where
  exact := trivial
  read := parsed_eq_ok_iff.mpr ⟨s, rfl, known⟩

private theorem reads_int64 (w : Int64) : int64.Reads (.int w.toInt) w where
  exact := by
    have low : Int64.minValue.toInt ≤ w.toInt := w.minValue_le_toInt
    have high : w.toInt ≤ Int64.maxValue.toInt := w.toInt_le
    have least : Int64.minValue.toInt = -2 ^ 63 := rfl
    have most : Int64.maxValue.toInt = 2 ^ 63 - 1 := rfl
    have size : UInt64.size = 2 ^ 64 := rfl
    rw [Exact, Fragment.Kept]
    omega
  read := by simp only [fragment, int64, Int64.ofInt?_toInt, Option.elim_some]

end Json.Decoder

open Json.Decoder (reads_string reads_bool reads_int64 reads_parsed)

private theorem Uuid.reads_toJson (u : Uuid) :
    Uuid.decode.Reads u.toJson u := reads_parsed u.ofText?_text

private theorem Time.reads_toJson (t : Time) : Time.decode.Reads t.toJson t :=
  reads_parsed t.ofFree?_wireText

private theorem Scope.reads_toJson (c : Scope) : Scope.decode.Reads c.toJson c where
  exact := by cases c <;> simp [toJson, Json.Exact, Json.ExactMembers]
  read := by
    cases c <;>
      simp [toJson, Json.fragment, Json.memberFragments, decode, only, Decoder.parsed,
        Decoder.string, Kind.ofName?, Decoder.keepMembers, Decoder.keep, Decoder.ended,
        Uuid.ofText?_text, bind, Except.bind, pure, Except.pure]

namespace Wire

def user : Codec User := ⟨UserRow.toJson, UserRow.shape.decode⟩

def server : Codec Server := ⟨ServerRow.toJson, ServerRow.shape.decode⟩

def subscription : Codec Subscription := ⟨SubscriptionRow.toJson, SubscriptionRow.shape.decode⟩

def role : Codec Role := ⟨RoleRow.toJson, RoleRow.shape.decode⟩

def assignment : Codec Assignment := ⟨AssignmentRow.toJson, AssignmentRow.shape.decode⟩

def grant : Codec Grant := ⟨GrantRow.toJson, GrantRow.shape.decode⟩

def channel : Codec Channel := ⟨ChannelRow.toJson, ChannelRow.shape.decode⟩

def override : Codec Override := ⟨OverrideRow.toJson, OverrideRow.shape.decode⟩

def claims : Codec Claims := ⟨Claims.toJson, Claims.shape.decode⟩

def scope : Codec Scope := ⟨Scope.toJson, Scope.decode⟩

def mask : Codec PermissionMask := ⟨PermissionMask.toJson, PermissionMask.shape.decode⟩

private theorem faithful_user : user.Faithful :=
  Codec.faithful fun r =>
    ((((reads_required "id" r.id.reads_toJson).map UserRow.mk).seq
      (reads_required "username" (reads_string r.username))).seq
      (reads_required "created_at" r.createdAt.reads_toJson)).decode (by decide)

private theorem faithful_server : server.Faithful :=
  Codec.faithful fun r =>
    (((((reads_required "id" r.id.reads_toJson).map ServerRow.mk).seq
      (reads_required "name" (reads_string r.name))).seq
      (reads_required "owner_id" r.ownerId.reads_toJson)).seq
      (reads_required "created_at" r.createdAt.reads_toJson)).decode (by decide)

private theorem faithful_subscription : subscription.Faithful :=
  Codec.faithful fun r =>
    (((((reads_required "id" r.id.reads_toJson).map SubscriptionRow.mk).seq
      (reads_required "server_id" r.serverId.reads_toJson)).seq
      (reads_required "user_id" r.userId.reads_toJson)).seq
      (reads_required "created_at" r.createdAt.reads_toJson)).decode (by decide)

private theorem faithful_role : role.Faithful :=
  Codec.faithful fun r =>
    (((((((reads_required "id" r.id.reads_toJson).map RoleRow.mk).seq
      (reads_required "server_id" r.serverId.reads_toJson)).seq
      (reads_required "name" (reads_string r.name))).seq
      (reads_required "server_mask" (reads_int64 r.serverMask))).seq
      (reads_required "channel_mask" (reads_int64 r.channelMask))).seq
      (reads_required "sub_mask" (reads_int64 r.subMask))).decode (by decide)

private theorem faithful_assignment : assignment.Faithful :=
  Codec.faithful fun r =>
    ((((((reads_required "id" r.id.reads_toJson).map AssignmentRow.mk).seq
      (reads_required "server_id" r.serverId.reads_toJson)).seq
      (reads_required "user_id" r.userId.reads_toJson)).seq
      (reads_required "subscription_id" r.subscriptionId.reads_toJson)).seq
      (reads_required "role_id" r.roleId.reads_toJson)).decode (by decide)

private theorem faithful_grant : grant.Faithful :=
  Codec.faithful fun r =>
    (((((((reads_required "id" r.id.reads_toJson).map GrantRow.mk).seq
      (reads_required "server_id" r.serverId.reads_toJson)).seq
      (reads_required "user_id" r.userId.reads_toJson)).seq
      (reads_required "read_all" (reads_bool r.readAll))).seq
      (reads_required "write_all" (reads_bool r.writeAll))).seq
      (reads_required "delete_all" (reads_bool r.deleteAll))).decode (by decide)

private theorem faithful_channel : channel.Faithful :=
  Codec.faithful fun r =>
    ((((((reads_required "id" r.id.reads_toJson).map ChannelRow.mk).seq
      (reads_required "server_id" r.serverId.reads_toJson)).seq
      (reads_required "name" (reads_string r.name))).seq
      (reads_required "is_private" (reads_bool r.isPrivate))).seq
      (reads_required "created_at" r.createdAt.reads_toJson)).decode (by decide)

private theorem faithful_override : override.Faithful :=
  Codec.faithful fun r =>
    (((((reads_required "id" r.id.reads_toJson).map OverrideRow.mk).seq
      (reads_required "server_id" r.serverId.reads_toJson)).seq
      (reads_required "channel_id" r.channelId.reads_toJson)).seq
      (reads_required "role_id" r.roleId.reads_toJson)).decode (by decide)

private theorem faithful_claims : claims.Faithful :=
  Codec.faithful fun c =>
    (((((reads_required "user_id" (reads_string c.userId)).map Claims.mk).seq
      (reads_required "iss" (reads_string c.issuer))).seq
      (reads_required "aud" (reads_string c.audience))).seq
      (reads_required "exp" (reads_int64 c.expiry))).decode (by decide)

private theorem faithful_scope : scope.Faithful := Codec.faithful Scope.reads_toJson

end Wire

namespace PermissionMask

/-- The highest bit is in neither of the masks that are written by name. -/
structure Unsigned (mask : PermissionMask) : Prop where
  server : 0 ≤ mask.server.bits
  sub : 0 ≤ mask.sub.bits

instance (mask : PermissionMask) : Decidable mask.Unsigned :=
  decidable_of_iff (0 ≤ mask.server.bits ∧ 0 ≤ mask.sub.bits)
    ⟨fun both => ⟨both.1, both.2⟩, fun unsigned => ⟨unsigned.server, unsigned.sub⟩⟩

private theorem unsigned_iff {mask : PermissionMask} :
    mask.Unsigned ↔ Flags.bit mask.server.bits 63 = false ∧ Flags.bit mask.sub.bits 63 = false := by
  rw [← Flags.nonneg_iff, ← Flags.nonneg_iff]
  exact ⟨fun unsigned => ⟨unsigned.server, unsigned.sub⟩, fun both => ⟨both.1, both.2⟩⟩

/-- Stored masks are cut to the named bits, which the highest one is not among. -/
theorem unsigned_ofStored (server channel sub : Int64) : (ofStored server channel sub).Unsigned := by
  rw [unsigned_iff]
  simp [ofStored, ServerFlags.ofStored, SubFlags.ofStored, Flags.bit_seven, Flags.bit_one]

private theorem unsigned_union {a b : PermissionMask} :
    (a.union b).Unsigned ↔ a.Unsigned ∧ b.Unsigned := by
  simp only [unsigned_iff, union, Flags.bit_or, Bool.or_eq_false_iff]
  tauto

private theorem unsigned_collect {masks : List PermissionMask} :
    (collect masks).Unsigned ↔ ∀ mask ∈ masks, mask.Unsigned := by
  have from_start (start : PermissionMask) :
      (masks.foldl union start).Unsigned ↔ start.Unsigned ∧ ∀ mask ∈ masks, mask.Unsigned := by
    induction masks generalizing start with
    | nil => simp
    | cons mask rest ih =>
      rw [List.foldl_cons, ih, unsigned_union, List.forall_mem_cons, and_assoc]
  have empty : PermissionMask.empty.Unsigned := ⟨by decide, by decide⟩
  rw [collect, from_start]
  exact and_iff_right empty

private theorem reads_toJson {mask : PermissionMask} (unsigned : mask.Unsigned) :
    shape.decode.Reads mask.toJson mask := by
  have server := ServerFlags.table.ofText?_text mask.server.bits
  have sub := SubFlags.table.ofText?_text mask.sub.bits
  rw [if_pos unsigned.server] at server
  rw [if_pos unsigned.sub] at sub
  exact ((((reads_required "server" (reads_parsed server)).map _).seq
    (reads_required "channel" (reads_int64 mask.channel))).seq
    (reads_required "sub" (reads_parsed sub))).decode (by decide)

/-- The text of a negative word is not read. -/
theorem nonneg_of_read {names : List (String × Int64)} (table : Flags.Table names)
    {word word' : Int64}
    (read : Wire.readFlags names (Json.str (Flags.text names word)).fragment = .ok word') :
    0 ≤ word := by
  obtain ⟨text, same, known⟩ := Decoder.parsed_eq_ok_iff.mp read
  obtain rfl := Option.some.inj (Json.Fragment.str.inj same)
  rw [table.ofText?_text] at known
  by_contra negative
  rw [if_neg negative] at known
  cases known

/-- What is written of a mask is read only if the highest bit is in neither word. -/
theorem unsigned_of_decode {mask read : PermissionMask}
    (known : shape.decode mask.toJson.fragment = .ok read) : mask.Unsigned where
  server := by
    obtain ⟨word, read⟩ := Json.Shape.read_of_decode known List.mem_cons_self rfl
    exact nonneg_of_read ServerFlags.table read
  sub := by
    obtain ⟨word, read⟩ := Json.Shape.read_of_decode known
      (List.mem_cons_of_mem _ (List.mem_cons_of_mem _ List.mem_cons_self)) rfl
    exact nonneg_of_read SubFlags.table read

private theorem exact_toJson (mask : PermissionMask) : mask.toJson.Exact :=
  ⟨trivial, (reads_int64 mask.channel).exact, trivial, trivial⟩

end PermissionMask

namespace Wire

/-- A mask is read back from the wire exactly if it is unsigned. -/
theorem decode_mask (m : PermissionMask) :
    mask.decode (mask.encode m) = if m.Unsigned then some m else none := by
  split
  · next unsigned => exact (PermissionMask.reads_toJson unsigned).decodeText?
  · next signed =>
    have whole : mask.decode (mask.encode m) =
        (PermissionMask.shape.decode m.toJson.fragment).toOption :=
      Json.decodeText?_text _ m.exact_toJson
    rw [whole]
    cases known : PermissionMask.shape.decode m.toJson.fragment with
    | error fault => rfl
    | ok read => exact absurd (PermissionMask.unsigned_of_decode known) signed

/-- Records, claims and scopes cross the wire unchanged, whatever their ids, names, words and times
are. A mask does exactly if the words that are written by names are not negative, and otherwise it is
refused. Those of a mask that stored words are read as are not negative, and unions and collections have
such words if all their parts do. A text by names is read as a negative word only if there is a minus
sign in it. -/
theorem records_cross_unchanged (m : PermissionMask) :
    user.Faithful ∧ server.Faithful ∧ subscription.Faithful ∧ role.Faithful ∧ assignment.Faithful ∧
    grant.Faithful ∧ channel.Faithful ∧ override.Faithful ∧ claims.Faithful ∧ scope.Faithful ∧
    mask.decode (mask.encode m) = (if m.Unsigned then some m else none) ∧
    (∀ forServer forChannels forSubs,
      (PermissionMask.ofStored forServer forChannels forSubs).Unsigned) ∧
    (∀ m', (m.union m').Unsigned ↔ m.Unsigned ∧ m'.Unsigned) ∧
    (∀ masks, (PermissionMask.collect masks).Unsigned ↔ ∀ part ∈ masks, part.Unsigned) ∧
    ∀ names ∈ [ServerFlags.names, SubFlags.names], ∀ text word,
      Flags.ofText? names text = some word → '-' ∉ text.toList → 0 ≤ word := by
  refine ⟨faithful_user, faithful_server, faithful_subscription, faithful_role, faithful_assignment,
    faithful_grant, faithful_channel, faithful_override, faithful_claims, faithful_scope,
    decode_mask m, PermissionMask.unsigned_ofStored, fun _ => PermissionMask.unsigned_union,
    fun _ => PermissionMask.unsigned_collect, fun names listed text word read unsigned => ?_⟩
  have table : Flags.Table names := by
    rcases List.mem_pair.mp listed with rfl | rfl
    · exact ServerFlags.table
    · exact SubFlags.table
  exact table.nonneg_of_ofText? read unsigned

/-- A mask that was read from a text with a sign is written without one, and that text is refused. -/
theorem signed_mask_refused :
    let m : PermissionMask := ⟨⟨-8⟩, 0, ⟨1⟩⟩
    mask.decode "\x7b\"server\":\"0x-8\",\"channel\":0,\"sub\":\"0x+1\"\x7d" = some m ∧
    mask.encode m =
      "\x7b\"server\":\"0xfffffffffffffff8\",\"channel\":0,\"sub\":\"MANAGE_SUBS\"\x7d" ∧
    mask.decode (mask.encode m) = none :=
  ⟨by decide +kernel, by decide +kernel, decode_mask _⟩

end Wire

end Gatehouse
