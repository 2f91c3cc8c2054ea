import Gatehouse.Json.Shape
import Gatehouse.Json.Value
import Gatehouse.Permission

/-! # Permissions on the wire

The masks with named flags are written by name, the channel mask as a whole number.
-/

namespace Gatehouse

open Json.Shape (required)

/-- Flags by their names. -/
def Wire.readFlags (names : List (String × Int64)) : Json.Decoder Int64 :=
  .parsed (Flags.ofText? names)

def PermissionMask.toJson (mask : PermissionMask) : Json :=
  .obj [("server", .str (Flags.text ServerFlags.names mask.server.bits)),
    ("channel", .int mask.channel.toInt),
    ("sub", .str (Flags.text SubFlags.names mask.sub.bits))]

def PermissionMask.shape : Json.Shape PermissionMask :=
  (fun server channel sub => ⟨⟨server⟩, channel, ⟨sub⟩⟩) <$>
    required "server" (Wire.readFlags ServerFlags.names) <*> required "channel" .int64 <*>
    required "sub" (Wire.readFlags SubFlags.names)

end Gatehouse
