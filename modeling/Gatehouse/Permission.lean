import Gatehouse.Text.Numeral
import Gatehouse.Word

/-! # Permission masks

A role carries three masks: for the server, for its channels and for its subscriptions. Flags of the
server mask and of the subscription mask have names; the bits of named flags are part of the
contract and never change. Bits without a name are stored but grant nothing: they are dropped when a
stored mask is read as permissions. The channel mask has no named flags and is kept whole.

Flags are written by name, joined by ` | `, and what is left over in hexadecimal.
-/

namespace Gatehouse

namespace Flags

/-- Whether every asked bit is set. -/
def contains (word asked : Int64) : Bool := word &&& asked == asked

/-- The bits of all named flags. -/
def named (names : List (String × Int64)) : Int64 :=
  names.foldl (fun word flag => word ||| flag.2) 0

/-- Two's complement in lower-case hexadecimal. -/
def hexText (word : Int64) : List Char := Text.numeral 16 word.toBitVec.toNat

/-- Names of the set flags in table order, then the remaining bits, if there are any. -/
def text (names : List (String × Int64)) (word : Int64) : String :=
  let held := (names.filter fun flag => contains word flag.2).map Prod.fst
  let rest := word &&& ~~~(named names)
  " | ".intercalate (held ++ if rest = 0 then [] else [String.ofList ('0' :: 'x' :: hexText rest)])

/-- A word in hexadecimal with an optional sign. -/
def ofHex? (cs : List Char) : Option Int64 :=
  match cs with
  | '-' :: ds => (Text.value? 16 ds).bind fun n => Int64.ofInt? (-n)
  | '+' :: ds => (Text.value? 16 ds).bind fun n => Int64.ofInt? n
  | ds => (Text.value? 16 ds).bind fun n => Int64.ofInt? n

/-- One flag: a name, or `0x` and a word. -/
def ofToken? (names : List (String × Int64)) (token : List Char) : Option Int64 :=
  match token with
  | '0' :: 'x' :: digits => ofHex? digits
  | _ => names.lookup (String.ofList token)

/-- The pieces of a text between bars. -/
def pieces : List Char → List (List Char)
  | [] => [[]]
  | c :: rest =>
    match pieces rest with
    | [] => [[c]]
    | piece :: more => if c = '|' then [] :: piece :: more else (c :: piece) :: more

/-- Read flags joined by bars, with blanks around each. A blank text has no flags. -/
def ofText? (names : List (String × Int64)) (s : String) : Option Int64 :=
  if Text.trimChars s.toList = [] then some 0
  else
    ((pieces s.toList).mapM fun piece => ofToken? names (Text.trimChars piece)).map
      fun words => words.foldl (· ||| ·) 0

end Flags

/-- Flags of a server mask. -/
structure ServerFlags where
  bits : Int64
deriving DecidableEq, Repr

namespace ServerFlags

def manageChannels : ServerFlags := ⟨1⟩
def manageRoles : ServerFlags := ⟨2⟩
def manageServer : ServerFlags := ⟨4⟩

def names : List (String × Int64) :=
  [("MANAGE_CHANNELS", 1), ("MANAGE_ROLES", 2), ("MANAGE_APPSERVER", 4)]

/-- Keep the named flags of a stored mask. -/
def ofStored (word : Int64) : ServerFlags := ⟨word &&& 7⟩

def contains (held asked : ServerFlags) : Bool := Flags.contains held.bits asked.bits

end ServerFlags

/-- Flags of a subscription mask. -/
structure SubFlags where
  bits : Int64
deriving DecidableEq, Repr

namespace SubFlags

def manageSubs : SubFlags := ⟨1⟩

def names : List (String × Int64) := [("MANAGE_SUBS", 1)]

/-- Keep the named flags of a stored mask. -/
def ofStored (word : Int64) : SubFlags := ⟨word &&& 1⟩

def contains (held asked : SubFlags) : Bool := Flags.contains held.bits asked.bits

end SubFlags

/-- What the roles of one user on one server permit. -/
structure PermissionMask where
  server : ServerFlags
  channel : Int64
  sub : SubFlags
deriving DecidableEq, Repr

namespace PermissionMask

def empty : PermissionMask := ⟨⟨0⟩, 0, ⟨0⟩⟩

/-- Read three stored masks as permissions. -/
def ofStored (server channel sub : Int64) : PermissionMask :=
  ⟨ServerFlags.ofStored server, channel, SubFlags.ofStored sub⟩

/-- All that either mask permits. -/
def union (a b : PermissionMask) : PermissionMask :=
  ⟨⟨a.server.bits ||| b.server.bits⟩, a.channel ||| b.channel, ⟨a.sub.bits ||| b.sub.bits⟩⟩

/-- All that any of the masks permits. -/
def collect (masks : List PermissionMask) : PermissionMask := masks.foldl union empty

def hasServer (mask : PermissionMask) (asked : ServerFlags) : Bool := mask.server.contains asked

def hasSub (mask : PermissionMask) (asked : SubFlags) : Bool := mask.sub.contains asked

end PermissionMask

end Gatehouse
