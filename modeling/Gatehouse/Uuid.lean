import Gatehouse.Text.Numeral

/-! # Identifiers

An id is a 128-bit UUID. It is written in one way, as lower-case hexadecimal digits in groups of
8, 4, 4, 4 and 12, and read in four: bare digits, grouped digits, grouped digits in braces, and
grouped digits after `urn:uuid:`. Letters are read in either case. No blanks are skipped here.
-/

namespace Gatehouse

structure Uuid where
  bits : BitVec 128
deriving DecidableEq, Repr

namespace Uuid

/-- The id of all zero bits. Where an object is named, it stands for no object. -/
def nil : Uuid := ⟨0⟩

instance : Inhabited Uuid := ⟨nil⟩

/-- The 32 hexadecimal digits. -/
def digits (u : Uuid) : List Char := Text.fixed 16 32 u.bits.toNat

/-- Put hyphens between the groups of 32 digits. -/
def grouped (ds : List Char) : List Char :=
  ds.take 8 ++ '-' :: ((ds.drop 8).take 4 ++ '-' :: ((ds.drop 12).take 4 ++
    '-' :: ((ds.drop 16).take 4 ++ '-' :: ds.drop 20)))

/-- The digits of a text whose characters at the four group borders are hyphens. -/
def ungrouped? (cs : List Char) : Option (List Char) :=
  if cs.length = 36 ∧ [8, 13, 18, 23].all (fun i => cs[i]? == some '-') then
    some (cs.take 8 ++ (cs.drop 9).take 4 ++ (cs.drop 14).take 4 ++ (cs.drop 19).take 4 ++
      cs.drop 24)
  else none

def text (u : Uuid) : String := String.ofList (grouped u.digits)

/-- The id of exactly 32 hexadecimal digits. -/
def ofDigits? (cs : List Char) : Option Uuid :=
  if cs.length = 32 then (Text.value? 16 cs).map fun n => ⟨BitVec.ofNat 128 n⟩ else none

def ofGrouped? (cs : List Char) : Option Uuid := (ungrouped? cs).bind ofDigits?

/-- What stands between braces. -/
def unbraced? : List Char → Option (List Char)
  | '{' :: rest => if rest.getLast? = some '}' then some rest.dropLast else none
  | _ => none

/-- What follows `urn:uuid:`, whose letters may be in either case. -/
def afterUrn? (cs : List Char) : Option (List Char) :=
  if (cs.take 9).map Char.toLower = "urn:uuid:".toList then some (cs.drop 9) else none

/-- Read any of the four layouts. -/
def ofText? (s : String) : Option Uuid :=
  let cs := s.toList
  (ofDigits? cs).or <| (ofGrouped? cs).or <|
    ((unbraced? cs).bind ofGrouped?).or <| (afterUrn? cs).bind ofGrouped?

/-- Read an id that may stand between blanks. -/
def ofPadded? (s : String) : Option Uuid := ofText? (Text.trim s)

end Uuid

end Gatehouse
