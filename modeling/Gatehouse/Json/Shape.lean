import Gatehouse.Json.Fragment
import Gatehouse.Word

/-! # Reading records from JSON

A decoder reads a value from a fragment or says which kind of fault came first: the text is
malformed, or it is well-formed so far but does not fit. The shape of a record lists its fields in
order. A record is an object with these members in any order, or an array of the values in order.
Unknown members are skimmed; a member that comes twice, or a required one that does not come, does
not fit.
-/

namespace Gatehouse.Json

inductive Fault where
  /-- The grammar of JSON is broken. -/
  | malformed
  /-- The value is not one that is wanted here. -/
  | mismatched
deriving DecidableEq, Repr

abbrev Decoder (α : Type) : Type := Fragment → Except Fault α

namespace Decoder

/-- The fault of a value where another kind of value is wanted: scalars are read before they are
rejected, arrays and objects are not. -/
def unfit : Fragment → Fault
  | .broken | .real false | .str none => .malformed
  | .null | .bool _ | .int _ | .real true | .str (some _) | .arr _ _ | .obj _ _ => .mismatched

def string : Decoder String
  | .str (some s) => .ok s
  | f => .error (unfit f)

def bool : Decoder Bool
  | .bool b => .ok b
  | f => .error (unfit f)

/-- A whole number of 64 bits with sign. -/
def int64 : Decoder Int64
  | .int n => (Int64.ofInt? n).elim (.error .mismatched) .ok
  | f => .error (unfit f)

/-- A string that a reader of texts accepts. -/
def parsed {α : Type} (read : String → Option α) : Decoder α := fun f => do
  match read (← string f) with
  | some a => return a
  | none => throw .mismatched

/-- A value or null. -/
def nullable {α : Type} (decode : Decoder α) : Decoder (Option α)
  | .null => .ok none
  | f => (decode f).map some

mutual

/-- Read over a value of no interest: only its grammar matters. -/
def skim : Fragment → Except Fault Unit
  | .broken => .error .malformed
  | .arr items closed => do skimItems items; ended closed
  | .obj members closed => do skimMembers members; ended closed
  | .null | .bool _ | .int _ | .real _ | .str _ => .ok ()

def skimItems : List Fragment → Except Fault Unit
  | [] => .ok ()
  | f :: rest => do skim f; skimItems rest

def skimMembers : List (Option String × Fragment) → Except Fault Unit
  | [] => .ok ()
  | (_, f) :: rest => do skim f; skimMembers rest

/-- The bracket or brace is there. -/
def ended (closed : Bool) : Except Fault Unit := if closed then .ok () else .error .malformed

end

mutual

/-- Read over a value that is kept for later: all of it must be readable, with at most `depth`
arrays and objects inside each other. -/
def keep (depth : Nat) : Fragment → Except Fault Unit
  | .broken | .real false | .str none => .error .malformed
  | .arr items closed => do
    if depth = 0 then throw .malformed
    keepItems (depth - 1) items
    ended closed
  | .obj members closed => do
    if depth = 0 then throw .malformed
    keepMembers (depth - 1) members
    ended closed
  | .null | .bool _ | .int _ | .real true | .str (some _) => .ok ()

def keepItems (depth : Nat) : List Fragment → Except Fault Unit
  | [] => .ok ()
  | f :: rest => do keep depth f; keepItems depth rest

def keepMembers (depth : Nat) : List (Option String × Fragment) → Except Fault Unit
  | [] => .ok ()
  | (key, f) :: rest => do
    if key.isNone then throw .malformed
    keep depth f
    keepMembers depth rest

end

end Decoder

/-- A field by its name, with what is asked of its value while the text is read. -/
structure Field where
  name : String
  check : Fragment → Except Fault Unit

/-- The fields of a record, and the record that found values make. -/
structure Shape (α : Type) where
  fields : List Field
  build : (String → Option Fragment) → Except Fault α

namespace Shape

variable {α β : Type}

/-- A field that must be there. -/
def required (name : String) (decode : Decoder α) : Shape α where
  fields := [⟨name, fun f => (decode f).map fun _ => ()⟩]
  build found := match found name with
    | some f => decode f
    | none => .error .mismatched

/-- A field that may be missing or null. -/
def optional (name : String) (decode : Decoder α) : Shape (Option α) where
  fields := [⟨name, fun f => (Decoder.nullable decode f).map fun _ => ()⟩]
  build found := match found name with
    | some f => Decoder.nullable decode f
    | none => .ok none

instance : Functor Shape where
  map g s := ⟨s.fields, fun found => (s.build found).map g⟩

instance : Seq Shape where
  seq s t :=
    ⟨s.fields ++ (t ()).fields, fun found => do return (← s.build found) (← (t ()).build found)⟩

/-- Go through members in order. A known member must be new and pass its check; another must pass
`other`. The known members are returned. -/
def walkMembers (fields : List Field) (other : Fragment → Except Fault Unit) :
    (seen : List (String × Fragment)) → List (Option String × Fragment) →
      Except Fault (List (String × Fragment))
  | seen, [] => .ok seen
  | _, (none, _) :: _ => .error .malformed
  | seen, (some key, f) :: rest =>
    match fields.find? (·.name == key) with
    | some field =>
      if (seen.lookup key).isSome then .error .mismatched
      else do
        field.check f
        walkMembers fields other (seen ++ [(key, f)]) rest
    | none => do
      other f
      walkMembers fields other seen rest

/-- Go through items in the order of the fields. Items may run out, but none may be left over. -/
def walkItems (closed : Bool) : List Field → List Fragment → Except Fault (List (String × Fragment))
  | [], [] => do Decoder.ended closed; return []
  | [], _ :: _ => .error .malformed
  | _ :: _, [] => do Decoder.ended closed; return []
  | field :: fields, f :: rest => do
    field.check f
    return (field.name, f) :: (← walkItems closed fields rest)

/-- Read an object of this shape. -/
def ofObject (s : Shape α) (other : Fragment → Except Fault Unit) : Decoder α
  | .obj members closed => do
    let found ← walkMembers s.fields other [] members
    Decoder.ended closed
    s.build (found.lookup ·)
  | f => .error (Decoder.unfit f)

/-- Read a record of this shape. -/
def decode (s : Shape α) : Decoder α
  | .arr items closed => do
    let found ← walkItems closed s.fields items
    s.build (found.lookup ·)
  | f => s.ofObject Decoder.skim f

end Shape

/-- Read a text that holds one value and nothing after it. -/
def decodeText? {α : Type} (decode : Decoder α) (s : String) : Option α :=
  let (f, rest) := Fragment.ofText s
  match decode f with
  | .ok a => if Fragment.skipBlanks rest = [] then some a else none
  | .error _ => none

end Gatehouse.Json
