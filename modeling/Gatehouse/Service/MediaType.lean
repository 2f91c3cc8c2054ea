/-! # Media types

A media type is a type and a subtype with a slash between them, and perhaps parameters behind a
semicolon. The part of the subtype after its last plus sign says in which general format the content
is. Letters are compared without regard to case.
-/

namespace Gatehouse.Service

structure MediaType where
  type : String
  /-- The subtype without the suffix. -/
  subtype : String
  suffix : Option String
deriving DecidableEq, Repr

namespace MediaType

/-- The characters of names. -/
def isToken (c : Char) : Bool := c.isAlphanum || "!#$%&'*+-.^_`|~".toList.contains c

/-- The characters between quotes. -/
def isQuotable (c : Char) : Bool := 31 < c.toNat && c.toNat ≠ 127

/-- What follows a quoted value: blanks, and then nothing or a semicolon, which is cut off. -/
def afterQuoted? (cs : List Char) : Option (List Char) :=
  match cs.dropWhile (· == ' ') with
  | [] => some []
  | ';' :: rest => some rest
  | _ => none

/-- The rest after the value of a parameter and the semicolon behind it. A quoted value has at least
one character. -/
def afterValue? : List Char → Option (List Char)
  | '"' :: first :: cs =>
    if isQuotable first then
      match cs.dropWhile fun c => c != '"' && isQuotable c with
      | '"' :: rest => afterQuoted? rest
      | _ => none
    else none
  | ['"'] => none
  | cs =>
    match cs.dropWhile isToken with
    | [] => some []
    | ';' :: rest => if rest.length + 1 = cs.length then none else some rest
    | _ => none

/-- The rest after one parameter: blanks, a name, an equals sign and a value. -/
def afterParameter? (cs : List Char) : Option (List Char) :=
  match cs.dropWhile isToken with
  | '=' :: rest => if rest.length + 1 = cs.length then none else afterValue? rest
  | _ => none

/-- Whether a text is a list of parameters. The fuel bounds their number. -/
def isParameters : (fuel : Nat) → List Char → Bool
  | 0, _ => false
  | fuel + 1, cs =>
    match cs.dropWhile (· == ' ') with
    | [] => true
    | cs => (afterParameter? cs).any (isParameters fuel)

/-- Cut a subtype at its last plus sign, unless it starts with that. -/
def splitSuffix (cs : List Char) : List Char × Option (List Char) :=
  let suffix := (cs.reverse.takeWhile (· ≠ '+')).reverse
  let before := (cs.take (cs.length - suffix.length)).dropLast
  if before = [] then (cs, none) else (before, some suffix)

def lower (cs : List Char) : String := String.ofList (cs.map Char.toLower)

/-- Read a media type. -/
def ofText? (s : String) : Option MediaType :=
  let cs := s.toList
  let type := cs.takeWhile isToken
  match type, cs.drop type.length with
  | _ :: _, '/' :: rest =>
    let sub := rest.takeWhile isToken
    let made :=
      let (subtype, suffix) := splitSuffix sub
      some ⟨lower type, lower subtype, suffix.map lower⟩
    match sub, rest.drop sub.length with
    | _, [] => made
    | _ :: _, ';' :: rest => if isParameters (rest.length + 1) rest then made else none
    | _, _ => none
  | _, _ => none

/-- Whether content of the type is JSON. -/
def isJson (m : MediaType) : Bool :=
  m.type == "application" && (m.subtype == "json" || m.suffix == some "json")

end MediaType

end Gatehouse.Service
