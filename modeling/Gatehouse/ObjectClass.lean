import Gatehouse.Text.Blank

/-! # Classes of guarded objects

Seven classes of objects are guarded. Each has one name on the wire, and three have an older second
name. A class is named in two places: as a command word, which may stand between blanks, and as a
token in a message, which may not.
-/

namespace Gatehouse

inductive ObjectClass where
  | server
  | subscription
  | role
  | assignment
  | channel
  | override
  | grant
deriving DecidableEq, Repr

/-- A command word that names no class, without the blanks around it. -/
structure UnknownClass where
  word : String
deriving DecidableEq, Repr

namespace ObjectClass

def all : List ObjectClass :=
  [.server, .subscription, .role, .assignment, .channel, .override, .grant]

/-- The name on the wire. -/
def name : ObjectClass → String
  | .server => "server"
  | .subscription => "subscription"
  | .role => "role"
  | .assignment => "role-assignment"
  | .channel => "channel"
  | .override => "channel-role"
  | .grant => "explicit-grant"

/-- The older name that is still read. -/
def formerName? : ObjectClass → Option String
  | .server => some "appserver"
  | .subscription => some "sub"
  | .assignment => some "role-sub"
  | .grant => some "permission"
  | .role | .channel | .override => none

/-- The class of a token in a message. -/
def ofToken? (token : String) : Option ObjectClass :=
  all.find? fun c => token == c.name || some token == c.formerName?

/-- The class of a command word. -/
def ofWord (word : String) : Except UnknownClass ObjectClass :=
  match Text.trim word with
  | "server" | "appserver" => .ok .server
  | "subscription" | "sub" => .ok .subscription
  | "role" => .ok .role
  | "role-assignment" | "role-sub" => .ok .assignment
  | "channel" => .ok .channel
  | "channel-role" => .ok .override
  | "explicit-grant" | "permission" => .ok .grant
  | other => .error ⟨other⟩

/-- Whether an object of the class must live in the server that the request's scope names. -/
def scopeChecked : ObjectClass → Bool
  | .role | .assignment | .channel | .override => true
  | .server | .subscription | .grant => false

end ObjectClass

def UnknownClass.message (e : UnknownClass) : String := s!"unknown object class: {e.word}"

end Gatehouse
