import Gatehouse.Record

/-! # Lookups

All that a decision can ask of a store: a row by its id, or the rows of a user on a server. An
answer is what was found, the statement that there is no such row, or a failure of the store. The
answer to a lookup has the type that the lookup asks for.
-/

namespace Gatehouse

inductive Lookup where
  | server (id : Uuid)
  | subscription (id : Uuid)
  | membership (serverId userId : Uuid)
  | role (id : Uuid)
  | rolesHeld (serverId userId : Uuid)
  | assignment (id : Uuid)
  | grantFor (serverId userId : Uuid)
  | grant (id : Uuid)
  | channel (id : Uuid)
  | override (id : Uuid)
deriving DecidableEq, Repr

/-- What a lookup finds. -/
abbrev Lookup.Found : Lookup → Type
  | .server _ => Server
  | .subscription _ | .membership _ _ => Subscription
  | .role _ => Role
  | .rolesHeld _ _ => List Role
  | .assignment _ => Assignment
  | .grantFor _ _ | .grant _ => Grant
  | .channel _ => Channel
  | .override _ => Override

/-- Why a lookup finds nothing. -/
inductive LookupFailure where
  | noRows
  /-- The store failed; its report comes first, then the causes behind it. -/
  | backend (report : String) (causes : List String)
deriving DecidableEq, Repr

abbrev Lookup.Reply (q : Lookup) : Type := Except LookupFailure q.Found

/-- A store, as decisions see it. -/
abbrev Storage : Type := (q : Lookup) → q.Reply

def LookupFailure.text : LookupFailure → String
  | .noRows => "no rows"
  | .backend report _ => s!"storage backend failure: {report}"

end Gatehouse
