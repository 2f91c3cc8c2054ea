import Gatehouse.Json.Value
import Gatehouse.Refusal

/-! # Answers

What the service answers to a call: a status number and, where there is anything to say, a JSON
object. A refused decision is answered with its code and message and the id of the request; neither
the origin of the refusal nor its causes are part of that.
-/

namespace Gatehouse.Service

inductive Body where
  | empty
  | json (value : Json)

structure Answer where
  status : Nat
  contentType : Option String
  body : Body

/-- The status number of a code. -/
def statusOf : Code → Nat
  | .invalidArgument => 400
  | .notFound => 404
  | .permissionDenied => 403
  | .unauthenticated => 401
  | .internal => 500
  | .cancelled => 499
  | .deadlineExceeded => 504

/-- A refused call, before it is written as an answer. -/
structure Rejection where
  status : Status
  requestId : String
deriving DecidableEq, Repr

namespace Rejection

def ofRefusal (r : Refusal) (requestId : String) : Rejection := ⟨r.status, requestId⟩

/-- A call that cannot be read. -/
def unreadable (message requestId : String) : Rejection :=
  ⟨⟨.invalidArgument, message⟩, requestId⟩

def text (r : Rejection) : String := s!"{r.status.code.name}: {r.status.message}"

end Rejection

namespace Answer

def jsonType : String := "application/json"

def json (status : Nat) (value : Json) : Answer := ⟨status, some jsonType, .json value⟩

def empty (status : Nat) : Answer := ⟨status, none, .empty⟩

def rejected (r : Rejection) : Answer :=
  json (statusOf r.status.code) (.obj [("error", .str r.status.message),
    ("code", .str r.status.code.name), ("request_id", .str r.requestId)])

def allowed (requestId : String) : Answer :=
  json 200 (.obj [("allowed", .bool true), ("request_id", .str requestId)])

/-- The answer without its body. -/
def withoutBody (a : Answer) : Answer := { a with body := .empty }

end Answer

end Gatehouse.Service
