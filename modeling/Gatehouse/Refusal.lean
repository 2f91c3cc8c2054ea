/-! # Refusals

A decision that is not an approval is a refusal. Most are failures of a kind, with a message that is
safe to tell the caller, a label of the place that refused, and the causes behind it, outermost
first; labels and causes stay in logs. The other two are interruptions: the request was cancelled,
or its deadline passed.
-/

namespace Gatehouse

inductive FailureKind where
  | invalidArgument
  | notFound
  | denied
  | unauthenticated
  | internal
deriving DecidableEq, Repr

structure Failure where
  kind : FailureKind
  message : String
  origin : String
  /-- The texts of the causes, from the one just behind the failure to the innermost. -/
  causes : List String
deriving DecidableEq, Repr

inductive Refusal where
  | failure (f : Failure)
  | cancelled
  | deadlineExceeded
deriving DecidableEq, Repr

/-- What a transport reports of a refusal. -/
inductive Code where
  | invalidArgument
  | notFound
  | permissionDenied
  | unauthenticated
  | internal
  | cancelled
  | deadlineExceeded
deriving DecidableEq, Repr

/-- A code with the message for the caller: all that leaves the engine. -/
structure Status where
  code : Code
  message : String
deriving DecidableEq, Repr

def FailureKind.name : FailureKind → String
  | .invalidArgument => "invalid-argument"
  | .notFound => "not-found"
  | .denied => "permission-denied"
  | .unauthenticated => "unauthenticated"
  | .internal => "internal"

def FailureKind.code : FailureKind → Code
  | .invalidArgument => .invalidArgument
  | .notFound => .notFound
  | .denied => .permissionDenied
  | .unauthenticated => .unauthenticated
  | .internal => .internal

def Code.name : Code → String
  | .invalidArgument => "invalid-argument"
  | .notFound => "not-found"
  | .permissionDenied => "permission-denied"
  | .unauthenticated => "unauthenticated"
  | .internal => "internal"
  | .cancelled => "cancelled"
  | .deadlineExceeded => "deadline-exceeded"

namespace Failure

def text (f : Failure) : String := s!"{f.kind.name}: {f.message} (at {f.origin})"

end Failure

namespace Refusal

def invalidArgument (origin message : String) : Refusal :=
  .failure ⟨.invalidArgument, message, origin, []⟩

/-- An id that cannot be read. The reader of ids says in its own words what is wrong with the text,
such as its length or one of its characters; the one cause here stands for all that it may say. -/
def invalidUuid (origin : String) : Refusal :=
  .failure ⟨.invalidArgument, "invalid uuid", origin, ["malformed UUID"]⟩

def missingField (origin : String) : Refusal := invalidArgument origin "missing field"

def notFound (origin : String) : Refusal := .failure ⟨.notFound, "resource not found", origin, []⟩

def denied (origin : String) : Refusal := .failure ⟨.denied, "unauthorized", origin, []⟩

def unauthenticated (origin : String) : Refusal :=
  .failure ⟨.unauthenticated, "missing/invalid token", origin, []⟩

/-- A failure of the machinery, with at least one cause. -/
def internal (origin cause : String) (deeper : List String) : Refusal :=
  .failure ⟨.internal, "internal server error", origin, cause :: deeper⟩

/-- The kind of a failure; interruptions have none. -/
def kind? : Refusal → Option FailureKind
  | .failure f => some f.kind
  | .cancelled | .deadlineExceeded => none

def isDenied (r : Refusal) : Bool := r.kind? = some .denied

def origin? : Refusal → Option String
  | .failure f => some f.origin
  | .cancelled | .deadlineExceeded => none

def causes : Refusal → List String
  | .failure f => f.causes
  | .cancelled | .deadlineExceeded => []

def text : Refusal → String
  | .failure f => f.text
  | .cancelled => "request cancelled"
  | .deadlineExceeded => "deadline exceeded"

/-- Add the texts of causes, each after a colon. -/
def appendCauses : String → List String → String
  | shown, [] => shown
  | shown, cause :: deeper => appendCauses (shown ++ ": " ++ cause) deeper

/-- The refusal and all its causes, for logs. -/
def chain (r : Refusal) : String := appendCauses r.text r.causes

def status : Refusal → Status
  | .failure f => ⟨f.kind.code, f.message⟩
  | .cancelled => ⟨.cancelled, "request cancelled"⟩
  | .deadlineExceeded => ⟨.deadlineExceeded, "deadline exceeded"⟩

end Refusal

end Gatehouse
