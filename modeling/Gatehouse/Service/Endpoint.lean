import Gatehouse.Service.Answer
import Gatehouse.Service.Config
import Gatehouse.Service.MediaType
import Gatehouse.Session
import Gatehouse.Wire.Request

/-! # The endpoint

Three paths are served: two tell about the service and one decides. The deciding one reads the
content type, then the body, then the scope, and only then asks for a decision; whatever fails first
is answered. The request id comes from the caller, or is a fresh one, and stands in every answer of
this path.
-/

namespace Gatehouse.Service

/-- A call as it arrives. -/
structure Call where
  method : String
  /-- The path, perhaps with a scheme and an authority before it, a query after a question mark or a
  fragment after a hash. -/
  target : String
  headers : List (String × String)
  body : String
deriving DecidableEq, Repr

namespace Call

/-- The characters of the name of a scheme. -/
def isSchemeChar (c : Char) : Bool := c.isAlphanum || c == '+' || c == '-' || c == '.' || c == '~'

/-- What follows the authority, if a target starts with a scheme. -/
def afterAuthority? (cs : List Char) : Option (List Char) :=
  match cs.dropWhile isSchemeChar with
  | ':' :: '/' :: '/' :: rest => some (rest.dropWhile fun c => c ≠ '/' ∧ c ≠ '?' ∧ c ≠ '#')
  | _ => none

def path (call : Call) : String :=
  let cs := call.target.toList
  String.ofList (((afterAuthority? cs).getD cs).takeWhile fun c => c ≠ '?' ∧ c ≠ '#')

/-- Whether a header value has plain ASCII characters only. -/
def isPlain (s : String) : Bool :=
  s.toList.all fun c => c == '\t' || (32 ≤ c.toNat && c.toNat < 127)

/-- The first header of a name, whatever the case of its letters. A value that is not plain counts
as absent. -/
def header? (call : Call) (name : String) : Option String :=
  let found := call.headers.find? fun h => h.1.toLower == name
  (found.map Prod.snd).filter isPlain

/-- Whether the body is announced as JSON. -/
def announcesJson (call : Call) : Bool :=
  ((call.header? "content-type").bind MediaType.ofText?).any MediaType.isJson

/-- How many bytes a body may have. -/
def bodyLimit : Nat := 2097152

/-- Why a body cannot be read. -/
inductive BodyFault where
  | notJson
  | tooLong
  | malformed
  | mismatched
deriving DecidableEq, Repr

/-- What is told of a body that cannot be read. The reader adds what it found wrong with it, unless
it has not looked at it. -/
def BodyFault.text (detail : String) : BodyFault → String
  | .notJson => "Expected request with `Content-Type: application/json`"
  | .tooLong => s!"Failed to buffer the request body: {detail}"
  | .malformed => s!"Failed to parse the request body as JSON: {detail}"
  | .mismatched => s!"Failed to deserialize the JSON body into the target type: {detail}"

/-- Read the body. -/
def submission (call : Call) : Except BodyFault Submission :=
  if !call.announcesJson then .error .notJson
  else if bodyLimit < call.body.utf8ByteSize then .error .tooLong
  else
    match Submission.ofText call.body with
    | .ok s => .ok s
    | .error .malformed => .error .malformed
    | .error .mismatched => .error .mismatched

end Call

/-- What surrounds a call: the configuration, the storage with its faults, how far time has come,
an id for a request that brings none, and what the reader of bodies says of one that it cannot
read. -/
structure Surroundings where
  config : Config
  conditions : Conditions
  progress : Progress
  freshId : Uuid
  complaint : String → String

/-- What comes of a call. -/
inductive Reaction where
  | answered (answer : Answer) (progress : Progress)
  /-- The deadline would lie beyond the end of the calendar: the call is dropped. -/
  | dropped
  /-- The decision waits forever. -/
  | hung (progress : Progress)

namespace Surroundings

def version : String := "0.1.0"

def health : Answer := .json 200 (.obj [("status", .str "ok"), ("version", .str version)])

def info (config : Config) : Answer :=
  .json 200 (.obj [("name", .str config.instanceName), ("version", .str version),
    ("request_timeout_ms", .int config.timeout.toNat)])

/-- The milliseconds that a decision gets: a timeout beyond 63 bits counts as the default. -/
def allowance (config : Config) : Nat :=
  if config.timeout.toNat < UInt64.size / 2 then config.timeout.toNat else defaultTimeout.toNat

/-- Run the decision of a submission and answer it. -/
def decide (s : Surroundings) (requestId : String) (submission : Submission) (scope : Scope) :
    Reaction :=
  match s.progress.clock.addMillis? (allowance s.config) with
  | none => .dropped
  | some deadline =>
    let conditions := { s.conditions with deadline := some deadline }
    let inquiry := authorize s.progress.clock submission.claims scope submission.request
    match conditions.run inquiry s.progress with
    | (.decided (), p) => .answered (.allowed requestId) p
    | (.refused r, p) => .answered (.rejected (.ofRefusal r requestId)) p
    | (.hung, p) => .hung p

/-- The scope that a submission names. -/
def scopeOf (submission : Submission) : Except Refusal Scope :=
  Scope.ofParts (submission.scope.bind (·.serverId)) (submission.scope.bind (·.channelId))

/-- Answer a call for a decision. -/
def authorizeCall (s : Surroundings) (call : Call) : Reaction :=
  let requestId := (RequestId.choose (call.header? "x-request-id") s.freshId).text
  match call.submission with
  | .error fault =>
    .answered (.rejected (.unreadable (fault.text (s.complaint call.body)) requestId)) s.progress
  | .ok submission =>
    match scopeOf submission with
    | .error r => .answered (.rejected (.ofRefusal r requestId)) s.progress
    | .ok scope => s.decide requestId submission scope

/-- Answer a call for one of the paths that are read. -/
def readCall (s : Surroundings) (call : Call) (answer : Answer) : Reaction :=
  match call.method with
  | "GET" => .answered answer s.progress
  | "HEAD" => .answered answer.withoutBody s.progress
  | _ => .answered (.empty 405) s.progress

/-- Answer a call. -/
def respond (s : Surroundings) (call : Call) : Reaction :=
  if call.method = "OPTIONS" then .answered (.empty 200) s.progress
  else
    match call.path with
    | "/health" => s.readCall call health
    | "/info" => s.readCall call (info s.config)
    | "/v1/authorize" =>
      if call.method = "POST" then s.authorizeCall call else .answered (.empty 405) s.progress
    | _ => .answered (.empty 404) s.progress

end Surroundings

end Gatehouse.Service
