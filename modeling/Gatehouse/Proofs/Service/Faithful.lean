import Gatehouse.Proofs.Authority.Interruption
import Gatehouse.Proofs.Authority.Verdict
import Gatehouse.Proofs.Elapse
import Gatehouse.Proofs.Likeness
import Gatehouse.Proofs.Service.Fields

/-! # The endpoint tells what is decided

A call for a decision has one of three ends. If it cannot be read, or asks for no scope that makes
sense, it is refused without a lookup. Otherwise it is decided within its time, and the answer tells
the ending of the decision: that it is allowed, or the status of the refusal. Every answer carries
the id of the call.
-/

namespace Gatehouse

namespace Service

/-- The status numbers and the words that stand for codes. -/
def Answer.images : List (Code × Nat × String) :=
  [(.invalidArgument, 400, "invalid-argument"), (.notFound, 404, "not-found"),
    (.permissionDenied, 403, "permission-denied"), (.unauthenticated, 401, "unauthenticated"),
    (.internal, 500, "internal"), (.cancelled, 499, "cancelled"),
    (.deadlineExceeded, 504, "deadline-exceeded")]

/-- The answer says that the call of this id is allowed. -/
def Answer.Approves (id : String) (a : Answer) : Prop :=
  a = ⟨200, some "application/json",
    .json (.obj [("allowed", .bool true), ("request_id", .str id)])⟩

/-- The answer reports this status of the call of this id. -/
def Answer.Reports (status : Status) (id : String) (a : Answer) : Prop :=
  ∃ number word, (status.code, number, word) ∈ images ∧
    a = ⟨number, some "application/json", .json (.obj [("error", .str status.message),
      ("code", .str word), ("request_id", .str id)])⟩

namespace Answer

variable {status status' : Status} {id : String}

private theorem mem_images_iff {code : Code} {number : Nat} {word : String} :
    (code, number, word) ∈ images ↔ number = statusOf code ∧ word = code.name := by
  cases code <;> simp [images, statusOf, Code.name]

private theorem reports_iff {a : Answer} : a.Reports status id ↔ a = rejected ⟨status, id⟩ := by
  simp only [Reports, mem_images_iff]
  constructor
  · rintro ⟨number, word, ⟨rfl, rfl⟩, rfl⟩
    rfl
  · rintro rfl
    exact ⟨_, _, ⟨rfl, rfl⟩, rfl⟩

theorem reports_rejected (status : Status) (id : String) :
    (rejected ⟨status, id⟩).Reports status id :=
  reports_iff.mpr rfl

/-- Nothing is both allowed and refused. -/
theorem not_reports_allowed : ¬ (allowed id).Reports status id := by
  rw [reports_iff]
  intro same
  have numbers := congrArg Answer.status same
  cases status with
  | mk code message => cases code <;> cases numbers

private theorem rejected_inj :
    rejected ⟨status, id⟩ = rejected ⟨status', id⟩ ↔ status = status' := by
  refine ⟨fun same => ?_, congrArg fun status => rejected ⟨status, id⟩⟩
  obtain ⟨code, message⟩ := status
  obtain ⟨code', message'⟩ := status'
  simp only [rejected, json, Answer.mk.injEq, Body.json.injEq, Json.obj.injEq, List.cons.injEq,
    Prod.mk.injEq, Json.str.injEq, true_and, and_true] at same
  obtain ⟨numbers, rfl, -⟩ := same
  obtain rfl : code = code' := by cases code <;> cases code' <;> first | rfl | cases numbers
  rfl

end Answer

namespace Surroundings

variable {s : Surroundings} {call : Call} {deadline : Time}

/-- What is answered to a decision that ends in this way. -/
def tell (requestId : String) : Report Unit → Progress → Reaction
  | .decided (), p => .answered (.allowed requestId) p
  | .refused status, p => .answered (.rejected ⟨status, requestId⟩) p
  | .hung, p => .hung p

/-- The run that decides a submission, up to a deadline. -/
def judge (s : Surroundings) (deadline : Time) (submission : Submission) (scope : Scope) :
    Ending Unit × Progress :=
  ({ s.conditions with deadline := some deadline }).run
    (authorize s.progress.clock submission.claims scope submission.request) s.progress

/-- With a deadline a decision does not wait forever. -/
theorem judge_ne_hung (s : Surroundings) (deadline : Time) (submission : Submission)
    (scope : Scope) : (s.judge deadline submission scope).1 ≠ .hung := by
  intro hung
  have unlimited := Conditions.deadline_of_hung
    (authorize_worded s.progress.clock submission.claims scope submission.request) hung
  cases unlimited

/-- Of the ending of a decision nothing is told but its report. -/
theorem decide_eq (timely : s.progress.clock.addMillis? (allowance s.config) = some deadline)
    (requestId : String) (submission : Submission) (scope : Scope) :
    s.decide requestId submission scope =
      tell requestId (s.judge deadline submission scope).1.report
        (s.judge deadline submission scope).2 := by
  unfold decide judge
  simp only [timely]
  generalize Conditions.run _ _ _ = ran
  obtain ⟨⟨⟨⟩⟩ | _ | _, p⟩ := ran <;> rfl

theorem respond_eq (posted : call.method = "POST") (addressed : call.path = "/v1/authorize") :
    s.respond call = s.authorizeCall call := by
  unfold respond
  simp [posted, addressed]

end Surroundings

/-- The answer tells how the decision ended: with `()`, or with a refusal of this status. -/
structure Answer.Tells (id : String) (ending : Ending Unit) (a : Answer) : Prop where
  approves : a.Approves id ↔ ending = .decided ()
  reports (status : Status) : a.Reports status id ↔ ∃ r, ending = .refused r ∧ r.status = status

/-- A decision that comes to an end is told. -/
theorem Surroundings.exists_tells (id : String) {ending : Ending Unit} (ended : ending ≠ .hung)
    (p : Progress) :
    ∃ answer, tell id ending.report p = .answered answer p ∧ answer.Tells id ending ∧
      (answer.Approves id ∨ ∃ status, answer.Reports status id) := by
  cases ending with
  | decided result =>
    refine ⟨.allowed id, rfl, ⟨iff_of_true rfl rfl, fun status => ?_⟩, .inl rfl⟩
    refine iff_of_false Answer.not_reports_allowed ?_
    rintro ⟨r, refused, -⟩
    cases refused
  | refused r =>
    have reported := Answer.reports_rejected r.status id
    refine ⟨.rejected ⟨r.status, id⟩, rfl, ⟨iff_of_false ?_ nofun, fun status => ?_⟩,
      .inr ⟨_, reported⟩⟩
    · intro approves
      exact Answer.not_reports_allowed (approves ▸ reported)
    · rw [Answer.reports_iff, Answer.rejected_inj]
      constructor
      · intro same
        exact ⟨r, rfl, same⟩
      · rintro ⟨_, ⟨⟩, same⟩
        exact same
  | hung => exact (ended rfl).elim

namespace Sample

open Gatehouse.Sample (house)

/-- The service over a server with a role in the hands of user 2. -/
def service : Surroundings where
  config := .default
  conditions := ⟨house.storage, none, none, fun _ _ => none⟩
  progress := ⟨.epoch, false, []⟩
  freshId := ⟨1⟩
  complaint _ := "EOF while parsing a value at line 1 column 0"

/-- User 2 deletes the role. -/
def holderSubmission : Submission where
  claims := some ⟨"00000000000000000000000000000002", "", "", 1⟩
  request := ⟨.role, some "00000000000000000000000000000008", "delete", none⟩
  scope := none

def holderCall : Call where
  method := "POST"
  target := "/v1/authorize"
  headers := [("Content-Type", "application/json"), ("X-Request-Id", " trace-1 ")]
  body := "\x7b\"class\":\"role\",\"object_id\":\"00000000000000000000000000000008\"," ++
    "\"action\":\"delete\",\"claims\":[\"00000000000000000000000000000002\",\"\",\"\",1]\x7d"

theorem holderCall_read : holderCall.submission = .ok holderSubmission := by
  have read : holderCall.submission.toOption = some holderSubmission := by decide +kernel
  cases submission : holderCall.submission with
  | ok submission' =>
    rw [submission] at read
    exact congrArg Except.ok (Option.some.inj read)
  | error fault =>
    rw [submission] at read
    cases read

theorem holderSubmission_asks : holderSubmission.Asks (.ok .unscoped) := .unscoped nofun nofun

theorem holderCall_identified : holderCall.Identified service.freshId "trace-1" := by
  rw [Call.identified_iff]
  decide +kernel

end Sample

end Service

end Gatehouse
