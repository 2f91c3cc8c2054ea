import Gatehouse.Proofs.Authority.Sight
import Gatehouse.Proofs.Authority.Tenant
import Gatehouse.Proofs.Authority.Wording
import Gatehouse.Proofs.Service.Faithful

/-! # Nothing internal is told

What a failing store reports, where a decision refused and what was behind that stays inside. To
show it, a storage is muted: its failures are left, but their reports are taken out. Whether a
storage is muted or not, a call is answered the same.
-/

namespace Gatehouse

def LookupFailure.muted : LookupFailure → LookupFailure
  | .noRows => .noRows
  | .backend _ _ => .backend "" []

/-- The storage without the reports of its failures and the causes behind them. -/
def Storage.muted (storage : Storage) : Storage := fun q => (storage q).mapError LookupFailure.muted

def Fault.muted : Fault → Fault
  | .backend _ => .backend ""
  | fault => fault

/-- The same conditions, where no failure of the store is reported. -/
def Conditions.muted (c : Conditions) : Conditions :=
  { c with
    storage := c.storage.muted
    fault := fun asked q => (c.fault asked q).map Fault.muted }

/-- Failures of the store refuse with the same status, whatever they report. -/
theorem Lookup.like_muted (q : Lookup) (reply : q.Reply) :
    q.Like Refusal.SameStatus reply (reply.mapError LookupFailure.muted) := by
  obtain ⟨⟨⟩ | _⟩ | found := reply
  · exact .noRows
  · exact .backend fun origin => rfl
  · exact .found (.refl q found)

private theorem Conditions.alike_muted (c : Conditions) :
    c.Alike (Lookup.Like Refusal.SameStatus) c.muted where
  deadline := rfl
  latency := rfl
  answers q := q.like_muted (c.storage q)
  failures q failure := .refl Refusal.SameStatus.refl q (.error failure)
  faults asked q := by
    cases fault : c.fault asked q with
    | none => exact .inl (by simp [muted, fault])
    | some kind =>
      cases kind with
      | backend report =>
        exact .inr ⟨report, "", rfl, by simp [muted, fault, Fault.muted], .backend fun _ => rfl⟩
      | _ => exact .inl (by simp [muted, fault, Fault.muted])

/-- A decision over a muted storage is reported the same and comes as far. -/
theorem Conditions.run_muted (c : Conditions) (now : Time) (claims : Option Claims) (scope : Scope)
    (request : Request) (p : Progress) :
    (c.muted.run (authorize now claims scope request) p).1.report =
        (c.run (authorize now claims scope request) p).1.report ∧
      (c.muted.run (authorize now claims scope request) p).2 =
        (c.run (authorize now claims scope request) p).2 := by
  have akin := authorize_akin Refusal.SameStatus.refl now claims scope request
  obtain ⟨ends, comes⟩ := run_alike c.alike_muted.guarded Refusal.SameStatus.refl akin p
  exact ⟨(Ending.report_eq_of_alike ends).symm, comes.symm⟩

/-- Every refusal of a run says what goes with its code. -/
theorem Conditions.worded_of_refused {c : Conditions} {now : Time} {claims : Option Claims}
    {scope : Scope} {request : Request} {p : Progress} {r : Refusal}
    (refused : (c.run (authorize now claims scope request) p).1 = .refused r) :
    r.status.Worded := by
  obtain worded | rfl | rfl :=
    Conditions.kind_of_refused (authorize_worded now claims scope request) refused
  · exact worded.2
  · exact .inl rfl
  · exact .inl rfl

namespace Service

/-- The same surroundings, where no failure of the store is reported. -/
def Surroundings.muted (s : Surroundings) : Surroundings :=
  { s with conditions := s.conditions.muted }

private theorem Surroundings.decide_muted (s : Surroundings) (requestId : String)
    (submission : Submission) (scope : Scope) :
    s.muted.decide requestId submission scope = s.decide requestId submission scope := by
  cases timely : s.progress.clock.addMillis? (allowance s.config) with
  | none =>
    have timely' : s.muted.progress.clock.addMillis? (allowance s.muted.config) = none := timely
    rw [decide, decide, timely, timely']
  | some deadline =>
    have timely' : s.muted.progress.clock.addMillis? (allowance s.muted.config) = some deadline :=
      timely
    obtain ⟨report, progress⟩ := ({ s.conditions with deadline := some deadline }).run_muted
      s.progress.clock submission.claims scope submission.request s.progress
    change (s.muted.judge deadline submission scope).1.report = _ at report
    change (s.muted.judge deadline submission scope).2 = _ at progress
    rw [decide_eq timely, decide_eq timely', report, progress]
    rfl

/-- No answer depends on what a failing store reports. -/
theorem Surroundings.respond_muted (s : Surroundings) (call : Call) :
    s.muted.respond call = s.respond call := by
  have asked : s.muted.authorizeCall call = s.authorizeCall call := by
    unfold authorizeCall
    simp only [decide_muted]
    rfl
  unfold respond
  rw [asked]
  rfl

/-- A call whose body is read is told nothing but that it is allowed, or a worded status. -/
theorem Surroundings.authorizeCall_worded {s : Surroundings} {call : Call} {submission : Submission}
    (read : call.submission = .ok submission) {answer : Answer} {after : Progress}
    (answered : s.authorizeCall call = .answered answer after) :
    ∃ id, call.Identified s.freshId id ∧
      (answer.Approves id ∨ ∃ status, answer.Reports status id ∧ status.Worded) := by
  refine ⟨_, Call.identified_iff.mpr rfl, ?_⟩
  unfold authorizeCall at answered
  simp only [read] at answered
  generalize (RequestId.choose (call.header? "x-request-id") s.freshId).text = id at answered ⊢
  have reported {status : Status} (worded : status.Worded) :
      ∃ status', (Answer.rejected ⟨status, id⟩).Reports status' id ∧ status'.Worded :=
    ⟨status, Answer.reports_rejected status id, worded⟩
  cases asked : scopeOf submission with
  | error r =>
    simp only [asked] at answered
    cases answered
    exact .inr (reported (Scope.ofParts_worded asked).2)
  | ok scope =>
    simp only [asked] at answered
    cases timely : s.progress.clock.addMillis? (allowance s.config) with
    | none =>
      rw [decide, timely] at answered
      cases answered
    | some deadline =>
      rw [decide_eq timely] at answered
      cases ending : (s.judge deadline submission scope).1 with
      | decided result =>
        rw [ending] at answered
        cases answered
        exact .inl rfl
      | refused r =>
        rw [ending] at answered
        cases answered
        exact .inr (reported (Conditions.worded_of_refused ending))
      | hung =>
        rw [ending] at answered
        cases answered

/-- Nothing internal is told. Where stores differ in what their failures report only, all calls are
answered the same. A call that is read is told that it is allowed or a status whose message goes
with its code. And failures of one kind with one message have the same status, the same text and
the same answer, wherever they come from and whatever is behind them. -/
theorem nothing_internal_told :
    (∀ (s s' : Surroundings) (call : Call), s.muted = s'.muted →
      s.respond call = s'.respond call) ∧
    (∀ (s : Surroundings) (call : Call) (submission : Submission) (answer : Answer)
      (after : Progress), call.method = "POST" → call.path = "/v1/authorize" →
      call.submission = .ok submission → s.respond call = .answered answer after →
      ∃ id, call.Identified s.freshId id ∧
        (answer.Approves id ∨ ∃ status, answer.Reports status id ∧ status.Worded)) ∧
    ∀ (f f' : Failure) (id : String), f.kind = f'.kind → f.message = f'.message →
      (Refusal.failure f).status = (Refusal.failure f').status ∧
      (Rejection.ofRefusal (.failure f) id).text = (Rejection.ofRefusal (.failure f') id).text ∧
      Answer.rejected (.ofRefusal (.failure f) id) =
        Answer.rejected (.ofRefusal (.failure f') id) := by
  refine ⟨fun s s' call same => ?muted, fun s call submission answer after posted addressed read
    answered => ?worded, fun f f' id kind message => ?outward⟩
  case muted => rw [← s.respond_muted, same, s'.respond_muted]
  case worded =>
    rw [Surroundings.respond_eq posted addressed] at answered
    exact Surroundings.authorizeCall_worded read answered
  case outward =>
    have status : (Refusal.failure f).status = (Refusal.failure f').status := by
      rw [Refusal.status, Refusal.status, kind, message]
    have rejection : Rejection.ofRefusal (.failure f) id = .ofRefusal (.failure f') id := by
      rw [Rejection.ofRefusal, Rejection.ofRefusal, status]
    exact ⟨status, congrArg Rejection.text rejection, congrArg Answer.rejected rejection⟩

namespace Sample

/-- The service over a store that fails with this report. -/
def failing (report : String) (causes : List String) : Surroundings :=
  { service with
    conditions := { service.conditions with storage := fun _ => .error (.backend report causes) } }

/-- What a store says of a disk that it cannot read. -/
def diskFailure : Failure :=
  ⟨.internal, "internal server error", Target.origin,
    ["storage backend failure: disk I/O error", "disk I/O error", "Error code 266"]⟩

def diskFailing : Surroundings := failing "disk I/O error" ["Error code 266"]

/-- What is told of it, and how far it comes. -/
def apology : Answer := .rejected ⟨⟨.internal, "internal server error"⟩, "trace-1"⟩

def halfway : Progress := ⟨.epoch, false, [.role ⟨8⟩]⟩

private theorem diskFailing_respond :
    diskFailing.respond holderCall = .answered apology halfway := by
  have asked : Surroundings.scopeOf holderSubmission = .ok .unscoped :=
    Scope.asked_iff.mp holderSubmission_asks
  have timely : diskFailing.progress.clock.addMillis? (Surroundings.allowance diskFailing.config) =
      some ⟨2, 0, by decide⟩ := by decide +kernel
  have judged : diskFailing.judge ⟨2, 0, by decide⟩ holderSubmission .unscoped =
      (.refused (.failure diskFailure), halfway) := by decide +kernel
  have identified : (RequestId.choose (holderCall.header? "x-request-id") diskFailing.freshId).text =
      "trace-1" := (Call.identified_iff.mp holderCall_identified).symm
  rw [Surroundings.respond_eq rfl (by decide +kernel), Surroundings.authorizeCall, holderCall_read]
  simp only [asked, Surroundings.decide_eq timely, judged, identified]
  rfl

end Sample

/-- Neither the disk nor a poisoned lock is heard of. -/
theorem failing_stores_told_alike :
    Sample.diskFailing.respond Sample.holderCall =
        (Sample.failing "Database lock poisoned" []).respond Sample.holderCall ∧
      (∃ id, Sample.holderCall.Identified Sample.diskFailing.freshId id ∧
        (Sample.apology.Approves id ∨ ∃ status, Sample.apology.Reports status id ∧ status.Worded)) ∧
      (Refusal.failure Sample.diskFailure).status =
        (Refusal.internal "predicates.load_server" "Database lock poisoned" []).status := by
  obtain ⟨muted, worded, outward⟩ := nothing_internal_told
  refine ⟨muted _ _ _ rfl, ?_, (outward _ _ "trace-1" rfl rfl).1⟩
  exact worded Sample.diskFailing Sample.holderCall Sample.holderSubmission Sample.apology
    Sample.halfway rfl (by decide +kernel) Sample.holderCall_read Sample.diskFailing_respond

end Service

end Gatehouse
