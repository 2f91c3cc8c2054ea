import Gatehouse.Proofs.Service.Faithful

/-! # Timeouts and the end of the calendar

A decision gets the configured timeout, unless that has more than 63 bits; then it gets the default
one. With the default the deadline is always in the calendar. A timeout of at most 63 bits is not
tested further: if the calendar ends before the deadline, the call is dropped and never answered. So
a call is answered exactly if the timeout is too long for 63 bits or ends within the calendar.
-/

namespace Gatehouse.Service

namespace Config

/-- The text sets this timeout: it is a decimal numeral of it, perhaps after a plus sign. A timeout
has at least one millisecond. -/
structure Sets (text : String) (timeout : UInt64) : Prop where
  positive : timeout ≠ 0
  written : ∃ digits, (text.toList = digits ∨ text.toList = '+' :: digits) ∧ digits ≠ [] ∧
    digits.all (Text.isDigitIn 10) = true ∧ Text.value 10 digits = timeout.toNat

private theorem bind_value?_eq_some_iff {digits : List Char} {n : UInt64} :
    ((Text.value? 10 digits).bind fun n =>
        if n < UInt64.size then some (UInt64.ofNat n) else none) = some n ↔
      digits ≠ [] ∧ digits.all (Text.isDigitIn 10) = true ∧
        Text.value 10 digits = n.toNat := by
  unfold Text.value?
  by_cases numeral : digits ≠ [] ∧ digits.all (Text.isDigitIn 10) = true
  · simp only [if_pos numeral, Option.bind_some, Option.ite_none_right_eq_some, Option.some.injEq]
    rw [and_iff_right numeral.1, and_iff_right numeral.2]
    constructor
    · rintro ⟨fits, rfl⟩
      exact (UInt64.toNat_ofNat_of_lt fits).symm
    · intro same
      rw [same]
      exact ⟨n.toNat_lt, UInt64.ofNat_toNat⟩
  · simp only [if_neg numeral, Option.bind_none, reduceCtorEq, false_iff]
    exact fun spelled => numeral ⟨spelled.1, spelled.2.1⟩

private theorem readNumber?_eq_some_iff {text : String} {n : UInt64} :
    readNumber? text = some n ↔
      ∃ digits, (text.toList = digits ∨ text.toList = '+' :: digits) ∧ digits ≠ [] ∧
        digits.all (Text.isDigitIn 10) = true ∧ Text.value 10 digits = n.toNat := by
  unfold readNumber?
  dsimp only
  split
  · next rest signed =>
    rw [signed, bind_value?_eq_some_iff]
    constructor
    · intro numeral
      exact ⟨rest, .inr rfl, numeral⟩
    · rintro ⟨digits, rfl | same, numeral⟩
      · -- the plus sign is not a digit
        have plus := List.all_eq_true.mp numeral.2.1 '+' (List.mem_cons_self ..)
        exact absurd plus (by decide)
      · cases same
        exact numeral
  · next unsigned =>
    rw [bind_value?_eq_some_iff]
    constructor
    · intro numeral
      exact ⟨_, .inl rfl, numeral⟩
    · rintro ⟨digits, rfl | signed, numeral⟩
      · exact numeral
      · exact (unsigned _ signed).elim

/-- Exactly the texts that set a timeout are read. -/
theorem readTimeout?_eq_some_iff {text : String} {timeout : UInt64} :
    readTimeout? text = some timeout ↔ Sets text timeout := by
  rw [readTimeout?, Option.filter_eq_some_iff, readNumber?_eq_some_iff, decide_eq_true_eq]
  constructor
  · rintro ⟨written, positive⟩
    exact ⟨positive, written⟩
  · rintro ⟨positive, written⟩
    exact ⟨written, positive⟩

/-- The milliseconds that a decision gets. A timeout of at most 63 bits is used as it is, and for a
longer one the default. -/
def inUse (timeout : UInt64) : Nat :=
  if timeout.toNat < 9223372036854775808 then timeout.toNat else 2000

private theorem timeout_ofEnvironment {get : String → Option String} {text : String}
    {timeout : UInt64} (given : get "REQUEST_TIMEOUT_MS" = some text) (sets : Sets text timeout) :
    (ofEnvironment get).timeout = timeout := by
  simp only [ofEnvironment, given, Option.bind_some, readTimeout?_eq_some_iff.mpr sets,
    Option.getD_some]

end Config

/-- The timeout has at most 63 bits, and the calendar ends before it does. -/
def Overruns (clock : Time) (timeout : UInt64) : Prop :=
  timeout.toNat < 9223372036854775808 ∧
    Time.calendarEnd ≤ clock.sinceEpoch + timeout.toNat * 1000000

namespace Surroundings

variable {s : Surroundings} {timeout : UInt64}

private theorem allowance_of_timeout (configured : s.config.timeout = timeout) :
    allowance s.config = Config.inUse timeout := by
  rw [allowance, configured]
  rfl

private theorem addMillis?_of_overruns {clock : Time} (overruns : Overruns clock timeout) :
    clock.addMillis? (Config.inUse timeout) = none := by
  obtain ⟨fits, late⟩ := overruns
  rw [Config.inUse, if_pos fits]
  refine Option.eq_none_iff_forall_ne_some.mpr fun deadline timely => ?_
  have early := (clock.exists_addMillis?_iff timeout.toNat).mp ⟨deadline, timely⟩
  omega

/-- With a clock in the years 0 to 9999 there is a deadline unless the timeout overruns. -/
theorem exists_deadline {clock : Time} (dated : clock.Readable)
    (timely : ¬ Overruns clock timeout) :
    ∃ deadline, clock.addMillis? (Config.inUse timeout) = some deadline := by
  refine (clock.exists_addMillis?_iff _).mpr ?_
  unfold Config.inUse
  by_cases fits : timeout.toNat < 9223372036854775808
  · rw [if_pos fits]
    exact Int.not_le.mp fun late => timely ⟨fits, late⟩
  · have early := dated.lt
    have short := clock.within.2.2.1
    rw [if_neg fits]
    unfold Time.sinceEpoch Time.calendarEnd Time.lastSecond
    omega

end Surroundings

/-- A call that can be read and asks for a scope is answered unless the configured timeout overruns
the calendar; then it is dropped. The answer tells how the decision ended by the deadline that lies
the timeout ahead, or the default timeout if the configured one has more than 63 bits. -/
theorem answered_unless_overrun {get : String → Option String} {text : String} {timeout : UInt64}
    (given : get "REQUEST_TIMEOUT_MS" = some text) (sets : Config.Sets text timeout)
    {s : Surroundings} (configured : s.config = .ofEnvironment get)
    (dated : s.progress.clock.Readable) {call : Call} (posted : call.method = "POST")
    (addressed : call.path = "/v1/authorize") {submission : Submission}
    (read : call.submission = .ok submission) {scope : Scope} (asks : submission.Asks (.ok scope)) :
    (Overruns s.progress.clock timeout → s.respond call = .dropped) ∧
    (¬ Overruns s.progress.clock timeout →
      ∃ deadline id answer after,
        s.progress.clock.addMillis? (Config.inUse timeout) = some deadline ∧
        call.Identified s.freshId id ∧ s.respond call = .answered answer after ∧
        (answer.Approves id ∨ ∃ status, answer.Reports status id) ∧
        let judged := { s.conditions with deadline := some deadline }.run
          (authorize s.progress.clock submission.claims scope submission.request) s.progress
        answer.Tells id judged.1 ∧ after = judged.2) := by
  have allowed := Surroundings.allowance_of_timeout (s := s)
    ((congrArg Config.timeout configured).trans (Config.timeout_ofEnvironment given sets))
  have decides : s.respond call = s.decide
      (RequestId.choose (call.header? "x-request-id") s.freshId).text submission scope := by
    have asked : Surroundings.scopeOf submission = .ok scope := Scope.asked_iff.mp asks
    simp only [Surroundings.respond_eq posted addressed, Surroundings.authorizeCall, read, asked]
  constructor
  · intro overruns
    have late := Surroundings.addMillis?_of_overruns overruns
    rw [← allowed] at late
    rw [decides, Surroundings.decide, late]
  · intro timely
    obtain ⟨deadline, there⟩ := Surroundings.exists_deadline dated timely
    have decided := Surroundings.decide_eq (allowed ▸ there)
      (RequestId.choose (call.header? "x-request-id") s.freshId).text submission scope
    obtain ⟨answer, told, tells, either⟩ := Surroundings.exists_tells _
      (s.judge_ne_hung deadline submission scope) (s.judge deadline submission scope).2
    exact ⟨deadline, _, answer, _, there, Call.identified_iff.mpr rfl,
      decides.trans (decided.trans told), either, tells, rfl⟩

namespace Sample

/-- An environment that says nothing but this timeout. -/
def timed (text : String) (name : String) : Option String :=
  if name = "REQUEST_TIMEOUT_MS" then some text else none

/-- The service over the house with this timeout. -/
def timedService (text : String) : Surroundings :=
  { service with config := .ofEnvironment (timed text) }

private theorem sets_longest : Config.Sets "18446744073709551615" 18446744073709551615 :=
  ⟨by decide, _, .inl rfl, by decide, by decide, by decide⟩

end Sample

/-- With the longest timeout of all the call of the holder is decided within the default one. -/
theorem longest_timeout_answered :
    ∃ answer after, (Sample.timedService "18446744073709551615").respond Sample.holderCall =
      .answered answer after ∧ answer.Approves "trace-1" := by
  have given : Sample.timed "18446744073709551615" "REQUEST_TIMEOUT_MS" =
      some "18446744073709551615" := rfl
  have dated : (Sample.timedService "18446744073709551615").progress.clock.Readable := by
    decide +kernel
  obtain ⟨deadline, id, answer, after, there, named, answered, -, tells, -⟩ :=
    (answered_unless_overrun given Sample.sets_longest rfl dated rfl (by decide +kernel)
      Sample.holderCall_read Sample.holderSubmission_asks).2
      (fun overruns => absurd overruns.1 (by decide))
  obtain rfl : "trace-1" = id :=
    (Call.identified_iff.mp Sample.holderCall_identified).trans (Call.identified_iff.mp named).symm
  have default : (Sample.timedService "18446744073709551615").progress.clock.addMillis? 2000 =
    some ⟨2, 0, by decide⟩ := by decide +kernel
  obtain rfl : _ = deadline := Option.some.inj (default.symm.trans there)
  exact ⟨answer, after, answered, tells.approves.mpr (by decide +kernel)⟩

/-- A timeout of 10¹⁸ milliseconds is accepted, and the calendar ends before it does. The call of
the holder is then dropped. -/
theorem overlong_timeout_drops_call :
    Config.Sets "1000000000000000000" 1000000000000000000 ∧
      (Sample.timedService "1000000000000000000").progress.clock.Readable ∧
      Sample.holderCall.submission = .ok Sample.holderSubmission ∧
      Sample.holderSubmission.Asks (.ok .unscoped) ∧
      (Sample.timedService "1000000000000000000").respond Sample.holderCall = .dropped := by
  refine ⟨⟨by decide, _, .inl rfl, by decide, by decide, by decide⟩, by decide +kernel,
    Sample.holderCall_read, Sample.holderSubmission_asks, ?_⟩
  have posted : Sample.holderCall.method = "POST" := rfl
  have addressed : Sample.holderCall.path = "/v1/authorize" := by decide +kernel
  have asked : Surroundings.scopeOf Sample.holderSubmission = .ok .unscoped :=
    Scope.asked_iff.mp Sample.holderSubmission_asks
  have late : (Sample.timedService "1000000000000000000").progress.clock.addMillis?
      (Surroundings.allowance (Sample.timedService "1000000000000000000").config) = none := by
    decide +kernel
  simp only [Surroundings.respond_eq posted addressed, Surroundings.authorizeCall,
    Sample.holderCall_read, asked, Surroundings.decide, late]

end Gatehouse.Service
