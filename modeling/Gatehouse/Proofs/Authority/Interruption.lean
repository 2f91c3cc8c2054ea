import Gatehouse.Proofs.Authority.Verdict
import Gatehouse.Proofs.Authority.Wording
import Gatehouse.Proofs.Timing

/-! # Interrupted decisions

A decision refuses with failures only. That it was cancelled or that its deadline passed is said by
the run, where it stops at a lookup. So one can tell from the ending of a run whether it came to the
decision or was stopped on the way there.
-/

namespace Gatehouse

namespace Inquiry

variable {α : Type}

/-- Whatever it is told, the inquiry refuses with failures, never with an interruption. -/
def Conclusive : Inquiry α → Prop
  | .decided _ => True
  | .refused r => r.kind?.isSome = true
  | .ask _ next => ∀ reply, (next reply).Conclusive

private theorem Refuses.conclusive {kind : Refusal → Prop}
    (failures : ∀ r, kind r → r.kind?.isSome = true)
    {i : Inquiry α} (refuses : i.Refuses kind) : i.Conclusive := by
  induction i with
  | decided a => trivial
  | refused r => exact failures r refuses
  | ask q next ih => exact fun reply => ih reply (refuses reply)

end Inquiry

private theorem authorize_conclusive (now : Time) (claims : Option Claims) (scope : Scope)
    (request : Request) : (authorize now claims scope request).Conclusive :=
  (authorize_worded now claims scope request).conclusive fun _ worded => worded.1

namespace Conditions

variable {c : Conditions} {α : Type}

/-- An inquiry that time leaves alone ends with a conclusion of its own. -/
theorem conclusion_of_untimed {i : Inquiry α} (conclusive : i.Conclusive) {p : Progress}
    (live : p.cancelled = false) :
    (c.untimed.run i p).1 ≠ .hung ∧
      ∀ r, (c.untimed.run i p).1 = .refused r → r.kind?.isSome = true := by
  induction i generalizing p with
  | decided a => exact ⟨nofun, nofun⟩
  | refused r =>
    refine ⟨nofun, ?_⟩
    rintro _ ⟨⟩
    exact conclusive
  | ask q next ih =>
    simp only [run, guarded_untimed live]
    exact ih _ (conclusive _) live

/-- A run that is stopped ends otherwise. -/
theorem Halts.ne_untimed {i : Inquiry α} (conclusive : i.Conclusive) {calm : Progress}
    (live : calm.cancelled = false) {q : Lookup} {p : Progress} {ending : Ending α}
    {asked : List Lookup} (halts : c.Halts q p ending asked) :
    ending ≠ (c.untimed.run i calm).1 := by
  obtain ⟨ends, failure⟩ := conclusion_of_untimed (c := c) conclusive live
  rintro rfl
  generalize (c.untimed.run i calm).1 = ending at halts ends failure
  cases halts with
  | late | expires => exact Bool.noConfusion (failure .deadlineExceeded rfl)
  | dead | fires => exact Bool.noConfusion (failure .cancelled rfl)
  | hangs => exact ends rfl

/-- A run is decided, or ends with a refusal of the inquiry, or is interrupted; without a deadline
it may also wait forever. -/
theorem ending_cases (c : Conditions) {kind : Refusal → Prop} {i : Inquiry α}
    (refuses : i.Refuses kind) (p : Progress) :
    match (c.run i p).1 with
    | .decided _ => True
    | .refused r => kind r ∨ r = .cancelled ∨ r = .deadlineExceeded
    | .hung => c.deadline = none := by
  induction i generalizing p with
  | decided a => trivial
  | refused r => exact .inl refuses
  | ask q next ih =>
    have fate := fate α c q p
    simp only [run]
    generalize c.guarded q p = outcome at fate ⊢
    cases fate with
    | answered asked => exact ih _ (refuses _) _
    | @interrupted r p' halts =>
      generalize p'.asked = asked at halts
      cases halts with
      | late | expires => exact .inr (.inr rfl)
      | dead | fires => exact .inr (.inl rfl)
    | @hung p' halts =>
      generalize p'.asked = asked at halts
      cases halts with
      | hangs early live quiet unlimited silent => exact unlimited

theorem kind_of_refused {kind : Refusal → Prop} {i : Inquiry α} (refuses : i.Refuses kind)
    {p : Progress} {r : Refusal} (refused : (c.run i p).1 = .refused r) :
    kind r ∨ r = .cancelled ∨ r = .deadlineExceeded := by
  have ends := c.ending_cases refuses p
  rwa [refused] at ends

theorem deadline_of_hung {kind : Refusal → Prop} {i : Inquiry α} (refuses : i.Refuses kind)
    {p : Progress} (hung : (c.run i p).1 = .hung) : c.deadline = none := by
  have ends := c.ending_cases refuses p
  rwa [hung] at ends

end Conditions

/-- Time can only cut a decision short. Whatever the deadline is, whether the token has fired, and
however lookups are late, hang or cancel, the lookups are those that are made when time leaves the
decision alone, up to some point. If all of these are answered the ending is the same, and otherwise
the run is stopped at the first that is not, for a reason of time that holds there. Once the
deadline is reached or the token has fired, no lookup is made. Where nothing but time goes wrong, the
decision that time leaves alone is the plain one over the storage. -/
theorem time_only_truncates (c : Conditions) (now : Time) (token : Bool) (claims : Option Claims)
    (scope : Scope) (request : Request) :
    let decision := authorize now claims scope request
    let calm := c.untimed.run decision ⟨now, false, []⟩
    let timed := c.run decision ⟨now, token, []⟩
    timed.2.asked <+: calm.2.asked ∧
    (∃ rest reached, c.Comes decision ⟨now, token, []⟩ rest reached ∧
      (timed.1 = calm.1 ↔ reached.asked = calm.2.asked) ∧
      (reached.asked ≠ calm.2.asked → ∃ q more, calm.2.asked = reached.asked ++ q :: more ∧
        c.Halts q reached timed.1 timed.2.asked)) ∧
    (∀ rest reached, c.Comes decision ⟨now, token, []⟩ rest reached →
      c.Late reached ∨ reached.cancelled = true → timed.2.asked = reached.asked) ∧
    ((∀ asked q, ∀ fault ∈ c.fault asked q, fault.timing = true) →
      calm.1 = .ofResult (decision.run c.storage) ∧
        calm.2.asked = decision.asked c.storage) := by
  intro decision calm timed
  have conclusive : decision.Conclusive := authorize_conclusive now claims scope request
  obtain ⟨rest, reached, comes, way⟩ :=
    c.run_truncated decision ⟨now, token, []⟩ ⟨now, false, []⟩ rfl rfl
  refine ⟨c.asked_prefix_untimed decision _ _ rfl rfl, ⟨rest, reached, comes, ?_⟩, ?ended, ?plain⟩
  case ended =>
    intro rest reached comes ended
    have onwards : timed = c.run rest reached := comes.run
    rw [onwards, Conditions.asked_run_of_ended ended]
  case plain =>
    intro onlyTime
    have plain : calm =
        (.ofResult (decision.run c.storage), ⟨now, false, decision.asked c.storage⟩) := by
      simp only [calm, Conditions.untimed_eq_calm onlyTime, Conditions.run_calm, List.nil_append]
    exact ⟨congrArg Prod.fst plain, congrArg (·.2.asked) plain⟩
  rcases way with ⟨all, ending, -⟩ | ⟨q, more, unanswered, halts⟩
  · exact ⟨⟨fun _ => all, fun _ => ending⟩, fun short => (short all).elim⟩
  · have short : reached.asked ≠ calm.2.asked := by
      intro all
      have lengths := congrArg List.length (all.trans unanswered)
      simp at lengths
    refine ⟨⟨fun same => ?stopped, fun all => (short all).elim⟩,
      fun _ => ⟨q, more, unanswered, halts⟩⟩
    case stopped => exact (halts.ne_untimed conclusive rfl same).elim

namespace Sample

/-- Twenty milliseconds for a decision: the first lookup takes nineteen of them, every other is to
take two. -/
def hurried : Conditions where
  storage := house.storage
  deadline := some ⟨0, 20000000, by decide⟩
  latency := none
  fault asked _ := some (.delay (if asked.isEmpty then 19 else 2))

end Sample

/-- The deletion of a role is stopped at the second of the four lookups of its plain decision. -/
theorem second_lookup_late :
    let decision := authorize .epoch (some (Sample.claimsOf ⟨2⟩)) .unscoped Sample.deletion
    let timed := Sample.hurried.run decision ⟨.epoch, false, []⟩
    decision.run Sample.house.storage = .ok () ∧
      timed.1 = .refused .deadlineExceeded ∧ timed.2.asked = [.role ⟨8⟩, .server ⟨7⟩] ∧
      timed.2.asked <+: decision.asked Sample.house.storage ∧
      decision.asked Sample.house.storage =
        [.role ⟨8⟩, .server ⟨7⟩, .grantFor ⟨7⟩ ⟨2⟩, .rolesHeld ⟨7⟩ ⟨2⟩] := by
  intro decision timed
  obtain ⟨shorter, -, -, plain⟩ := time_only_truncates Sample.hurried .epoch false
    (some (Sample.claimsOf ⟨2⟩)) .unscoped Sample.deletion
  have onlyTime : ∀ asked q, ∀ fault ∈ Sample.hurried.fault asked q, fault.timing = true := by
    rintro asked q fault ⟨⟩
    rfl
  rw [(plain onlyTime).2] at shorter
  have allowed : Ending.ofResult (decision.run Sample.house.storage) = .decided () := by
    decide +kernel
  exact ⟨Ending.ofResult_eq_decided_iff.mp allowed, by decide +kernel, by decide +kernel, shorter,
    by decide +kernel⟩

end Gatehouse
