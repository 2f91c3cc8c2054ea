import Gatehouse.Proofs.Reach

/-! # Runs under faults

An answered lookup was asked in time and before the token fired, and its answer is a failure or the
storage's own. So whatever the faults are, a run comes to what is within reach of its storage. The
faults may also have hidden that time was short; but a run whose first lookup must find something
has found it in time, and without faults the clock stands still.
-/

namespace Gatehouse

namespace Conditions

/-- The same conditions without faults. -/
def faultless (c : Conditions) : Conditions := { c with fault := fun _ _ => none }

theorem allows_of_le {left : Option Int} {m n : Int} (enough : allows left m = true) (le : n ≤ m) :
    allows left n = true := by
  cases left with
  | none => rfl
  | some nanos =>
    simp only [allows, decide_eq_true_eq] at enough ⊢
    omega

/-- A lookup that is answered was asked in time and before the token fired. -/
theorem guarded_eq_answered {c : Conditions} {q : Lookup} {p p' : Progress} {reply : q.Reply}
    (answered : c.guarded q p = .answered reply p') :
    (∀ nanos ∈ c.left p, 0 < nanos) ∧ p.cancelled = false ∧ c.answer q p = .answered reply p' := by
  unfold guarded at answered
  cases left : c.left p with
  | none =>
    simp only [left] at answered
    split at answered
    · cases answered
    · next live => exact ⟨by simp, eq_false_of_ne_true live, answered⟩
  | some nanos =>
    simp only [left] at answered
    split at answered
    · cases answered
    · split at answered
      · cases answered
      · next time live =>
        refine ⟨?_, eq_false_of_ne_true live, answered⟩
        simp only [Option.mem_some_iff, forall_eq']
        omega

/-- An answer is a failure, or it is the storage's own and comes in time even without its fault. -/
theorem answer_eq_answered {c : Conditions} {q : Lookup} {p p' : Progress} {reply : q.Reply}
    (time : ∀ nanos ∈ c.left p, 0 < nanos) (answered : c.answer q p = .answered reply p') :
    (∃ failure, reply = .error failure) ∨
      reply = c.storage q ∧ allows (c.left p) (c.latency.getD 0) = true := by
  have genuine {waited : Nat} {next : Progress}
      (answered : c.reply q (c.left p) waited next = .answered reply p') :
      reply = c.storage q ∧ allows (c.left p) (c.latency.getD 0) = true := by
    unfold Conditions.reply at answered
    split at answered
    · next enough =>
      cases answered
      exact ⟨rfl, allows_of_le enough (by omega)⟩
    · cases answered
  unfold answer at answered
  cases fault : c.fault p.asked q with
  | none =>
    simp only [fault] at answered
    exact .inr (genuine answered)
  | some fault' =>
    cases fault' <;> simp only [fault] at answered
    case noRows =>
      cases answered
      exact .inl ⟨_, rfl⟩
    case backend report =>
      cases answered
      exact .inl ⟨_, rfl⟩
    case hang => split at answered <;> cases answered
    case delay millis =>
      split at answered
      · exact .inr (genuine answered)
      · cases answered
    case cancel =>
      split at answered
      · next instant =>
        cases answered
        refine .inr ⟨rfl, ?_⟩
        -- what answers in the moment it is asked is in time if anything is
        cases left : c.left p with
        | none => rfl
        | some nanos =>
          have positive := time nanos left
          simp only [allows, instant, Option.getD_none, decide_eq_true_eq]
          omega
      · cases answered
    case cancelAndHang => cases answered

/-- Without faults the clock stands still, so what is in time once is in time for all lookups. -/
theorem clear_faultless {c : Conditions} {p : Progress} (time : ∀ nanos ∈ c.left p, 0 < nanos)
    (enough : allows (c.left p) (c.latency.getD 0) = true) : c.faultless.Clear p.clock := by
  intro q p' clock live
  have left : c.faultless.left p' = c.left p := by
    simp only [Conditions.left, faultless, clock]
  have answered : c.faultless.answer q p' =
      .answered (c.faultless.storage q) { p' with asked := p'.asked ++ [q] } := by
    simp only [answer, reply, left]
    simp only [faultless, Int.natCast_zero, Int.zero_add, enough, ↓reduceIte]
  unfold guarded
  rw [left]
  cases remaining : c.left p with
  | none => simpa only [live, Bool.false_eq_true, ↓reduceIte] using answered
  | some nanos =>
    have positive := time nanos remaining
    simpa only [Int.not_le.mpr positive, live, Bool.false_eq_true, ↓reduceIte] using answered

/-- Whatever the faults are, a run comes to what is within reach of its storage. -/
theorem reaches_of_run_decided {c : Conditions} {α : Type} {i : Inquiry α} {p : Progress} {a : α}
    (decided : (c.run i p).1 = .decided a) : i.Reaches (· = c.storage) a := by
  induction i generalizing p with
  | decided b =>
    cases decided
    exact .decided _
  | refused r => cases decided
  | ask q next ih =>
    unfold run at decided
    cases outcome : c.guarded q p with
    | interrupted r p' =>
      rw [outcome] at decided
      cases decided
    | hung p' =>
      rw [outcome] at decided
      cases decided
    | answered reply p' =>
      rw [outcome] at decided
      obtain ⟨time, -, answered⟩ := guarded_eq_answered outcome
      rcases answer_eq_answered time answered with ⟨failure, rfl⟩ | ⟨rfl, -⟩
      · exact .failed failure (ih _ decided)
      · exact .told rfl (ih _ decided)

end Conditions

namespace Inquiry

variable {α β : Type}

/-- The first lookup, if there is one, must find something. -/
def Cautious : Inquiry α → Prop
  | .decided _ | .refused _ => True
  | .ask _ next => ∀ failure, ∃ r, next (.error failure) = .refused r

theorem Cautious.bind {i : Inquiry α} {f : α → Inquiry β} (first : i.Cautious)
    (second : ∀ a, i = .decided a → (f a).Cautious) : (i >>= f).Cautious := by
  cases i with
  | decided a => exact second a rfl
  | refused r => trivial
  | ask q next =>
    intro failure
    obtain ⟨r, refuses⟩ := first failure
    refine ⟨r, ?_⟩
    change (next (.error failure)).bind f = .refused r
    rw [refuses]
    rfl

theorem cautious_ofExcept (result : Except Refusal α) : (ofExcept result).Cautious := by
  cases result <;> trivial

/-- Nothing is asked. -/
def Silent : Inquiry α → Prop
  | .decided _ | .refused _ => True
  | .ask _ _ => False

theorem Silent.cautious {i : Inquiry α} (silent : i.Silent) : i.Cautious := by
  cases i with
  | decided a => trivial
  | refused r => trivial
  | ask q next => exact silent.elim

theorem Silent.bind {i : Inquiry α} {f : α → Inquiry β} (first : i.Silent)
    (second : ∀ a, (f a).Silent) : (i >>= f).Silent := by
  cases i with
  | decided a => exact second a
  | refused r => trivial
  | ask q next => exact first.elim

end Inquiry

namespace Conditions

/-- If the first lookup must find something and the run comes to a result, then nothing is late or
cancelled without the faults. -/
theorem clear_of_cautious {c : Conditions} {α : Type} {q : Lookup} {next : q.Reply → Inquiry α}
    (cautious : (Inquiry.ask q next).Cautious) {p : Progress} {a : α}
    (decided : (c.run (.ask q next) p).1 = .decided a) :
    c.faultless.Clear p.clock ∧ p.cancelled = false := by
  unfold run at decided
  cases outcome : c.guarded q p with
  | interrupted r p' =>
    rw [outcome] at decided
    cases decided
  | hung p' =>
    rw [outcome] at decided
    cases decided
  | answered reply p' =>
    rw [outcome] at decided
    obtain ⟨time, live, answered⟩ := guarded_eq_answered outcome
    rcases answer_eq_answered time answered with ⟨failure, rfl⟩ | ⟨-, enough⟩
    · obtain ⟨r, refuses⟩ := cautious failure
      simp only [refuses] at decided
      cases decided
    · exact ⟨clear_faultless time enough, live⟩

end Conditions

end Gatehouse
