import Gatehouse.Proofs.Faults

/-! # What time does to a run

A run against time goes the way of the run that time leaves alone, lookup by lookup and answer by
answer, until a lookup is refused or interrupted. There it stops, with the one reason that holds at
that lookup; the reasons exclude each other.
-/

namespace Gatehouse

/-- Whether a fault is one of time. The others are answers. -/
def Fault.timing : Fault → Bool
  | .noRows | .backend _ => false
  | .hang | .delay _ | .cancel | .cancelAndHang => true

namespace Conditions

variable {c : Conditions} {q : Lookup} {p p' : Progress} {α : Type}

/-- The same conditions with neither a deadline nor faults of time. -/
def untimed (c : Conditions) : Conditions :=
  { c with
    deadline := none
    fault := fun asked q => (c.fault asked q).filter fun fault => !fault.timing }

/-- If there are no other faults than those of time, a run without them is calm. -/
theorem untimed_eq_calm (timed : ∀ asked q, ∀ fault ∈ c.fault asked q, fault.timing = true) :
    c.untimed = calm c.storage c.latency := by
  have none_left : (fun asked q => (c.fault asked q).filter fun fault => !fault.timing) =
      fun _ _ => none := by
    funext asked q
    refine Option.filter_eq_none_iff.mpr fun fault there => ?_
    simp [timed asked q fault there]
  rw [untimed, none_left]
  rfl

/-- The answer to a lookup, if it comes. -/
def told (c : Conditions) (asked : List Lookup) (q : Lookup) : q.Reply :=
  match c.fault asked q with
  | some .noRows => .error .noRows
  | some (.backend report) => .error (.backend report [])
  | _ => c.storage q

/-- The milliseconds until the answer to a lookup comes; `none` if it never does. -/
def wait? (c : Conditions) (asked : List Lookup) (q : Lookup) : Option Nat :=
  match c.fault asked q with
  | none | some .cancel => some (c.latency.getD 0)
  | some (.delay millis) => some (millis + c.latency.getD 0)
  | some .noRows | some (.backend _) => some 0
  | some .hang | some .cancelAndHang => none

/-- The token fires while the lookup is waiting for its answer. -/
def Fires (c : Conditions) (asked : List Lookup) (q : Lookup) : Prop :=
  c.fault asked q = some .cancelAndHang ∨ c.fault asked q = some .cancel ∧ c.latency ≠ none

/-- The deadline is reached. -/
def Late (c : Conditions) (p : Progress) : Prop := ∃ nanos ∈ c.left p, nanos ≤ 0

/-- How a run is stopped at a lookup that it is about to make, with the lookups that have been asked
by then. The deadline is tested before the token. A lookup that is asked waits for its answer, for
the token and for the deadline. -/
inductive Halts (c : Conditions) (q : Lookup) (p : Progress) : Ending α → List Lookup → Prop
  | late (late : c.Late p) : Halts c q p (.refused .deadlineExceeded) p.asked
  | dead (early : ¬ c.Late p) (dead : p.cancelled = true) :
      Halts c q p (.refused .cancelled) p.asked
  | fires (early : ¬ c.Late p) (live : p.cancelled = false) (fires : c.Fires p.asked q) :
      Halts c q p (.refused .cancelled) (p.asked ++ [q])
  | expires (early : ¬ c.Late p) (live : p.cancelled = false) (quiet : ¬ c.Fires p.asked q)
      (limited : c.deadline ≠ none)
      (long : ∀ millis ∈ c.wait? p.asked q, allows (c.left p) millis = false) :
      Halts c q p (.refused .deadlineExceeded) (p.asked ++ [q])
  | hangs (early : ¬ c.Late p) (live : p.cancelled = false) (quiet : ¬ c.Fires p.asked q)
      (unlimited : c.deadline = none) (silent : c.wait? p.asked q = none) :
      Halts c q p .hung (p.asked ++ [q])

/-- What becomes of a lookup: it is answered, or it stops the run. -/
inductive Fate (α : Type) (c : Conditions) (q : Lookup) (p : Progress) : Outcome q → Prop
  | answered {p' : Progress} (asked : p'.asked = p.asked ++ [q]) :
      Fate α c q p (.answered (c.told p.asked q) p')
  | interrupted {r : Refusal} {p' : Progress}
      (halts : c.Halts q p (.refused r : Ending α) p'.asked) : Fate α c q p (.interrupted r p')
  | hung {p' : Progress} (halts : c.Halts q p (.hung : Ending α) p'.asked) :
      Fate α c q p (.hung p')

theorem Fate.known {reply : q.Reply} (known : c.told p.asked q = reply)
    (asked : p'.asked = p.asked ++ [q]) : Fate α c q p (.answered reply p') :=
  known ▸ .answered asked

/-- Only where there is a deadline can time be short. -/
theorem limited_of_not_allows {millis : Int} (short : allows (c.left p) millis = false) :
    c.deadline ≠ none := by
  intro unlimited
  rw [left, unlimited] at short
  cases short

/-- What becomes of a lookup that is answered by the storage unless time is too short. -/
theorem fate_reply (early : ¬ c.Late p) (live : p.cancelled = false) (quiet : ¬ c.Fires p.asked q)
    (told : c.told p.asked q = c.storage q) {waited : Nat}
    (wait : c.wait? p.asked q = some (waited + c.latency.getD 0)) {next : Progress}
    (asked : next.asked = p.asked ++ [q]) : Fate α c q p (c.reply q (c.left p) waited next) := by
  unfold reply
  split
  · exact .known told asked
  · next short =>
    have short := eq_false_of_ne_true short
    refine .interrupted (asked ▸ .expires early live quiet (limited_of_not_allows short) ?_)
    intro millis last
    cases wait.symm.trans last
    exact_mod_cast short

/-- What becomes of a lookup that is asked in time and before the token has fired. -/
theorem fate_answer (early : ¬ c.Late p) (live : p.cancelled = false) :
    Fate α c q p (c.answer q p) := by
  have quiet {fault : Option Fault} (here : c.fault p.asked q = fault)
      (other : fault ≠ some .cancelAndHang ∧ fault ≠ some .cancel) : ¬ c.Fires p.asked q := by
    rintro (fires | ⟨fires, -⟩)
    · exact other.1 (here.symm.trans fires)
    · exact other.2 (here.symm.trans fires)
  unfold answer
  cases fault : c.fault p.asked q with
  | none =>
    refine fate_reply early live (quiet fault (by decide)) (by rw [told, fault]) ?_ rfl
    rw [wait?, fault, Nat.zero_add]
  | some kind =>
    cases kind with
    | noRows => exact .known (by rw [told, fault]) rfl
    | backend report => exact .known (by rw [told, fault]) rfl
    | hang =>
      have silent : c.wait? p.asked q = none := by rw [wait?, fault]
      have quiet := quiet fault (by decide)
      cases deadline : c.deadline with
      | none => exact .hung (.hangs early live quiet deadline silent)
      | some moment =>
        refine .interrupted (.expires early live quiet (by simp [deadline]) ?_)
        simp [silent]
    | delay millis =>
      have wait : c.wait? p.asked q = some (millis + c.latency.getD 0) := by rw [wait?, fault]
      have quiet := quiet fault (by simp)
      by_cases enough : allows (c.left p) millis = true
      · simp only [if_pos enough]
        exact fate_reply early live quiet (by rw [told, fault]) wait rfl
      · simp only [if_neg enough]
        have short := eq_false_of_ne_true enough
        refine .interrupted (.expires early live quiet (limited_of_not_allows short) ?_)
        intro millis' last
        cases wait.symm.trans last
        refine eq_false_of_ne_true fun longer => enough (allows_of_le longer ?_)
        exact_mod_cast Nat.le_add_right ..
    | cancel =>
      by_cases instant : c.latency = none
      · simp only [if_pos instant]
        exact .known (by rw [told, fault]) rfl
      · simp only [if_neg instant]
        exact .interrupted (.fires early live (.inr ⟨fault, instant⟩))
    | cancelAndHang => exact .interrupted (.fires early live (.inl fault))

/-- What becomes of a lookup that is about to be made. -/
theorem fate (α : Type) (c : Conditions) (q : Lookup) (p : Progress) :
    Fate α c q p (c.guarded q p) := by
  have polled (early : ¬ c.Late p) :
      Fate α c q p (if p.cancelled then .interrupted .cancelled p else c.answer q p) := by
    cases token : p.cancelled with
    | true => exact .interrupted (.dead early token)
    | false => exact fate_answer early token
  unfold guarded
  cases left : c.left p with
  | none => exact polled (by simp [Late, left])
  | some nanos =>
    by_cases late : nanos ≤ 0
    · simp only [if_pos late]
      exact .interrupted (.late ⟨nanos, left, late⟩)
    · simp only [if_neg late]
      exact polled (by simpa [Late, left] using late)

/-- Where time is left out, every lookup is answered as it is with time. -/
theorem guarded_untimed (live : p.cancelled = false) :
    c.untimed.guarded q p = .answered (c.told p.asked q) { p with asked := p.asked ++ [q] } := by
  have left : c.untimed.left p = none := rfl
  have kept : c.untimed.fault p.asked q = (c.fault p.asked q).filter fun fault => !fault.timing :=
    rfl
  simp only [guarded, left, live, Bool.false_eq_true, ↓reduceIte, answer, kept, told]
  cases c.fault p.asked q with
  | none => rfl
  | some kind => cases kind <;> rfl

/-- The answered lookups bring a run from one moment to another: what is left of the inquiry, and
how far the run has come. -/
inductive Comes (c : Conditions) : Inquiry α → Progress → Inquiry α → Progress → Prop
  | here (i : Inquiry α) (p : Progress) : Comes c i p i p
  | on {q : Lookup} {next : q.Reply → Inquiry α} {p between p' : Progress} {reply : q.Reply}
      {j : Inquiry α} (answered : c.guarded q p = .answered reply between)
      (later : Comes c (next reply) between j p') : Comes c (.ask q next) p j p'

/-- From every moment a run goes on as it would from there. -/
theorem Comes.run {i j : Inquiry α} (comes : c.Comes i p j p') : c.run i p = c.run j p' := by
  induction comes with
  | here i p => rfl
  | on answered later ih => simp only [Conditions.run, answered, ih]

/-- Once the deadline is reached or the token has fired, no lookup is asked. -/
theorem asked_run_of_ended {i : Inquiry α} (ended : c.Late p ∨ p.cancelled = true) :
    (c.run i p).2.asked = p.asked := by
  cases i with
  | decided a | refused r => rfl
  | ask q next =>
    obtain ⟨nanos, left, late⟩ | token := ended
    · simp only [Conditions.run, guarded, Option.mem_def.mp left, if_pos late]
    · have stopped : ∃ r, c.guarded q p = .interrupted r p := by
        unfold guarded
        simp only [token, if_true]
        split
        · split <;> exact ⟨_, rfl⟩
        · exact ⟨_, rfl⟩
      obtain ⟨r, stopped⟩ := stopped
      simp only [Conditions.run, stopped]

theorem Halts.asked_cases {ending : Ending α} {asked : List Lookup}
    (halts : c.Halts q p ending asked) :
    asked = p.asked ∨ asked = p.asked ++ [q] ∧ ¬ c.Late p ∧ p.cancelled = false := by
  cases halts with
  | late | dead => exact .inl rfl
  | fires early live | expires early live | hangs early live => exact .inr ⟨rfl, early, live⟩

/-- A run adds lookups to the list. -/
theorem asked_prefix_run (c : Conditions) (i : Inquiry α) (p : Progress) :
    p.asked <+: (c.run i p).2.asked := by
  induction i generalizing p with
  | decided a | refused r => exact List.prefix_rfl
  | ask q next ih =>
    have fate := fate α c q p
    simp only [Conditions.run]
    generalize c.guarded q p = outcome at fate
    cases fate with
    | answered asked => exact (asked ▸ List.prefix_append ..).trans (ih _ _)
    | interrupted halts | hung halts =>
      rcases halts.asked_cases with same | ⟨more, -⟩
      · exact same ▸ List.prefix_rfl
      · exact more ▸ List.prefix_append ..

/-- A run comes to the end of the run that time leaves alone, or it is stopped on the way. -/
theorem run_truncated (c : Conditions) (i : Inquiry α) (p calm : Progress)
    (same : calm.asked = p.asked) (live : calm.cancelled = false) :
    ∃ j reached, c.Comes i p j reached ∧
      ((reached.asked = (c.untimed.run i calm).2.asked ∧
          (c.run i p).1 = (c.untimed.run i calm).1 ∧ (c.run i p).2.asked = reached.asked) ∨
        ∃ q rest, (c.untimed.run i calm).2.asked = reached.asked ++ q :: rest ∧
          c.Halts q reached (c.run i p).1 (c.run i p).2.asked) := by
  induction i generalizing p calm with
  | decided a | refused r => exact ⟨_, _, .here _ p, .inl ⟨same.symm, rfl, rfl⟩⟩
  | ask q next ih =>
    have fate := fate α c q p
    have answered := guarded_untimed (c := c) (q := q) live
    rw [same] at answered
    generalize hence : ({ calm with asked := p.asked ++ [q] } : Progress) = calm' at answered
    have asked : calm'.asked = p.asked ++ [q] := hence ▸ rfl
    have more : ∃ rest, (c.untimed.run (next (c.told p.asked q)) calm').2.asked =
        p.asked ++ q :: rest := by
      obtain ⟨rest, all⟩ := asked_prefix_run c.untimed (next (c.told p.asked q)) calm'
      exact ⟨rest, by rw [← all, asked, List.append_assoc, List.singleton_append]⟩
    simp only [Conditions.run, answered]
    cases outcome : c.guarded q p with
    | answered reply between =>
      rw [outcome] at fate
      cases fate with
      | answered same =>
        obtain ⟨j, reached, comes, rest⟩ :=
          ih (c.told p.asked q) between calm' (asked.trans same.symm) (hence ▸ live)
        exact ⟨j, reached, .on outcome comes, rest⟩
    | interrupted r p' | hung p' =>
      rw [outcome] at fate
      cases fate with
      | _ halts =>
        obtain ⟨rest, all⟩ := more
        exact ⟨_, _, .here _ p, .inr ⟨q, rest, all, halts⟩⟩

/-- Time makes a run ask fewer lookups, never others. -/
theorem asked_prefix_untimed (c : Conditions) (i : Inquiry α) (p calm : Progress)
    (same : calm.asked = p.asked) (live : calm.cancelled = false) :
    (c.run i p).2.asked <+: (c.untimed.run i calm).2.asked := by
  obtain ⟨j, reached, -, ⟨all, -, asked⟩ | ⟨q, rest, more, halts⟩⟩ :=
    c.run_truncated i p calm same live
  · exact (asked.trans all) ▸ List.prefix_rfl
  · rw [more]
    rcases halts.asked_cases with none_asked | ⟨one_asked, -⟩
    · exact none_asked ▸ List.prefix_append ..
    · exact ⟨rest, by rw [one_asked, List.append_assoc, List.singleton_append]⟩

end Conditions

end Gatehouse
