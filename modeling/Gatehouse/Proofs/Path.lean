import Gatehouse.Proofs.Timing

/-! # The way through an inquiry

The lookups of a run lie on one path through the inquiry, on which every answer is the storage's own
or a failure. A path through a sequence ends in the first part, or it goes through that part to a
result and on from there. So what a whole decision asks is read off its stages.

The lookup at one place of a run can be made to fail. Up to that place nothing changes; then the
inquiry goes on with the failure as its answer.
-/

namespace Gatehouse

namespace Inquiry

variable {α β : Type} {storage : Storage} {i : Inquiry α} {f : α → Inquiry β} {qs : List Lookup}

/-- With these lookups, in order, one comes from an inquiry to what is left of it. The answers are
the storage's own or failures. -/
inductive Path (storage : Storage) : Inquiry α → List Lookup → Inquiry α → Prop
  | here (i : Inquiry α) : Path storage i [] i
  | on {q : Lookup} {next : q.Reply → Inquiry α} {reply : q.Reply} {qs : List Lookup}
      {j : Inquiry α} (told : reply = storage q ∨ ∃ failure, reply = .error failure)
      (later : Path storage (next reply) qs j) : Path storage (.ask q next) (q :: qs) j

/-- What is at the end of a path is within reach. -/
theorem Path.reaches {a : α} (path : i.Path storage qs (.decided a)) :
    i.Reaches (· = storage) a := by
  generalize ended : (decided a : Inquiry α) = j at path
  induction path with
  | here i =>
    rw [← ended]
    exact .decided a
  | on told later ih =>
    rcases told with rfl | ⟨failure, rfl⟩
    · exact .told rfl (ih ended)
    · exact .failed failure (ih ended)

theorem path_bind_cases {k : Inquiry β} (path : (i >>= f).Path storage qs k) :
    (∃ j, i.Path storage qs j ∧ (∀ a, j ≠ .decided a) ∧ k = (j >>= f)) ∨
      ∃ before a after, qs = before ++ after ∧ i.Path storage before (.decided a) ∧
        (f a).Path storage after k := by
  induction i generalizing qs with
  | decided a => exact .inr ⟨[], a, qs, rfl, .here _, path⟩
  | refused r =>
    cases path with
    | here => exact .inl ⟨.refused r, .here _, nofun, rfl⟩
  | ask q next ih =>
    cases path with
    | here => exact .inl ⟨.ask q next, .here _, nofun, rfl⟩
    | on told later =>
      rcases ih _ later with ⟨j, first, open_, rfl⟩ | ⟨before, a, after, rfl, first, second⟩
      · exact .inl ⟨j, .on told first, open_, rfl⟩
      · exact .inr ⟨q :: before, a, after, rfl, .on told first, second⟩

/-- A lookup of a sequence is one of the first part, or one that comes after it. -/
theorem ask_path_bind_cases {q : Lookup} {next : q.Reply → Inquiry β}
    (path : (i >>= f).Path storage qs (.ask q next)) :
    (∃ next', i.Path storage qs (.ask q next') ∧ ∀ reply, next reply = (next' reply >>= f)) ∨
      ∃ before a after, qs = before ++ after ∧ i.Path storage before (.decided a) ∧
        (f a).Path storage after (.ask q next) := by
  refine (path_bind_cases path).imp_left ?_
  rintro ⟨j, first, undecided, same⟩
  cases j with
  | decided a => exact (undecided a rfl).elim
  | refused r => cases same
  | ask q' next' =>
    cases same
    exact ⟨next', first, fun _ => rfl⟩

theorem Silent.path {j : Inquiry α} (silent : i.Silent) (path : i.Path storage qs j) :
    qs = [] ∧ j = i := by
  cases path with
  | here => exact ⟨rfl, rfl⟩
  | on told later => exact silent.elim

/-- The inquiry asks this lookup and then nothing. -/
def Single (q : Lookup) (i : Inquiry α) : Prop :=
  ∃ next, i = .ask q next ∧ ∀ reply, (next reply).Silent

theorem Single.bind {q : Lookup} (first : i.Single q) (second : ∀ a, (f a).Silent) :
    (i >>= f).Single q := by
  obtain ⟨next, rfl, ends⟩ := first
  exact ⟨_, rfl, fun reply => (ends reply).bind second⟩

theorem single_find? (origin : String) (q : Lookup) : (find? origin q).Single q := by
  refine ⟨_, rfl, fun reply => ?_⟩
  obtain ⟨⟨⟩ | _⟩ | found := reply <;> trivial

theorem Single.path {q : Lookup} {j : Inquiry α} (single : i.Single q)
    (path : i.Path storage qs j) : qs = [] ∧ j = i ∨ qs = [q] ∧ j.Silent := by
  obtain ⟨next, rfl, ends⟩ := single
  cases path with
  | here => exact .inl ⟨rfl, rfl⟩
  | on told later =>
    obtain ⟨rfl, rfl⟩ := (ends _).path later
    exact .inr ⟨rfl, ends _⟩

/-- To come to a result the lookup has to be made. -/
theorem Single.path_decided {q : Lookup} {a : α} (single : i.Single q)
    (path : i.Path storage qs (.decided a)) : qs = [q] := by
  rcases single.path path with ⟨-, same⟩ | ⟨asked, -⟩
  · obtain ⟨next, rfl, -⟩ := single
    cases same
  · exact asked

/-- Whatever it is told, the inquiry asks at most so many lookups. -/
def AtMost : Inquiry α → Nat → Prop
  | .decided _, _ | .refused _, _ => True
  | .ask _ _, 0 => False
  | .ask _ next, n + 1 => ∀ reply, (next reply).AtMost n

theorem AtMost.mono {m n : Nat} (bounded : i.AtMost m) (le : m ≤ n) : i.AtMost n := by
  induction i generalizing m n with
  | decided a => trivial
  | refused r => trivial
  | ask q next ih =>
    cases m with
    | zero => exact bounded.elim
    | succ m =>
      obtain ⟨n, rfl⟩ : ∃ k, n = k + 1 := ⟨n - 1, by omega⟩
      exact fun reply => ih reply (bounded reply) (by omega)

theorem AtMost.bind {m n : Nat} (first : i.AtMost m) (second : ∀ a, (f a).AtMost n) :
    (i >>= f).AtMost (m + n) := by
  induction i generalizing m with
  | decided a => exact (second a).mono (by omega)
  | refused r => trivial
  | ask q next ih =>
    cases m with
    | zero => exact first.elim
    | succ m =>
      rw [Nat.add_right_comm]
      exact fun reply => ih reply (first reply)

theorem Silent.atMost (silent : i.Silent) (n : Nat) : i.AtMost n := by
  cases i with
  | decided a => trivial
  | refused r => trivial
  | ask q next => exact silent.elim

theorem Single.atMost {q : Lookup} (single : i.Single q) : i.AtMost 1 := by
  obtain ⟨next, rfl, ends⟩ := single
  exact fun reply => (ends reply).atMost 0

theorem AtMost.path_length {n : Nat} (bounded : i.AtMost n) {j : Inquiry α}
    (path : i.Path storage qs j) : qs.length ≤ n := by
  induction path generalizing n with
  | here i => exact Nat.zero_le _
  | on told later ih =>
    cases n with
    | zero => exact bounded.elim
    | succ n => exact Nat.succ_le_succ (ih (bounded _))

end Inquiry

namespace Conditions

variable {α : Type} {c : Conditions} {i j : Inquiry α} {p p' : Progress} {q : Lookup}

/-- An answer is the storage's own or a failure, and the lookup is added to the list. -/
theorem told_of_answered {reply : q.Reply} (answered : c.guarded q p = .answered reply p') :
    (reply = c.storage q ∨ ∃ failure, reply = .error failure) ∧ p'.asked = p.asked ++ [q] := by
  obtain ⟨time, -, asked⟩ := guarded_eq_answered answered
  refine ⟨(answer_eq_answered time asked).symm.imp_left And.left, ?_⟩
  have fate := fate Unit c q p
  rw [answered] at fate
  cases fate with
  | answered same => exact same

/-- The lookups of a run lie on a path. -/
theorem run_path (c : Conditions) (i : Inquiry α) (p : Progress) :
    ∃ qs j, (c.run i p).2.asked = p.asked ++ qs ∧ i.Path c.storage qs j := by
  induction i generalizing p with
  | decided a | refused r => exact ⟨[], _, (List.append_nil _).symm, .here _⟩
  | ask q next ih =>
    simp only [run]
    cases outcome : c.guarded q p with
    | answered reply between =>
      obtain ⟨told, asked⟩ := told_of_answered outcome
      obtain ⟨qs, j, more, path⟩ := ih reply between
      refine ⟨q :: qs, j, ?_, .on told path⟩
      rw [more, asked, List.append_assoc, List.singleton_append]
    | interrupted r p' | hung p' =>
      have fate := fate α c q p
      rw [outcome] at fate
      cases fate with
      | _ halts =>
        rcases halts.asked_cases with same | ⟨more, -⟩
        · exact ⟨[], _, same.trans (List.append_nil _).symm, .here _⟩
        · exact ⟨[q], _, more, .on (.inr ⟨.noRows, rfl⟩) (.here _)⟩

theorem Comes.path (comes : c.Comes i p j p') :
    ∃ qs, p'.asked = p.asked ++ qs ∧ i.Path c.storage qs j := by
  induction comes with
  | here i p => exact ⟨[], (List.append_nil _).symm, .here i⟩
  | on answered later ih =>
    obtain ⟨told, asked⟩ := told_of_answered answered
    obtain ⟨qs, more, path⟩ := ih
    refine ⟨_ :: qs, ?_, .on told path⟩
    rw [more, asked, List.append_assoc, List.singleton_append]

/-- A run comes to each of its lookups in time and before the token has fired. -/
theorem exists_comes_ask (i : Inquiry α) {p : Progress} {k : Nat} (start : p.asked.length ≤ k)
    (there : k < (c.run i p).2.asked.length) :
    ∃ q next reached, c.Comes i p (.ask q next) reached ∧
      (c.run i p).2.asked.take (k + 1) = reached.asked ++ [q] ∧ reached.asked.length = k ∧
      ¬ c.Late reached ∧ reached.cancelled = false := by
  induction i generalizing p with
  | decided a | refused r => exact (Nat.not_lt.mpr start there).elim
  | ask q next ih =>
    simp only [run] at there ⊢
    cases outcome : c.guarded q p with
    | answered reply between =>
      obtain ⟨-, asked⟩ := told_of_answered outcome
      simp only [outcome] at there
      rcases Nat.lt_or_eq_of_le start with later | here
      · have more : between.asked.length ≤ k := by
          rw [asked, List.length_append]
          exact later
        obtain ⟨q', next', reached, comes, rest⟩ := ih reply more there
        exact ⟨q', next', reached, .on outcome comes, rest⟩
      · obtain ⟨time, live, -⟩ := guarded_eq_answered outcome
        refine ⟨q, next, p, .here _ p, ?_, here, ?_, live⟩
        · have first := asked_prefix_run c (next reply) between
          rw [asked] at first
          have all := List.prefix_iff_eq_take.mp first
          rw [List.length_append, here] at all
          exact all.symm
        · rintro ⟨nanos, left, late⟩
          exact Int.not_lt.mpr late (time nanos left)
    | interrupted r p' | hung p' =>
      have fate := fate α c q p
      rw [outcome] at fate
      simp only [outcome] at there
      cases fate with
      | _ halts =>
        rcases halts.asked_cases with same | ⟨more, early, live⟩
        · exact (Nat.not_lt.mpr start (same ▸ there)).elim
        · simp only [more, List.length_append, List.length_singleton] at there ⊢
          have here : p.asked.length = k := by omega
          refine ⟨q, next, p, .here _ p, List.take_of_length_le ?_, here, early, live⟩
          rw [List.length_append, here]
          exact Nat.le_refl _

/-- The same conditions, but with this fault at one place of the run. -/
def failing (c : Conditions) (k : Nat) (fault : Fault) : Conditions :=
  { c with fault := fun asked q => if asked.length = k then some fault else c.fault asked q }

variable {k : Nat} {fault : Fault}

private theorem guarded_failing (elsewhere : p.asked.length ≠ k) :
    (c.failing k fault).guarded q p = c.guarded q p := by
  have same : (c.failing k fault).fault p.asked q = c.fault p.asked q := if_neg elsewhere
  simp only [guarded, answer, same]
  rfl

/-- Up to the place of the fault a run comes the same way. -/
theorem Comes.failing (comes : c.Comes i p j p') (before : p'.asked.length ≤ k) :
    (c.failing k fault).Comes i p j p' := by
  induction comes with
  | here i p => exact .here i p
  | @on q next p between p' reply j answered later ih =>
    refine .on ?_ (ih before)
    obtain ⟨-, asked⟩ := told_of_answered answered
    obtain ⟨qs, more, -⟩ := later.path
    rw [guarded_failing, answered]
    -- the lookup is added to the list, which only grows from there
    intro here
    rw [more, asked] at before
    simp only [List.length_append, List.length_singleton] at before
    omega

end Conditions

/-- The failure that a fault answers with, if it is not a fault of time. -/
def Fault.failure? : Fault → Option LookupFailure
  | .noRows => some .noRows
  | .backend report => some (.backend report [])
  | .hang | .delay _ | .cancel | .cancelAndHang => none

namespace Conditions

variable {α : Type} {c : Conditions} {i : Inquiry α} {p : Progress} {q : Lookup} {k : Nat}
  {fault : Fault} {failure : LookupFailure}

private theorem guarded_failing_here (fails : fault.failure? = some failure) (early : ¬ c.Late p)
    (live : p.cancelled = false) (here : p.asked.length = k) :
    (c.failing k fault).guarded q p =
      .answered (.error failure) { p with asked := p.asked ++ [q] } := by
  have there : (c.failing k fault).fault p.asked q = some fault := if_pos here
  have answered : (c.failing k fault).answer q p =
      .answered (.error failure) { p with asked := p.asked ++ [q] } := by
    unfold answer
    simp only [there]
    cases fault <;> cases fails <;> rfl
  have left : (c.failing k fault).left p = c.left p := rfl
  unfold guarded
  rw [left]
  cases remaining : c.left p with
  | none => simp only [live, Bool.false_eq_true, ↓reduceIte, answered]
  | some nanos =>
    have positive : ¬ nanos ≤ 0 := fun late => early ⟨nanos, remaining, late⟩
    simp only [positive, live, Bool.false_eq_true, ↓reduceIte, answered]

/-- A run whose lookup at some place fails makes the same lookups up to this one, and goes on with
the failure as its answer. -/
theorem run_failing (fails : fault.failure? = some failure) (i : Inquiry α) {p : Progress}
    (fresh : p.asked = []) (there : (c.run i p).2.asked[k]? = some q) :
    ∃ next reached, i.Path c.storage ((c.run i p).2.asked.take k) (.ask q next) ∧
      reached.asked = (c.run i p).2.asked.take (k + 1) ∧
      (c.failing k fault).run i p = (c.failing k fault).run (next (.error failure)) reached := by
  obtain ⟨inside, found⟩ := List.getElem?_eq_some_iff.mp there
  obtain ⟨q', next, reached, comes, taken, here, early, live⟩ :=
    exists_comes_ask i (fresh ▸ Nat.zero_le k) inside
  rw [← List.take_append_getElem inside, found] at taken
  obtain ⟨sofar, last⟩ := List.append_inj' taken rfl
  cases last
  obtain ⟨qs, asked, path⟩ := comes.path
  rw [fresh, List.nil_append] at asked
  refine ⟨next, { reached with asked := reached.asked ++ [q] }, ?_, ?_, ?_⟩
  · rw [sofar, asked]
    exact path
  · rw [← List.take_append_getElem inside, found, sofar]
  · rw [(comes.failing (Nat.le_of_eq here)).run, run, guarded_failing_here fails early live here]

end Conditions

end Gatehouse
