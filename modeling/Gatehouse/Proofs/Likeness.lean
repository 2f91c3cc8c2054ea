import Gatehouse.Proofs.Calm

/-! # Inquiries that cannot be told apart

Two inquiries are alike if they ask the same lookups and come to like ends, as long as they are given
like answers. What counts as like is left open: `Q` says it of answers, `E` of refusals and `R` of
results. Sequences of like inquiries are alike. Runs whose lookups are answered alike under the same
conditions ask the same lookups, end alike and take the same time.
-/

namespace Gatehouse

variable {Q : (q : Lookup) → q.Reply → q.Reply → Prop} {E : Refusal → Refusal → Prop}

namespace Inquiry

variable {α β γ δ : Type} {R : α → β → Prop} {S : γ → δ → Prop}

/-- The inquiries ask the same and end alike. -/
inductive Alike (Q : (q : Lookup) → q.Reply → q.Reply → Prop) (E : Refusal → Refusal → Prop)
    (R : α → β → Prop) : Inquiry α → Inquiry β → Prop
  | decided {a : α} {b : β} (like : R a b) : Alike Q E R (.decided a) (.decided b)
  | refused {r r' : Refusal} (like : E r r') : Alike Q E R (.refused r) (.refused r')
  | ask {q : Lookup} {next : q.Reply → Inquiry α} {next' : q.Reply → Inquiry β}
      (like : ∀ reply reply', Q q reply reply' → Alike Q E R (next reply) (next' reply')) :
      Alike Q E R (.ask q next) (.ask q next')

/-- Like inquiries that go on alike are alike. -/
theorem Alike.bind {i : Inquiry α} {j : Inquiry β} (first : Alike Q E R i j) {f : α → Inquiry γ}
    {g : β → Inquiry δ} (second : ∀ a b, R a b → Alike Q E S (f a) (g b)) :
    Alike Q E S (i >>= f) (j >>= g) := by
  change Alike Q E S (i.bind f) (j.bind g)
  induction first with
  | decided like => exact second _ _ like
  | refused like => exact .refused like
  | ask like ih => exact .ask fun reply reply' answers => ih reply reply' answers

theorem Alike.mono {R' : α → β → Prop} {i : Inquiry α} {j : Inquiry β} (alike : Alike Q E R i j)
    (weaker : ∀ a b, R a b → R' a b) : Alike Q E R' i j := by
  induction alike with
  | decided like => exact .decided (weaker _ _ like)
  | refused like => exact .refused like
  | ask like ih => exact .ask ih

/-- Like inquiries with the same result go on from it. -/
theorem Alike.bind_eq {i j : Inquiry α} (first : Alike Q E Eq i j) {f : α → Inquiry γ}
    {g : α → Inquiry δ} (second : ∀ a, Alike Q E S (f a) (g a)) : Alike Q E S (i >>= f) (j >>= g) :=
  first.bind fun a _ same => same ▸ second a

/-- What is settled without a lookup is the same on both sides. -/
theorem Alike.ofExcept_bind (refl : ∀ r, E r r) (result : Except Refusal α) {f : α → Inquiry γ}
    {g : α → Inquiry δ} (second : ∀ a, result = .ok a → Alike Q E S (f a) (g a)) :
    Alike Q E S (ofExcept result >>= f) (ofExcept result >>= g) := by
  cases result with
  | ok a => exact second a rfl
  | error r => exact .refused (refl r)

/-- All lookups that the inquiry may ask, whatever it is told, are of this kind. -/
def Confined (kind : Lookup → Prop) : Inquiry α → Prop
  | .decided _ | .refused _ => True
  | .ask q next => kind q ∧ ∀ reply, (next reply).Confined kind

theorem Confined.bind {kind : Lookup → Prop} {i : Inquiry α} (first : i.Confined kind)
    {f : α → Inquiry γ} (second : ∀ a, (f a).Confined kind) : (i >>= f).Confined kind := by
  change (i.bind f).Confined kind
  induction i with
  | decided a => exact second a
  | refused r => trivial
  | ask q next ih => exact ⟨first.1, fun reply => ih reply (first.2 reply)⟩

theorem Confined.mono {kind kind' : Lookup → Prop} {i : Inquiry α} (confined : i.Confined kind)
    (wider : ∀ q, kind q → kind' q) : i.Confined kind' := by
  induction i with
  | decided a => trivial
  | refused r => trivial
  | ask q next ih => exact ⟨wider q confined.1, fun reply => ih reply (confined.2 reply)⟩

theorem confined_find? {kind : Lookup → Prop} (origin : String) {q : Lookup} (asked : kind q) :
    (find? origin q).Confined kind := by
  refine ⟨asked, fun reply => ?_⟩
  obtain ⟨⟨⟩ | _⟩ | found := reply <;> trivial

/-- What counts as like for lookups of other kinds than those that are asked does not matter. -/
theorem Alike.of_confined {Q' : (q : Lookup) → q.Reply → q.Reply → Prop} {kind : Lookup → Prop}
    {i : Inquiry α} {j : Inquiry β} (alike : Alike Q E R i j) (confined : i.Confined kind)
    (told : ∀ q, kind q → ∀ reply reply', Q' q reply reply' → Q q reply reply') :
    Alike Q' E R i j := by
  induction alike with
  | decided like => exact .decided like
  | refused like => exact .refused like
  | @ask q next next' like ih =>
    refine .ask fun reply reply' answers => ?_
    exact ih reply reply' (told q confined.1 reply reply' answers) (confined.2 reply)

/-- With the same answers an inquiry is like itself. -/
theorem Alike.self (refl : ∀ r, E r r) (i : Inquiry α) : Alike (fun _ => Eq) E Eq i i := by
  induction i with
  | decided a => exact .decided rfl
  | refused r => exact .refused (refl r)
  | ask q next ih => exact .ask fun reply _ same => same ▸ ih reply

end Inquiry

/-- The lookup has the same fate, with like answers if it is answered. -/
def Outcome.Alike (Q : (q : Lookup) → q.Reply → q.Reply → Prop) {q : Lookup} :
    Outcome q → Outcome q → Prop
  | .answered reply p, .answered reply' p' => Q q reply reply' ∧ p = p'
  | .interrupted r p, .interrupted r' p' => r = r' ∧ p = p'
  | .hung p, .hung p' => p = p'
  | _, _ => False

/-- What is decided the same way on both sides has like outcomes. -/
theorem Outcome.Alike.ite {condition : Prop} [Decidable condition] {q : Lookup}
    {a a' b b' : Outcome q} (yes : a.Alike Q a') (no : b.Alike Q b') :
    (if condition then a else b).Alike Q (if condition then a' else b') := by
  by_cases holds : condition
  · rwa [if_pos holds, if_pos holds]
  · rwa [if_neg holds, if_neg holds]

/-- The runs end alike. -/
def Ending.Alike {α β : Type} (E : Refusal → Refusal → Prop) (R : α → β → Prop) :
    Ending α → Ending β → Prop
  | .decided a, .decided b => R a b
  | .refused r, .refused r' => E r r'
  | .hung, .hung => True
  | _, _ => False

theorem Ending.eq_of_alike {α : Type} {e e' : Ending α} (alike : e.Alike Eq Eq e') : e = e' := by
  cases e <;> cases e' <;> try exact alike.elim
  case decided.decided => exact congrArg Ending.decided alike
  case refused.refused => exact congrArg Ending.refused alike
  case hung.hung => rfl

/-- What is told of an ending: the result, the status of the refusal, or nothing ever. -/
inductive Report (α : Type) where
  | decided (result : α)
  | refused (status : Status)
  | hung
deriving DecidableEq, Repr

def Ending.report {α : Type} : Ending α → Report α
  | .decided a => .decided a
  | .refused r => .refused r.status
  | .hung => .hung

theorem Ending.report_eq_of_alike {α : Type} {e e' : Ending α}
    (alike : e.Alike (fun r r' => r.status = r'.status) Eq e') : e.report = e'.report := by
  cases e <;> cases e' <;> try exact alike.elim
  case decided.decided => exact congrArg Report.decided alike
  case refused.refused => exact congrArg Report.refused alike
  case hung.hung => rfl

namespace Conditions

/-- The same conditions over a storage. -/
def withStorage (c : Conditions) (storage : Storage) : Conditions := { c with storage }

/-- Like inquiries whose lookups have like fates end alike, with the same progress. -/
theorem run_alike {α β : Type} {R : α → β → Prop} {c c' : Conditions}
    (fates : ∀ q p, (c.guarded q p).Alike Q (c'.guarded q p)) (refl : ∀ r, E r r)
    {i : Inquiry α} {j : Inquiry β} (alike : Inquiry.Alike Q E R i j) (p : Progress) :
    (c.run i p).1.Alike E R (c'.run j p).1 ∧ (c.run i p).2 = (c'.run j p).2 := by
  induction alike generalizing p with
  | decided like => exact ⟨like, rfl⟩
  | refused like => exact ⟨like, rfl⟩
  | @ask q next next' like ih =>
    have fate := fates q p
    simp only [run]
    generalize c.guarded q p = outcome at fate
    generalize c'.guarded q p = outcome' at fate
    cases outcome <;> cases outcome' <;> try exact fate.elim
    case answered.answered reply p reply' p' =>
      obtain ⟨answers, rfl⟩ := fate
      exact ih reply reply' answers p
    case interrupted.interrupted r p r' p' =>
      obtain ⟨rfl, rfl⟩ := fate
      exact ⟨refl r, rfl⟩
    case hung.hung p p' => exact ⟨trivial, fate⟩

/-- The conditions answer alike, with the same limits in time. A fault is the same on both sides, or
it is a failing store on both. -/
structure Alike (Q : (q : Lookup) → q.Reply → q.Reply → Prop) (c c' : Conditions) : Prop where
  deadline : c.deadline = c'.deadline
  latency : c.latency = c'.latency
  answers : ∀ q, Q q (c.storage q) (c'.storage q)
  failures : ∀ q failure, Q q (.error failure) (.error failure)
  faults : ∀ asked q, c.fault asked q = c'.fault asked q ∨
    ∃ report report', c.fault asked q = some (.backend report) ∧
      c'.fault asked q = some (.backend report') ∧
      Q q (.error (.backend report [])) (.error (.backend report' []))

namespace Alike

variable {c c' : Conditions}

theorem left (alike : c.Alike Q c') (p : Progress) : c.left p = c'.left p := by
  unfold Conditions.left
  rw [alike.deadline]

theorem reply (alike : c.Alike Q c') (q : Lookup) (left : Option Int) (waited : Nat)
    (p : Progress) : (c.reply q left waited p).Alike Q (c'.reply q left waited p) := by
  unfold Conditions.reply
  rw [alike.latency]
  exact .ite ⟨alike.answers q, rfl⟩ ⟨rfl, rfl⟩

theorem answer (alike : c.Alike Q c') (q : Lookup) (p : Progress) :
    (c.answer q p).Alike Q (c'.answer q p) := by
  unfold Conditions.answer
  rw [alike.left p, alike.deadline, alike.latency]
  obtain same | ⟨report, report', failed, failed', like⟩ := alike.faults p.asked q
  · rw [same]
    cases c'.fault p.asked q with
    | none => exact alike.reply ..
    | some fault =>
      cases fault with
      | noRows => exact ⟨alike.failures q _, rfl⟩
      | backend report => exact ⟨alike.failures q _, rfl⟩
      | hang =>
        cases c'.deadline with
        | none => exact rfl
        | some deadline => exact ⟨rfl, rfl⟩
      | delay millis => exact .ite (alike.reply ..) ⟨rfl, rfl⟩
      | cancel => exact .ite ⟨alike.answers q, rfl⟩ ⟨rfl, rfl⟩
      | cancelAndHang => exact ⟨rfl, rfl⟩
  · rw [failed, failed']
    exact ⟨like, rfl⟩

/-- Conditions that answer alike give lookups the same fate. -/
theorem guarded (alike : c.Alike Q c') (q : Lookup) (p : Progress) :
    (c.guarded q p).Alike Q (c'.guarded q p) := by
  have asked := alike.answer q p
  unfold Conditions.guarded
  rw [alike.left p]
  cases c'.left p with
  | none =>
    cases p.cancelled with
    | true => exact ⟨rfl, rfl⟩
    | false => exact asked
  | some nanos =>
    refine .ite ⟨rfl, rfl⟩ ?_
    cases p.cancelled with
    | true => exact ⟨rfl, rfl⟩
    | false => exact asked

end Alike

/-- Storages that answer alike, over the same conditions, give lookups the same fate. -/
theorem guarded_alike {σ τ : Storage} (answers : ∀ q, Q q (σ q) (τ q))
    (failures : ∀ q failure, Q q (.error failure) (.error failure)) (c : Conditions) (q : Lookup)
    (p : Progress) : ((c.withStorage σ).guarded q p).Alike Q ((c.withStorage τ).guarded q p) := by
  have alike : (c.withStorage σ).Alike Q (c.withStorage τ) :=
    ⟨rfl, rfl, answers, failures, fun _ _ => .inl rfl⟩
  exact alike.guarded q p

end Conditions

end Gatehouse
