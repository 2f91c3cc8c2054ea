import Gatehouse.Authorization
import Gatehouse.Session

/-! # Runs that nothing disturbs

A calm run has no deadline, no faults and a token that never fires. It ends as the plain run over the
same storage does, whatever time the storage takes, and asks the same lookups. What a plain run ends
with is read off the inquiry piece by piece: a sequence succeeds when both of its parts do, and a
lookup succeeds unless the storage fails.
-/

namespace Gatehouse

/-- What the result of a plain run is as the ending of a run. -/
def Ending.ofResult {α : Type} : Except Refusal α → Ending α
  | .ok a => .decided a
  | .error r => .refused r

theorem Ending.ofResult_eq_decided_iff {α : Type} {result : Except Refusal α} {a : α} :
    ofResult result = .decided a ↔ result = .ok a := by
  cases result <;> simp [ofResult]

namespace Conditions

/-- As long as the clock shows this time and the token has not fired, every lookup is answered by the
storage at once. -/
def Clear (c : Conditions) (clock : Time) : Prop :=
  ∀ q p, p.clock = clock → p.cancelled = false →
    c.guarded q p = .answered (c.storage q) { p with asked := p.asked ++ [q] }

/-- A run that is clear at its clock is the plain run, and the lookups it adds to the list are those
of the plain run. -/
theorem Clear.run {c : Conditions} {clock : Time} (clear : c.Clear clock) {α : Type}
    (i : Inquiry α) {p : Progress} (time : p.clock = clock) (live : p.cancelled = false) :
    c.run i p = (.ofResult (i.run c.storage), { p with asked := p.asked ++ i.asked c.storage }) := by
  induction i generalizing p with
  | decided a | refused r =>
    simp [Conditions.run, Inquiry.run, Inquiry.asked, Ending.ofResult]
  | ask q next ih =>
    have step := clear q p time live
    have rest := ih (c.storage q) (p := { p with asked := p.asked ++ [q] }) time live
    simp only [Conditions.run, step, rest, Inquiry.run, Inquiry.asked, List.append_assoc,
      List.cons_append, List.nil_append]

/-- The conditions of a run that nothing disturbs. -/
def calm (storage : Storage) (latency : Option Nat) : Conditions where
  storage := storage
  deadline := none
  latency := latency
  fault _ _ := none

theorem clear_calm (storage : Storage) (latency : Option Nat) (clock : Time) :
    (calm storage latency).Clear clock := by
  intro q p _ live
  simp only [guarded, left, calm, Option.map_none, live, Bool.false_eq_true, ↓reduceIte, answer,
    reply, allows]

/-- A calm run is the plain run, and the lookups it adds to the list are those of the plain run. -/
theorem run_calm {storage : Storage} {latency : Option Nat} {α : Type} (i : Inquiry α) {p : Progress}
    (live : p.cancelled = false) :
    (calm storage latency).run i p =
      (.ofResult (i.run storage), { p with asked := p.asked ++ i.asked storage }) :=
  (clear_calm storage latency p.clock).run i rfl live

end Conditions

/-- How the decision on a request ends if nothing disturbs it. -/
def verdict (storage : Storage) (latency : Option Nat) (now : Time) (claims : Option Claims)
    (scope : Scope) (request : Request) : Ending Unit :=
  ((Conditions.calm storage latency).run (authorize now claims scope request) ⟨now, false, []⟩).1

theorem verdict_eq_decided_iff {storage : Storage} {latency : Option Nat} {now : Time}
    {claims : Option Claims} {scope : Scope} {request : Request} :
    verdict storage latency now claims scope request = .decided () ↔
      (authorize now claims scope request).run storage = .ok () := by
  rw [verdict, Conditions.run_calm _ rfl]
  exact Ending.ofResult_eq_decided_iff

namespace Inquiry

variable {α β : Type} {storage : Storage}

@[simp] theorem run_pure (a : α) : (pure a : Inquiry α).run storage = .ok a := rfl

@[simp] theorem run_decided (a : α) : (decided a).run storage = .ok a := rfl

@[simp] theorem run_refused (r : Refusal) : (refused r : Inquiry α).run storage = .error r := rfl

theorem run_bind_eq_ok_iff {i : Inquiry α} {f : α → Inquiry β} {b : β} :
    (i >>= f).run storage = .ok b ↔ ∃ a, i.run storage = .ok a ∧ (f a).run storage = .ok b := by
  have sequence : (i >>= f).run storage = (i.run storage).bind fun a => (f a).run storage :=
    run_bind storage i f
  rw [sequence]
  cases i.run storage <;> simp [Except.bind]

theorem run_bind_of_ok {i : Inquiry α} {f : α → Inquiry β} {a : α}
    (found : i.run storage = .ok a) : (i >>= f).run storage = (f a).run storage := by
  change (i.bind f).run storage = _
  rw [run_bind, found]
  rfl

theorem asked_bind_of_ok {i : Inquiry α} {f : α → Inquiry β} {a : α}
    (found : i.run storage = .ok a) :
    (i >>= f).asked storage = i.asked storage ++ (f a).asked storage := by
  change (i.bind f).asked storage = _
  rw [asked_bind, found]

theorem run_bind_of_error {i : Inquiry α} {f : α → Inquiry β} {r : Refusal}
    (refused : i.run storage = .error r) : (i >>= f).run storage = .error r := by
  change (i.bind f).run storage = _
  rw [run_bind, refused]
  rfl

@[simp] theorem run_ofExcept (result : Except Refusal α) : (ofExcept result).run storage = result := by
  cases result <;> rfl

theorem run_find?_eq_some_iff {origin : String} {q : Lookup} {found : q.Found} :
    (find? origin q).run storage = .ok (some found) ↔ storage q = .ok found := by
  simp only [find?, run]
  split <;> simp_all

theorem run_find?_eq_none_iff {origin : String} {q : Lookup} :
    (find? origin q).run storage = .ok none ↔ storage q = .error .noRows := by
  simp only [find?, run]
  split <;> simp_all

end Inquiry

namespace Storage

/-- Every lookup is answered, with what was found or with the statement that there is nothing. -/
def Reliable (storage : Storage) : Prop :=
  ∀ q report causes, storage q ≠ .error (.backend report causes)

/-- A lookup of such a storage finds something or reports that there is nothing. -/
theorem Reliable.found_or_lacks {storage : Storage} (reliable : storage.Reliable) (q : Lookup) :
    (∃ found, storage q = .ok found) ∨ storage q = .error .noRows := by
  cases answer : storage q with
  | ok found => exact .inl ⟨found, rfl⟩
  | error failure =>
    cases failure with
    | noRows => exact .inr rfl
    | backend report causes => exact (reliable q report causes answer).elim

theorem Reliable.run_find? {storage : Storage} (reliable : storage.Reliable) (origin : String)
    (q : Lookup) : ∃ found, (Inquiry.find? origin q).run storage = .ok found := by
  rcases reliable.found_or_lacks q with ⟨found, answer⟩ | lacks
  · exact ⟨some found, Inquiry.run_find?_eq_some_iff.mpr answer⟩
  · exact ⟨none, Inquiry.run_find?_eq_none_iff.mpr lacks⟩

end Storage

end Gatehouse
