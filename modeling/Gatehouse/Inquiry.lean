import Gatehouse.Lookup
import Gatehouse.Refusal

/-! # Inquiries

A decision is a tree of lookups: it ends with a result or a refusal, or it asks one lookup and goes
on by the answer. The tree says nothing about clocks, deadlines or faults, which belong to a run of
it. The plain run takes all answers from one storage; beside it stands the list of lookups that this
run asks, in order.
-/

namespace Gatehouse

inductive Inquiry (α : Type) where
  | decided (result : α)
  | refused (refusal : Refusal)
  | ask (q : Lookup) (next : q.Reply → Inquiry α)

namespace Inquiry

variable {α β : Type}

def bind : Inquiry α → (α → Inquiry β) → Inquiry β
  | .decided a, f => f a
  | .refused r, _ => .refused r
  | .ask q next, f => .ask q fun reply => (next reply).bind f

instance : Monad Inquiry where
  pure := .decided
  bind := bind

/-- Ask one lookup and return the answer, whatever it is. -/
def lookup (q : Lookup) : Inquiry q.Reply := .ask q .decided

def ofExcept : Except Refusal α → Inquiry α
  | .ok a => .decided a
  | .error r => .refused r

/-- Ask one lookup. That there is no row is an answer; a failing store is an internal refusal at
`origin`. -/
def find? (origin : String) (q : Lookup) : Inquiry (Option q.Found) :=
  .ask q fun
    | .ok found => .decided (some found)
    | .error .noRows => .decided none
    | .error (.backend report causes) =>
      .refused (.internal origin (LookupFailure.backend report causes).text (report :: causes))

/-- The result when every answer comes from one storage at once. -/
def run (storage : Storage) : Inquiry α → Except Refusal α
  | .decided a => .ok a
  | .refused r => .error r
  | .ask q next => (next (storage q)).run storage

/-- The lookups that this run asks, in order. -/
def asked (storage : Storage) : Inquiry α → List Lookup
  | .decided _ | .refused _ => []
  | .ask q next => q :: (next (storage q)).asked storage

theorem bind_decided (i : Inquiry α) : i.bind .decided = i := by
  induction i with
  | decided _ | refused _ => rfl
  | ask q next ih =>
    simp only [bind]
    exact congrArg _ (funext ih)

theorem bind_assoc {γ : Type} (i : Inquiry α) (f : α → Inquiry β) (g : β → Inquiry γ) :
    (i.bind f).bind g = i.bind fun a => (f a).bind g := by
  induction i with
  | decided _ | refused _ => rfl
  | ask q next ih =>
    simp only [bind]
    exact congrArg _ (funext ih)

theorem run_bind (storage : Storage) (i : Inquiry α) (f : α → Inquiry β) :
    (i.bind f).run storage = (i.run storage).bind fun a => (f a).run storage := by
  induction i with
  | decided _ | refused _ => rfl
  | ask q next ih => exact ih _

theorem asked_bind (storage : Storage) (i : Inquiry α) (f : α → Inquiry β) :
    (i.bind f).asked storage =
      i.asked storage ++ (match i.run storage with
        | .ok a => (f a).asked storage
        | .error _ => []) := by
  induction i with
  | decided _ | refused _ => rfl
  | ask q next ih => simp only [bind, asked, run, ih, List.cons_append]

end Inquiry

end Gatehouse
