import Gatehouse.Proofs.Authority.Absence
import Gatehouse.Proofs.Authority.Brief

/-! # Rules that come to a server that is not there

Over a storage that never fails there is one thing that can keep a rule from being judged: one of
its predicates loads the deciding server, and the server is not there. A rule comes to that
predicate if none before it holds.
-/

namespace Gatehouse

namespace Predicate

variable {storage : Storage} {facts : Facts}

/-- The predicate loads the deciding server. -/
def Loads (facts : Facts) : Predicate → Prop
  | .serverOwner | .baseCheck => True
  | .targetIsOwner => facts.targetUser ≠ none
  | .always | .member | .serverFlag _ | .subFlag _ | .targetIsCaller => False

/-- The predicate loads a server that is not there. -/
def Lost (storage : Storage) (facts : Facts) (p : Predicate) : Prop :=
  p.Loads facts ∧ ∃ s ∈ facts.server, storage.Lacks .server s

/-- Asked in order up to the first that holds, the predicates come to one that is lost. -/
def Stranded (storage : Storage) (facts : Facts) : List Predicate → Prop
  | [] => False
  | p :: rest => p.Lost storage facts ∨ ¬ p.Means storage facts ∧ Stranded storage facts rest

/-- The predicate has a server to be judged on, if it needs one. -/
def Placed (facts : Facts) (p : Predicate) : Prop := p = .always ∨ ∃ s, facts.server = some s

private theorem Lost.holds_run {p : Predicate} (lost : p.Lost storage facts) :
    (p.holds facts).run storage = .error (.notFound "predicates.load_server") := by
  obtain ⟨loads, s, named, lacks⟩ := lost
  have owns (user : Uuid) : (ownsServer s user).run storage =
      .error (.notFound "predicates.load_server") :=
    Inquiry.run_bind_of_error (loadServer_of_lacks lacks)
  have located {f : Uuid → Inquiry Bool} (refused : (f s).run storage =
      .error (.notFound "predicates.load_server")) :
      (facts.needServer >>= f).run storage = .error (.notFound "predicates.load_server") :=
    (Inquiry.run_bind_of_ok (needServer_eq_ok_iff.mpr named)).trans refused
  cases p with
  | serverOwner => exact located (owns _)
  | baseCheck => exact located (Inquiry.run_bind_of_error (owns _))
  | targetIsOwner =>
    obtain ⟨user, belongs⟩ := Option.ne_none_iff_exists'.mp loads
    rw [holds, belongs]
    exact located (owns user)
  | always | member | serverFlag | subFlag | targetIsCaller => exact loads.elim

/-- Over a storage that never fails a predicate is defined unless it is lost. -/
theorem defined_of_not_lost (reliable : storage.Reliable) {p : Predicate} (placed : p.Placed facts)
    (there : ¬ p.Lost storage facts) : p.Defined storage facts := by
  rcases placed with rfl | ⟨s, named⟩
  · trivial
  have live (loads : p.Loads facts) : ∃ s ∈ facts.server, storage.Live s :=
    ⟨s, named, (reliable.found_or_lacks (.server s)).resolve_right
      fun lacks => there ⟨loads, s, named, lacks⟩⟩
  cases p with
  | always | targetIsCaller => trivial
  | member | serverFlag | subFlag => exact ⟨s, named⟩
  | serverOwner | baseCheck => exact live trivial
  | targetIsOwner => exact (Classical.em (facts.targetUser = none)).imp_right live

end Predicate

/-- The inquiry is refused where the predicates are stranded, and otherwise it has an answer. -/
def Inquiry.Settles (storage : Storage) (facts : Facts) (ps : List Predicate) (i : Inquiry Bool) :
    Prop :=
  (Predicate.Stranded storage facts ps →
    i.run storage = .error (.notFound "predicates.load_server")) ∧
  (¬ Predicate.Stranded storage facts ps → ∃ held, i.run storage = .ok held)

section Rules

variable {storage : Storage} {facts : Facts}

/-- To ask one predicate more, whatever it means that it holds. -/
theorem Inquiry.Settles.cons (reliable : storage.Reliable) {p : Predicate}
    (placed : p.Placed facts) {rest : List Predicate} {later : Inquiry Bool}
    (settles : later.Settles storage facts rest) (result : Bool) :
    (p.holds facts >>= fun held => if held then return result else later).Settles storage facts
      (p :: rest) := by
  by_cases lost : p.Lost storage facts
  · exact ⟨fun _ => run_bind_of_error lost.holds_run, fun other => (other (.inl lost)).elim⟩
  obtain ⟨held, asked⟩ :=
    Predicate.holds_of_defined reliable (Predicate.defined_of_not_lost reliable placed lost)
  have meaning := (Predicate.holds_eq_ok asked).2
  cases held with
  | true =>
    refine ⟨fun stranded => ?_, fun _ => ⟨result, run_bind_of_ok asked⟩⟩
    rcases stranded with here | ⟨fails, -⟩
    · exact (lost here).elim
    · exact (fails (meaning.mp rfl)).elim
  | false =>
    have fails : ¬ p.Means storage facts := fun means => Bool.noConfusion (meaning.mpr means)
    refine ⟨fun stranded => ?_, fun other => ?_⟩
    · have behind := (stranded.resolve_left lost).2
      exact (run_bind_of_ok asked).trans (settles.1 behind)
    · obtain ⟨held, found⟩ := settles.2 fun behind => other (.inr ⟨fails, behind⟩)
      exact ⟨held, (run_bind_of_ok asked).trans found⟩

private theorem anyHolds_settles (reliable : storage.Reliable) {ps : List Predicate}
    (placed : ∀ p ∈ ps, p.Placed facts) : (anyHolds facts ps).Settles storage facts ps := by
  induction ps with
  | nil => exact ⟨False.elim, fun _ => ⟨false, rfl⟩⟩
  | cons p rest ih =>
    exact .cons reliable (placed p (List.mem_cons_self ..))
      (ih fun q member => placed q (List.mem_cons_of_mem _ member)) true

/-- A rule is refused where its predicates are stranded, and otherwise it has an answer. -/
theorem Rule.allows_settles (reliable : storage.Reliable) {rule : Rule}
    (placed : ∀ p ∈ rule.predicates, p.Placed facts) :
    (rule.allows facts).Settles storage facts rule.predicates := by
  obtain ⟨denyIf, allowIf⟩ := rule
  have listed : (anyHolds facts allowIf).Settles storage facts allowIf :=
    anyHolds_settles reliable fun p member => placed p (List.mem_append_right _ member)
  cases denyIf with
  | none => exact listed
  | some guard => exact .cons reliable (placed guard (List.mem_cons_self ..)) listed false

end Rules

/-- An entry whose rule needs a server asks for a target or for a scope. -/
theorem Policy.located {c : ObjectClass} {operation : Operation} {entry : PolicyEntry}
    (listed : entry ∈ entry? c operation) :
    entry.rule = anyone ∨ entry.target = .required ∨ entry.scope = .required := by
  cases c <;>
    simp only [ entry?, server, subscription, role, assignment, channel, override, grant]
      at listed <;>
    split at listed <;> cases listed <;> simp

/-- The facts of an entry give its rule all the servers that it needs. -/
theorem Brief.ComesTo.placed {storage : Storage} {scope : Scope} {c : ObjectClass} {b : Brief}
    {facts : Facts} (comes : b.ComesTo storage scope c facts)
    (listed : b.entry ∈ Policy.entry? c b.operation) :
    ∀ p ∈ b.entry.rule.predicates, p.Placed facts := by
  obtain ⟨resolved, chosen, found, finds, rfl⟩ := comes
  rcases Policy.located listed with rule | target | scope
  · intro p member
    rw [rule] at member
    exact .inl (List.mem_singleton.mp member)
  · intro p _
    rw [target] at finds
    cases found with
    | none => exact finds.elim
    | some object => exact .inr ⟨object.serverId, rfl⟩
  · intro p _
    rw [scope] at chosen
    cases resolved with
    | none => exact chosen.elim
    | some resolved =>
      cases found with
      | none => exact .inr ⟨resolved.server.id, rfl⟩
      | some object => exact .inr ⟨object.serverId, rfl⟩

end Gatehouse
