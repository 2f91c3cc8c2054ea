import Gatehouse.Proofs.Authority.Standing

/-! # What rules mean

A predicate means a statement about the facts and the storage, and it is defined when what it speaks
of is there: a server, and for some predicates one that exists. To evaluate a predicate is to decide
its meaning. A rule means that its guard does not hold and that one of its predicates does; the order
in which they are asked only matters where something is not defined.
-/

namespace Gatehouse

variable {storage : Storage} {facts : Facts}

namespace Predicate

/-- What a predicate says. -/
def Means (storage : Storage) (facts : Facts) : Predicate → Prop
  | .always => True
  | .serverOwner => ∃ s ∈ facts.server, storage.Owns s facts.caller
  | .member => ∃ s ∈ facts.server, storage.Subscribed s facts.caller
  | .baseCheck => ∃ s ∈ facts.server,
      storage.Owns s facts.caller ∨ storage.Granted s facts.caller facts.family
  | .serverFlag asked => ∃ s ∈ facts.server,
      asked.bits &&& 7 = asked.bits ∧ storage.HoldsServerFlag s facts.caller asked
  | .subFlag asked => ∃ s ∈ facts.server,
      asked.bits &&& 1 = asked.bits ∧ storage.HoldsSubFlag s facts.caller asked
  | .targetIsCaller => facts.targetUser = some facts.caller
  | .targetIsOwner => ∃ user ∈ facts.targetUser, ∃ s ∈ facts.server, storage.Owns s user

/-- Whether what a predicate speaks of is there. -/
def Defined (storage : Storage) (facts : Facts) : Predicate → Prop
  | .always | .targetIsCaller => True
  | .member | .serverFlag _ | .subFlag _ => ∃ s, facts.server = some s
  | .serverOwner | .baseCheck => ∃ s ∈ facts.server, storage.Live s
  | .targetIsOwner => facts.targetUser = none ∨ ∃ s ∈ facts.server, storage.Live s

theorem needServer_eq_ok_iff {s : Uuid} :
    facts.needServer.run storage = .ok s ↔ facts.server = some s := by
  unfold Facts.needServer
  cases facts.server <;> simp

/-- An answer is right: the predicate was defined and the answer is whether it holds. -/
theorem holds_eq_ok {p : Predicate} {held : Bool}
    (decided : (p.holds facts).run storage = .ok held) :
    p.Defined storage facts ∧ (held = true ↔ p.Means storage facts) := by
  cases p with
  | always =>
    cases decided
    simp [Defined, Means]
  | serverOwner =>
    obtain ⟨s, named, asked⟩ := Inquiry.run_bind_eq_ok_iff.mp decided
    rw [needServer_eq_ok_iff] at named
    obtain ⟨live, owner⟩ := ownsServer_eq_ok asked
    simpa [Defined, Means, named] using And.intro live owner
  | member =>
    obtain ⟨s, named, asked⟩ := Inquiry.run_bind_eq_ok_iff.mp decided
    rw [needServer_eq_ok_iff] at named
    simpa [Defined, Means, named] using isMember_eq_ok asked
  | baseCheck =>
    obtain ⟨s, named, asked⟩ := Inquiry.run_bind_eq_ok_iff.mp decided
    rw [needServer_eq_ok_iff] at named
    obtain ⟨live, allowed⟩ := ownsOrGranted_eq_ok asked
    simpa [Defined, Means, named] using And.intro live allowed
  | serverFlag asked =>
    simp only [holds, Inquiry.run_bind_eq_ok_iff, needServer_eq_ok_iff, Inquiry.run_pure,
      Except.ok.injEq] at decided
    obtain ⟨s, named, mask, collected, rfl⟩ := decided
    simpa [Defined, Means, named] using hasServer_maskOf_iff collected
  | subFlag asked =>
    simp only [holds, Inquiry.run_bind_eq_ok_iff, needServer_eq_ok_iff, Inquiry.run_pure,
      Except.ok.injEq] at decided
    obtain ⟨s, named, mask, collected, rfl⟩ := decided
    simpa [Defined, Means, named] using hasSub_maskOf_iff collected
  | targetIsCaller =>
    cases decided
    simp [Defined, Means]
  | targetIsOwner =>
    unfold holds at decided
    cases target : facts.targetUser with
    | none =>
      rw [target] at decided
      cases decided
      simp [Defined, Means, target]
    | some user =>
      rw [target] at decided
      obtain ⟨s, named, asked⟩ := Inquiry.run_bind_eq_ok_iff.mp decided
      rw [needServer_eq_ok_iff] at named
      obtain ⟨live, owner⟩ := ownsServer_eq_ok asked
      simpa [Defined, Means, named, target] using And.intro live owner

/-- Over a storage that never fails, a predicate that is defined has an answer. -/
theorem holds_of_defined (reliable : storage.Reliable) {p : Predicate}
    (defined : p.Defined storage facts) : ∃ held, (p.holds facts).run storage = .ok held := by
  cases p with
  | always => exact ⟨true, rfl⟩
  | serverOwner =>
    obtain ⟨s, named, live⟩ := defined
    obtain ⟨held, asked⟩ := ownsServer_of_live facts.caller live
    exact ⟨held, Inquiry.run_bind_eq_ok_iff.mpr ⟨s, needServer_eq_ok_iff.mpr named, asked⟩⟩
  | member =>
    obtain ⟨s, named⟩ := defined
    obtain ⟨held, asked⟩ := isMember_of_reliable reliable s facts.caller
    exact ⟨held, Inquiry.run_bind_eq_ok_iff.mpr ⟨s, needServer_eq_ok_iff.mpr named, asked⟩⟩
  | baseCheck =>
    obtain ⟨s, named, live⟩ := defined
    obtain ⟨held, asked⟩ := ownsOrGranted_of_live reliable live facts.caller facts.family
    exact ⟨held, Inquiry.run_bind_eq_ok_iff.mpr ⟨s, needServer_eq_ok_iff.mpr named, asked⟩⟩
  | serverFlag asked =>
    obtain ⟨s, named⟩ := defined
    obtain ⟨mask, collected⟩ := maskOf_of_reliable reliable s facts.caller
    refine ⟨mask.hasServer asked, Inquiry.run_bind_eq_ok_iff.mpr ⟨s, ?_, ?_⟩⟩
    · exact needServer_eq_ok_iff.mpr named
    · exact Inquiry.run_bind_eq_ok_iff.mpr ⟨mask, collected, rfl⟩
  | subFlag asked =>
    obtain ⟨s, named⟩ := defined
    obtain ⟨mask, collected⟩ := maskOf_of_reliable reliable s facts.caller
    refine ⟨mask.hasSub asked, Inquiry.run_bind_eq_ok_iff.mpr ⟨s, ?_, ?_⟩⟩
    · exact needServer_eq_ok_iff.mpr named
    · exact Inquiry.run_bind_eq_ok_iff.mpr ⟨mask, collected, rfl⟩
  | targetIsCaller => exact ⟨decide (facts.targetUser = some facts.caller), rfl⟩
  | targetIsOwner =>
    unfold holds
    cases target : facts.targetUser with
    | none => exact ⟨false, rfl⟩
    | some user =>
      obtain ⟨s, named, live⟩ := defined.resolve_left (by simp [target])
      obtain ⟨held, asked⟩ := ownsServer_of_live user live
      exact ⟨held, Inquiry.run_bind_eq_ok_iff.mpr ⟨s, needServer_eq_ok_iff.mpr named, asked⟩⟩

end Predicate

private theorem anyHolds_eq_ok {ps : List Predicate} {held : Bool}
    (decided : (anyHolds facts ps).run storage = .ok held) :
    held = true ↔ ∃ p ∈ ps, p.Means storage facts := by
  induction ps with
  | nil =>
    cases decided
    simp
  | cons p rest ih =>
    obtain ⟨first, asked, decided⟩ := Inquiry.run_bind_eq_ok_iff.mp decided
    have meaning := (Predicate.holds_eq_ok asked).2
    cases first with
    | true =>
      cases decided
      simp [meaning.mp rfl]
    | false =>
      have fails : ¬ p.Means storage facts := fun means => Bool.noConfusion (meaning.mpr means)
      simp [ih decided, fails]

private theorem anyHolds_of_defined (reliable : storage.Reliable) {ps : List Predicate}
    (defined : ∀ p ∈ ps, p.Defined storage facts) :
    ∃ held, (anyHolds facts ps).run storage = .ok held := by
  induction ps with
  | nil => exact ⟨false, rfl⟩
  | cons p rest ih =>
    obtain ⟨first, asked⟩ := Predicate.holds_of_defined reliable (defined p (List.mem_cons_self ..))
    cases first with
    | true => exact ⟨true, Inquiry.run_bind_eq_ok_iff.mpr ⟨true, asked, rfl⟩⟩
    | false =>
      obtain ⟨held, later⟩ := ih fun q member => defined q (List.mem_cons_of_mem _ member)
      exact ⟨held, Inquiry.run_bind_eq_ok_iff.mpr ⟨false, asked, later⟩⟩

namespace Rule

/-- What a rule says. -/
def Means (storage : Storage) (facts : Facts) (rule : Rule) : Prop :=
  (∀ guard ∈ rule.denyIf, ¬ guard.Means storage facts) ∧
    ∃ p ∈ rule.allowIf, p.Means storage facts

/-- All that a rule may ask, in order. -/
def predicates (rule : Rule) : List Predicate := rule.denyIf.toList ++ rule.allowIf

/-- What is asked first is defined, and the rule holds. -/
def Permits (storage : Storage) (facts : Facts) (rule : Rule) : Prop :=
  (∀ p ∈ rule.predicates.head?, p.Defined storage facts) ∧ rule.Means storage facts

/-- An answer is right: what is asked first was defined, and the answer is whether the rule holds. -/
theorem allows_eq_ok {rule : Rule} {allowed : Bool}
    (decided : (rule.allows facts).run storage = .ok allowed) :
    (∀ p ∈ rule.predicates.head?, p.Defined storage facts) ∧
      (allowed = true ↔ rule.Means storage facts) := by
  obtain ⟨denyIf, allowIf⟩ := rule
  cases denyIf with
  | none =>
    have meaning := anyHolds_eq_ok decided
    refine ⟨?_, by simpa [Means] using meaning⟩
    intro p first
    cases allowIf with
    | nil => cases first
    | cons q rest =>
      cases first
      obtain ⟨held, asked, _⟩ := Inquiry.run_bind_eq_ok_iff.mp decided
      exact (Predicate.holds_eq_ok asked).1
  | some guard =>
    obtain ⟨denied, asked, decided⟩ := Inquiry.run_bind_eq_ok_iff.mp decided
    obtain ⟨defined, meaning⟩ := Predicate.holds_eq_ok asked
    refine ⟨by simpa [predicates] using defined, ?_⟩
    cases denied with
    | true =>
      cases decided
      simp [Means, meaning.mp rfl]
    | false =>
      have passes : ¬ guard.Means storage facts := fun means => Bool.noConfusion (meaning.mpr means)
      simpa [Means, passes] using anyHolds_eq_ok decided

theorem allows_of_defined (reliable : storage.Reliable) {rule : Rule}
    (defined : ∀ p ∈ rule.predicates, p.Defined storage facts) :
    ∃ allowed, (rule.allows facts).run storage = .ok allowed := by
  obtain ⟨denyIf, allowIf⟩ := rule
  have listed : ∀ p ∈ allowIf, p.Defined storage facts := fun p member =>
    defined p (List.mem_append_right _ member)
  obtain ⟨held, later⟩ := anyHolds_of_defined reliable listed
  cases denyIf with
  | none => exact ⟨held, later⟩
  | some guard =>
    have guarded : guard.Defined storage facts := defined guard (by simp [predicates])
    obtain ⟨denied, asked⟩ := Predicate.holds_of_defined reliable guarded
    cases denied with
    | true => exact ⟨false, Inquiry.run_bind_eq_ok_iff.mpr ⟨true, asked, rfl⟩⟩
    | false => exact ⟨held, Inquiry.run_bind_eq_ok_iff.mpr ⟨false, asked, later⟩⟩

theorem permits_of_allows {rule : Rule} (allowed : (rule.allows facts).run storage = .ok true) :
    rule.Permits storage facts := by
  obtain ⟨first, meaning⟩ := allows_eq_ok allowed
  exact ⟨first, meaning.mp rfl⟩

theorem permits_anyOf_iff {p : Predicate} {rest : List Predicate} :
    (anyOf (p :: rest)).Permits storage facts ↔
      p.Defined storage facts ∧ ∃ q ∈ p :: rest, q.Means storage facts := by
  simp [Permits, anyOf, predicates, Means]

theorem permits_except_iff {guard : Predicate} {allowIf : List Predicate} :
    (Rule.except guard allowIf).Permits storage facts ↔
      guard.Defined storage facts ∧ ¬ guard.Means storage facts ∧
        ∃ q ∈ allowIf, q.Means storage facts := by
  simp [Permits, Rule.except, predicates, Means]

/-- Where all is defined as soon as the first predicate is, a rule allows exactly what it permits. -/
theorem allows_eq_true_iff (reliable : storage.Reliable) {rule : Rule}
    (headed : (∀ p ∈ rule.predicates.head?, p.Defined storage facts) →
      ∀ p ∈ rule.predicates, p.Defined storage facts) :
    (rule.allows facts).run storage = .ok true ↔ rule.Permits storage facts := by
  constructor
  · exact permits_of_allows
  · rintro ⟨first, means⟩
    obtain ⟨allowed, decided⟩ := allows_of_defined reliable (headed first)
    rwa [(allows_eq_ok decided).2.mpr means] at decided

end Rule

end Gatehouse
