import Gatehouse.Proofs.Authority.Verdict

/-! # The order of predicates

Where the server of the facts exists, every predicate has an answer. Then a rule allows by what its
guard and the set of its predicates mean: in which order they stand, and how often, makes no
difference to the answer. What the order decides is which lookups are made. They are those of the
guard and of the predicates up to the first that holds.
-/

namespace Gatehouse

variable {storage : Storage} {facts : Facts}

/-- The facts name a server, and it exists. -/
def Facts.Located (storage : Storage) (facts : Facts) : Prop :=
  ∃ s ∈ facts.server, storage.Live s

theorem Facts.Located.defined (located : facts.Located storage) (p : Predicate) :
    p.Defined storage facts := by
  obtain ⟨s, named, live⟩ := located
  cases p with
  | always | targetIsCaller => trivial
  | member | serverFlag | subFlag => exact ⟨s, named⟩
  | serverOwner | baseCheck => exact ⟨s, named, live⟩
  | targetIsOwner => exact .inr ⟨s, named, live⟩

/-- What a predicate looks up when it is asked on its own. -/
def Predicate.lookups (storage : Storage) (facts : Facts) (p : Predicate) : List Lookup :=
  (p.holds facts).asked storage

/-- A predicate that is defined has an answer, which is whether it holds. -/
theorem Predicate.answer_of_means (reliable : storage.Reliable) {p : Predicate}
    (defined : p.Defined storage facts) {held : Bool}
    (meaning : held = true ↔ p.Means storage facts) :
    (p.holds facts).run storage = .ok held := by
  obtain ⟨answer, decided⟩ := holds_of_defined reliable defined
  rw [decided, Bool.eq_iff_iff.mpr ((holds_eq_ok decided).2.trans meaning.symm)]

section Asked

variable (reliable : storage.Reliable) (located : facts.Located storage)

include reliable located

/-- Predicates are asked up to the first that holds. -/
theorem anyHolds_asked {before after : List Predicate} {p : Predicate}
    (fail : ∀ q ∈ before, ¬ q.Means storage facts) (means : p.Means storage facts) :
    (anyHolds facts (before ++ p :: after)).asked storage =
      (before ++ [p]).flatMap (·.lookups storage facts) := by
  induction before with
  | nil =>
    have answer : (p.holds facts).run storage = .ok true :=
      Predicate.answer_of_means reliable (located.defined p) (by simp [means])
    exact Inquiry.asked_bind_of_ok answer
  | cons q before ih =>
    obtain ⟨fails, rest⟩ := List.forall_mem_cons.mp fail
    have answer : (q.holds facts).run storage = .ok false :=
      Predicate.answer_of_means reliable (located.defined q) (by simp [fails])
    refine (Inquiry.asked_bind_of_ok answer).trans ?_
    exact congrArg (q.lookups storage facts ++ ·) (ih rest)

/-- A rule looks up what its guard and its predicates would, asked in one list. -/
theorem Rule.allows_asked (rule : Rule) :
    (rule.allows facts).asked storage = (anyHolds facts rule.predicates).asked storage := by
  obtain ⟨denyIf, allowIf⟩ := rule
  cases denyIf with
  | none => rfl
  | some guard =>
    obtain ⟨denied, asked⟩ := Predicate.holds_of_defined reliable (located.defined guard)
    refine (Inquiry.asked_bind_of_ok asked).trans (.trans ?_ (Inquiry.asked_bind_of_ok asked).symm)
    cases denied <;> rfl

end Asked

namespace Rule

/-- A rule whose facts are located is decided by what it means. -/
theorem allows_iff_means (reliable : storage.Reliable) (located : facts.Located storage)
    (rule : Rule) :
    ∃ allowed, (rule.allows facts).run storage = .ok allowed ∧
      (allowed = true ↔ rule.Means storage facts) := by
  obtain ⟨allowed, decided⟩ := allows_of_defined reliable fun p _ => located.defined p
  exact ⟨allowed, decided, (allows_eq_ok decided).2⟩

/-- A rule with the same guard and no fewer predicates means what the other does. -/
theorem Means.mono {rule other : Rule} (guard : other.denyIf = rule.denyIf)
    (more : rule.allowIf ⊆ other.allowIf) (means : rule.Means storage facts) :
    other.Means storage facts := by
  obtain ⟨passes, p, listed, holds⟩ := means
  exact ⟨guard ▸ passes, p, more listed, holds⟩

end Rule

/-- In a run that nothing disturbs, over a storage that never fails and where the facts name a server
that exists, a rule allows exactly if its guard does not hold and one of its predicates does. So
another rule with the same guard and the same predicates, in whatever order and however often, answers the
same, and one with more predicates allows what this one allows. The lookups are those of the guard
and of the predicates in their order, up to the first that holds and no further. -/
theorem rule_decided_in_any_order {c : Conditions} (reliable : c.storage.Reliable) {p : Progress}
    (clear : c.Clear p.clock) (live : p.cancelled = false) (located : facts.Located c.storage)
    (rule : Rule) :
    (∃ allowed, (c.run (rule.allows facts) p).1 = .decided allowed ∧
      (allowed = true ↔ (∀ guard ∈ rule.denyIf, ¬ guard.Means c.storage facts) ∧
        ∃ q ∈ rule.allowIf, q.Means c.storage facts)) ∧
    (∀ other : Rule, other.denyIf = rule.denyIf →
      ((∀ q, q ∈ other.allowIf ↔ q ∈ rule.allowIf) →
        (c.run (other.allows facts) p).1 = (c.run (rule.allows facts) p).1) ∧
      (rule.allowIf ⊆ other.allowIf → (c.run (rule.allows facts) p).1 = .decided true →
        (c.run (other.allows facts) p).1 = .decided true)) ∧
    ∀ before q after, rule.predicates = before ++ q :: after →
      (∀ x ∈ before, ¬ x.Means c.storage facts) → q.Means c.storage facts →
        (c.run (rule.allows facts) p).2.asked =
          p.asked ++ (before ++ [q]).flatMap (·.lookups c.storage facts) := by
  have ends (rule : Rule) : ∃ allowed, (c.run (rule.allows facts) p).1 = .decided allowed ∧
      (allowed = true ↔ rule.Means c.storage facts) := by
    obtain ⟨allowed, decided, meaning⟩ := rule.allows_iff_means reliable located
    refine ⟨allowed, ?_, meaning⟩
    rw [clear.run _ rfl live, decided]
    rfl
  refine ⟨ends rule, fun other guard => ?_, fun before q after split fail means => ?_⟩
  · obtain ⟨allowed, ending, meaning⟩ := ends rule
    obtain ⟨allowed', ending', meaning'⟩ := ends other
    rw [ending, ending']
    refine ⟨fun same => ?_, fun more approved => ?_⟩
    · have both : allowed' = true ↔ allowed = true := by
        rw [meaning, meaning']
        exact ⟨.mono guard.symm fun q => (same q).mp, .mono guard fun q => (same q).mpr⟩
      rw [Bool.eq_iff_iff.mpr both]
    · obtain rfl : allowed = true := Ending.decided.inj approved
      rw [meaning'.mpr ((meaning.mp rfl).mono guard more)]
  · rw [clear.run _ rfl live, rule.allows_asked reliable located, split,
      anyHolds_asked reliable located fail means]

/-- The rule for roles with its predicates the other way round, and one of them twice: who holds the
role is allowed all the same, and for a single lookup. -/
theorem roleManagers_reordered :
    let c := Conditions.calm Sample.house.storage none
    let start : Progress := ⟨.epoch, false, []⟩
    let facts : Facts := ⟨⟨2⟩, some ⟨7⟩, none, .delete⟩
    let flag : Predicate := .serverFlag .manageRoles
    let reordered := Rule.anyOf [flag, .baseCheck, flag]
    (c.run (Policy.roleManagers.allows facts) start).1 = .decided true ∧
      (c.run (reordered.allows facts) start).1 = .decided true ∧
      (c.run (reordered.allows facts) start).2.asked = [.rolesHeld ⟨7⟩ ⟨2⟩] := by
  intro c start facts flag reordered
  have reliable : Sample.house.storage.Reliable := Memory.reliable rfl
  have clear : c.Clear start.clock := Conditions.clear_calm _ _ _
  have located : facts.Located c.storage := ⟨⟨7⟩, rfl, _, rfl⟩
  have held : flag.Means c.storage facts := ⟨⟨7⟩, rfl, by decide, by decide⟩
  obtain ⟨⟨allowed, approved, meaning⟩, others, -⟩ :=
    rule_decided_in_any_order reliable (p := start) clear rfl located Policy.roleManagers
  obtain rfl : allowed = true := meaning.mpr ⟨nofun, flag, by decide, held⟩
  obtain ⟨-, -, lookups⟩ :=
    rule_decided_in_any_order reliable (p := start) clear rfl located reordered
  refine ⟨approved, (others reordered rfl).2 (by decide) approved, ?_⟩
  rw [lookups [] flag [.baseCheck, flag] rfl nofun held]
  rfl

end Gatehouse
