import Gatehouse.Evaluation
import Gatehouse.Proofs.Likeness

/-! # What rules ask

Whatever a rule is told, it asks about the deciding server only, and where it asks about a user, about
the caller.
-/

namespace Gatehouse

/-- The lookup is about the server, and if it is about a user, about the caller. -/
def Lookup.Supports (serverId caller : Uuid) : Lookup → Prop
  | .server id => id = serverId
  | .membership id user | .rolesHeld id user | .grantFor id user => id = serverId ∧ user = caller
  | .subscription _ | .role _ | .assignment _ | .grant _ | .channel _ | .override _ => False

variable {facts : Facts}

theorem loadServer_confined (serverId caller : Uuid) :
    (loadServer serverId).Confined (·.Supports serverId caller) := by
  refine Inquiry.Confined.bind ?asked fun found => ?ended
  case asked => exact Inquiry.confined_find? _ rfl
  case ended => cases found <;> trivial

private theorem ownsServer_confined (serverId userId caller : Uuid) :
    (ownsServer serverId userId).Confined (·.Supports serverId caller) :=
  (loadServer_confined serverId caller).bind fun _ => trivial

private theorem isMember_confined (serverId userId : Uuid) :
    (isMember serverId userId).Confined (·.Supports serverId userId) := by
  refine Inquiry.Confined.bind ?asked fun _ => trivial
  exact Inquiry.confined_find? _ ⟨rfl, rfl⟩

private theorem maskOf_confined (serverId userId : Uuid) :
    (maskOf serverId userId).Confined (·.Supports serverId userId) := by
  refine Inquiry.Confined.bind ?asked fun _ => trivial
  exact Inquiry.confined_find? _ ⟨rfl, rfl⟩

private theorem ownsOrGranted_confined (serverId userId : Uuid) (family : Family) :
    (ownsOrGranted serverId userId family).Confined (·.Supports serverId userId) := by
  refine (ownsServer_confined serverId userId userId).bind fun owns => ?_
  cases owns with
  | true => trivial
  | false =>
    refine Inquiry.Confined.bind ?asked fun found => ?ended
    case asked => exact Inquiry.confined_find? _ ⟨rfl, rfl⟩
    case ended => cases found <;> trivial

private theorem Predicate.holds_confined (p : Predicate) :
    (p.holds facts).Confined fun q => ∃ s ∈ facts.server, q.Supports s facts.caller := by
  have located {f : Uuid → Inquiry Bool}
      (confined : ∀ s, (f s).Confined (·.Supports s facts.caller)) :
      (facts.needServer >>= f).Confined fun q => ∃ s ∈ facts.server, q.Supports s facts.caller := by
    unfold Facts.needServer
    cases facts.server with
    | none => trivial
    | some s => exact (confined s).mono fun q supports => ⟨s, rfl, supports⟩
  cases p with
  | always | targetIsCaller => trivial
  | serverOwner => exact located fun s => ownsServer_confined s _ _
  | member => exact located fun s => isMember_confined s _
  | baseCheck => exact located fun s => ownsOrGranted_confined s _ _
  | serverFlag asked => exact located fun s => (maskOf_confined s _).bind fun _ => trivial
  | subFlag asked => exact located fun s => (maskOf_confined s _).bind fun _ => trivial
  | targetIsOwner =>
    unfold holds
    cases facts.targetUser with
    | none => trivial
    | some user => exact located fun s => ownsServer_confined s user _

/-- A rule asks only about the deciding server and the caller. -/
theorem Rule.allows_confined (rule : Rule) :
    (rule.allows facts).Confined fun q => ∃ s ∈ facts.server, q.Supports s facts.caller := by
  have listed (ps : List Predicate) :
      (anyHolds facts ps).Confined fun q => ∃ s ∈ facts.server, q.Supports s facts.caller := by
    induction ps with
    | nil => trivial
    | cons p rest ih =>
      refine p.holds_confined.bind fun held => ?_
      cases held with
      | true => trivial
      | false => exact ih
  obtain ⟨denyIf, allowIf⟩ := rule
  cases denyIf with
  | none => exact listed allowIf
  | some guard =>
    refine guard.holds_confined.bind fun denied => ?_
    cases denied with
    | true => trivial
    | false => exact listed allowIf

end Gatehouse
