import Gatehouse.Proofs.Authority.Verdict
import Gatehouse.Proofs.Faults

/-! # Failing closed

A lookup that fails, lies that there are no rows, hangs, is late or is cancelled takes something away
from a decision and never adds to it. Where a decision depends on a negative answer, the inquiry
takes no failure for one; everywhere else a failure counts as a negative answer or refuses. So what
is allowed with faults is permitted by the storage. That the same run is in time without the faults is
seen from its first lookup, which must find something.
-/

namespace Gatehouse

variable {storage : Storage} {facts : Facts}

/-- The inquiry takes no failure for an answer: what it comes to it comes to without failures. -/
def Inquiry.Exact {α : Type} (storage : Storage) (i : Inquiry α) : Prop :=
  ∀ a, i.Reaches (· = storage) a → i.run storage = .ok a

namespace Inquiry

theorem Exact.bind {α β : Type} {i : Inquiry α} {f : α → Inquiry β} (first : i.Exact storage)
    (second : ∀ a, (f a).Exact storage) : (i >>= f).Exact storage := by
  intro b reached
  obtain ⟨a, middle, reached⟩ := reaches_bind_iff.mp reached
  exact run_bind_eq_ok_iff.mpr ⟨a, first a middle, second a b reached⟩

private theorem exact_decided {α : Type} (a : α) : (decided a).Exact storage := by
  intro b reached
  rw [reaches_decided_iff.mp reached]
  rfl

private theorem exact_refused {α : Type} (r : Refusal) : (refused r : Inquiry α).Exact storage :=
  fun _ reached => (not_reaches_refused reached).elim

end Inquiry

theorem loadServer_exact (serverId : Uuid) : (loadServer serverId).Exact storage := by
  intro row reached
  obtain ⟨_, rfl, loaded⟩ := loadServer_reaches reached
  exact loaded

private theorem ownsServer_exact (serverId userId : Uuid) :
    (ownsServer serverId userId).Exact storage :=
  (loadServer_exact serverId).bind fun _ => Inquiry.exact_decided _

theorem Target.load_exact (c : ObjectClass) (id : Uuid) (within : Option Uuid) :
    (load c id within).Exact storage := by
  intro target reached
  obtain ⟨_, rfl, loaded⟩ := load_reaches reached
  exact loaded

private theorem Facts.needServer_exact : facts.needServer.Exact storage := by
  unfold needServer
  split
  · exact Inquiry.exact_decided _
  · exact Inquiry.exact_refused _

theorem ScopeUse.select_exact (use : ScopeUse) (scope : Scope) :
    (use.select scope).Exact storage := by
  have resolved : scope.resolve.Exact storage := by
    cases scope with
    | unscoped => exact Inquiry.exact_decided _
    | server id => exact (loadServer_exact id).bind fun _ => Inquiry.exact_decided _
    | channel id =>
      refine (Target.load_exact .channel id none).bind fun place => ?_
      exact (loadServer_exact _).bind fun _ => Inquiry.exact_decided _
  cases use with
  | ignored => exact Inquiry.exact_decided _
  | ifPresent => exact resolved
  | required =>
    refine resolved.bind fun found => ?_
    cases found with
    | none => exact Inquiry.exact_refused _
    | some found => exact Inquiry.exact_decided _

theorem loadTarget_exact (c : ObjectClass) (id : Option Uuid) (scope : Option ResolvedScope) :
    (loadTarget c id scope).Exact storage := by
  cases id with
  | none => exact Inquiry.exact_decided _
  | some id =>
    intro found reached
    obtain ⟨_, rfl, loaded⟩ := loadTarget_reaches reached
    exact loaded

/-- Without any role only the empty flag is held. -/
theorem Flags.eq_zero_of_contains {asked : Int64} (held : contains 0 asked = true) : asked = 0 := by
  have held : 0 &&& asked = asked := eq_of_beq held
  rw [← held, Int64.zero_and]

/-- A member is subscribed, whatever else failed. -/
theorem isMember_reaches {serverId userId : Uuid}
    (reached : (isMember serverId userId).Reaches (· = storage) true) :
    storage.Subscribed serverId userId := by
  obtain ⟨found, asked, kept⟩ := Inquiry.reaches_bind_iff.mp reached
  cases found with
  | none => cases kept
  | some row =>
    obtain ⟨_, rfl, answer⟩ := asked.found
    exact ⟨row, answer⟩

/-- The flags that are collected are genuine, or there are none. -/
theorem maskOf_reaches {serverId userId : Uuid} {mask : PermissionMask}
    (reached : (maskOf serverId userId).Reaches (· = storage) mask) :
    mask = .collect [] ∨ (maskOf serverId userId).run storage = .ok mask := by
  obtain ⟨found, asked, kept⟩ := Inquiry.reaches_bind_iff.mp reached
  obtain rfl := Inquiry.reaches_pure_iff.mp kept
  cases found with
  | none => exact .inl rfl
  | some roles =>
    obtain ⟨_, rfl, answer⟩ := asked.found
    refine .inr (Inquiry.run_bind_eq_ok_iff.mpr ⟨some roles, ?_, rfl⟩)
    exact Inquiry.run_find?_eq_some_iff.mpr answer

private theorem hasServer_maskOf_reaches {serverId userId : Uuid} {mask : PermissionMask}
    {asked : ServerFlags} (reached : (maskOf serverId userId).Reaches (· = storage) mask)
    (held : mask.hasServer asked = true) :
    asked.bits &&& 7 = asked.bits ∧ storage.HoldsServerFlag serverId userId asked := by
  rcases maskOf_reaches reached with rfl | decided
  · have empty := Flags.eq_zero_of_contains held
    simp [empty, Storage.HoldsServerFlag]
  · exact (hasServer_maskOf_iff decided).mp held

private theorem hasSub_maskOf_reaches {serverId userId : Uuid} {mask : PermissionMask}
    {asked : SubFlags} (reached : (maskOf serverId userId).Reaches (· = storage) mask)
    (held : mask.hasSub asked = true) :
    asked.bits &&& 1 = asked.bits ∧ storage.HoldsSubFlag serverId userId asked := by
  rcases maskOf_reaches reached with rfl | decided
  · have empty := Flags.eq_zero_of_contains held
    simp [empty, Storage.HoldsSubFlag]
  · exact (hasSub_maskOf_iff decided).mp held

private theorem ownsOrGranted_reaches {serverId userId : Uuid} {family : Family} {allowed : Bool}
    (reached : (ownsOrGranted serverId userId family).Reaches (· = storage) allowed) :
    storage.Live serverId ∧
      (allowed = true → storage.Owns serverId userId ∨ storage.Granted serverId userId family) := by
  obtain ⟨owns, first, reached⟩ := Inquiry.reaches_bind_iff.mp reached
  obtain ⟨live, owner⟩ := ownsServer_eq_ok (ownsServer_exact _ _ owns first)
  refine ⟨live, ?_⟩
  rintro rfl
  cases owns with
  | true => exact .inl (owner.mp rfl)
  | false =>
    obtain ⟨found, asked, kept⟩ := Inquiry.reaches_bind_iff.mp reached
    cases found with
    | none => cases kept
    | some grant =>
      obtain ⟨_, rfl, answer⟩ := asked.found
      exact .inr (Storage.granted_iff_covers.mpr ⟨grant, answer, Inquiry.reaches_pure_iff.mp kept⟩)

namespace Predicate

/-- A predicate that takes no failure for a negative answer. -/
def Strict : Predicate → Prop
  | .always | .serverOwner | .targetIsCaller | .targetIsOwner => True
  | .member | .baseCheck | .serverFlag _ | .subFlag _ => False

theorem Strict.exact {p : Predicate} (strict : p.Strict) : (p.holds facts).Exact storage := by
  cases p with
  | always | targetIsCaller => exact Inquiry.exact_decided _
  | serverOwner => exact Facts.needServer_exact.bind fun s => ownsServer_exact s _
  | targetIsOwner =>
    unfold holds
    cases facts.targetUser with
    | none => exact Inquiry.exact_decided _
    | some user => exact Facts.needServer_exact.bind fun s => ownsServer_exact s user
  | member | baseCheck | serverFlag _ | subFlag _ => exact strict.elim

/-- A positive answer is right whatever failed, and there is none where the predicate is not
defined. -/
theorem holds_reaches {p : Predicate} {held : Bool}
    (reached : (p.holds facts).Reaches (· = storage) held) :
    p.Defined storage facts ∧ (held = true → p.Means storage facts) := by
  have strictly (strict : p.Strict) :
      p.Defined storage facts ∧ (held = true → p.Means storage facts) := by
    obtain ⟨defined, meaning⟩ := holds_eq_ok (strict.exact held reached)
    exact ⟨defined, meaning.mp⟩
  cases p with
  | always | serverOwner | targetIsCaller | targetIsOwner => exact strictly trivial
  | member =>
    obtain ⟨s, named, reached⟩ := Inquiry.reaches_bind_iff.mp reached
    have named := needServer_eq_ok_iff.mp (Facts.needServer_exact s named)
    refine ⟨⟨s, named⟩, ?_⟩
    rintro rfl
    exact ⟨s, named, isMember_reaches reached⟩
  | baseCheck =>
    obtain ⟨s, named, reached⟩ := Inquiry.reaches_bind_iff.mp reached
    have named := needServer_eq_ok_iff.mp (Facts.needServer_exact s named)
    obtain ⟨live, allowed⟩ := ownsOrGranted_reaches reached
    exact ⟨⟨s, named, live⟩, fun held => ⟨s, named, allowed held⟩⟩
  | serverFlag asked =>
    obtain ⟨s, named, reached⟩ := Inquiry.reaches_bind_iff.mp reached
    have named := needServer_eq_ok_iff.mp (Facts.needServer_exact s named)
    obtain ⟨mask, collected, kept⟩ := Inquiry.reaches_bind_iff.mp reached
    obtain rfl := Inquiry.reaches_pure_iff.mp kept
    exact ⟨⟨s, named⟩, fun held => ⟨s, named, hasServer_maskOf_reaches collected held⟩⟩
  | subFlag asked =>
    obtain ⟨s, named, reached⟩ := Inquiry.reaches_bind_iff.mp reached
    have named := needServer_eq_ok_iff.mp (Facts.needServer_exact s named)
    obtain ⟨mask, collected, kept⟩ := Inquiry.reaches_bind_iff.mp reached
    obtain rfl := Inquiry.reaches_pure_iff.mp kept
    exact ⟨⟨s, named⟩, fun held => ⟨s, named, hasSub_maskOf_reaches collected held⟩⟩

end Predicate

private theorem anyHolds_reaches {ps : List Predicate}
    (reached : (anyHolds facts ps).Reaches (· = storage) true) :
    (∀ p ∈ ps.head?, p.Defined storage facts) ∧ ∃ p ∈ ps, p.Means storage facts := by
  induction ps with
  | nil => cases reached
  | cons p rest ih =>
    obtain ⟨first, asked, reached⟩ := Inquiry.reaches_bind_iff.mp reached
    obtain ⟨defined, meaning⟩ := Predicate.holds_reaches asked
    refine ⟨by simpa using defined, ?_⟩
    cases first with
    | true => exact ⟨p, List.mem_cons_self .., meaning rfl⟩
    | false =>
      obtain ⟨q, member, means⟩ := (ih reached).2
      exact ⟨q, List.mem_cons_of_mem _ member, means⟩

/-- A rule with a strict guard allows only what it permits, whatever failed. -/
theorem Rule.permits_of_reaches {rule : Rule} (strict : ∀ guard ∈ rule.denyIf, guard.Strict)
    (reached : (rule.allows facts).Reaches (· = storage) true) : rule.Permits storage facts := by
  obtain ⟨denyIf, allowIf⟩ := rule
  cases denyIf with
  | none =>
    obtain ⟨first, means⟩ := anyHolds_reaches reached
    exact ⟨first, by simp, means⟩
  | some guard =>
    obtain ⟨denied, asked, reached⟩ := Inquiry.reaches_bind_iff.mp reached
    obtain ⟨defined, meaning⟩ := Predicate.holds_eq_ok ((strict guard rfl).exact denied asked)
    cases denied with
    | true => cases reached
    | false =>
      have passes : ¬ guard.Means storage facts := fun means => Bool.noConfusion (meaning.mpr means)
      exact ⟨by simpa [predicates] using defined, by simpa using passes, (anyHolds_reaches reached).2⟩

/-- The guards of the tables are strict. -/
theorem Policy.strict {c : ObjectClass} {operation : Operation} {entry : PolicyEntry}
    (listed : entry ∈ entry? c operation) : ∀ guard ∈ entry.rule.denyIf, guard.Strict := by
  intro guard denies
  rcases rule_cases listed with ordinary | ⟨rule, -, -⟩
  · simp only [List.mem_cons, List.not_mem_nil, or_false] at ordinary
    rcases ordinary with rule | rule | rule | rule | rule | rule | rule | rule <;>
      rw [rule] at denies <;> cases denies
  · rw [rule] at denies
    cases denies
    trivial

/-- What a decision allows under failures it allows without them. -/
theorem authorize_exact (reliable : storage.Reliable) {now : Time} {claims : Option Claims}
    {scope : Scope} {request : Request} : (authorize now claims scope request).Exact storage := by
  intro result reached
  obtain ⟨caller, known, objectId, read, operation, entry, listed, targetId, chosen, resolved,
    selected, found, loaded, allowed⟩ := reaches_authorize_iff.mp reached
  have chooses := ScopeUse.select_eq_ok_iff.mp (ScopeUse.select_exact _ _ resolved selected)
  have finds := TargetUse.select_loadTarget_iff.mp
    ⟨targetId, chosen, loadTarget_exact _ _ _ found loaded⟩
  obtain ⟨words, listed⟩ := Request.entry_eq_ok listed
  have permits := Rule.permits_of_reaches (Policy.strict listed) allowed
  cases claims with
  | none => cases known
  | some claims =>
    exact authorize_of_admits reliable (Claims.caller_eq_ok_iff.mp known) ⟨words, read⟩ listed
      ⟨resolved, chooses, found, finds, permits⟩

open Inquiry

private theorem loadServer_cautious (serverId : Uuid) : (loadServer serverId).Cautious := by
  intro failure
  cases failure <;> exact ⟨_, rfl⟩

private theorem Target.load_cautious (c : ObjectClass) (id : Uuid) (within : Option Uuid) :
    (load c id within).Cautious := by
  cases c <;> (intro failure; cases failure <;> exact ⟨_, rfl⟩)

private theorem Target.load_ne_decided {c : ObjectClass} {id : Uuid} {within : Option Uuid}
    {target : Target} : load c id within ≠ .decided target := by
  cases c <;> exact nofun

private theorem Scope.resolve_cautious (scope : Scope) : scope.resolve.Cautious := by
  cases scope with
  | unscoped => trivial
  | server id => exact (loadServer_cautious id).bind fun _ _ => trivial
  | channel id =>
    refine (Target.load_cautious .channel id none).bind fun place => ?_
    exact fun decided => (Target.load_ne_decided decided).elim

private theorem ScopeUse.select_cautious (use : ScopeUse) (scope : Scope) :
    (use.select scope).Cautious := by
  cases use with
  | ignored => trivial
  | ifPresent => exact scope.resolve_cautious
  | required =>
    refine scope.resolve_cautious.bind fun found _ => ?_
    cases found <;> trivial

/-- A scope that is found has been looked up. -/
theorem ScopeUse.select_eq_decided {use : ScopeUse} {scope : Scope} {found : Option ResolvedScope}
    (decided : use.select scope = .decided found) : found = none := by
  cases use <;> cases scope <;> cases decided <;> rfl

private theorem loadTarget_cautious (c : ObjectClass) (id : Option Uuid)
    (scope : Option ResolvedScope) :
    (loadTarget c id scope).Cautious := by
  cases id with
  | none => trivial
  | some id =>
    refine (Target.load_cautious c id _).bind fun target => ?_
    exact fun decided => (Target.load_ne_decided decided).elim

/-- A target that is found has been looked up. -/
theorem loadTarget_eq_decided {c : ObjectClass} {id : Option Uuid} {scope : Option ResolvedScope}
    {found : Option Target} (decided : loadTarget c id scope = .decided found) : found = none := by
  cases id with
  | none =>
    cases decided
    rfl
  | some id => cases c <;> cases decided

/-- Without a server no rule asks anything. -/
theorem Rule.allows_silent (rule : Rule) (nowhere : facts.server = none) :
    (rule.allows facts).Silent := by
  have unneeded : facts.needServer.Silent := by
    rw [Facts.needServer, nowhere]
    trivial
  have judged {f : Uuid → Inquiry Bool} : (facts.needServer >>= f).Silent := by
    rw [Facts.needServer, nowhere]
    trivial
  have single (p : Predicate) : (p.holds facts).Silent := by
    cases p with
    | always | targetIsCaller => trivial
    | serverOwner | member | baseCheck | serverFlag _ | subFlag _ => exact judged
    | targetIsOwner =>
      unfold Predicate.holds
      cases facts.targetUser with
      | none => trivial
      | some user => exact judged
  have listed (ps : List Predicate) : (anyHolds facts ps).Silent := by
    induction ps with
    | nil => trivial
    | cons p rest ih =>
      refine (single p).bind fun held => ?_
      cases held with
      | true => trivial
      | false => exact ih
  obtain ⟨denyIf, allowIf⟩ := rule
  cases denyIf with
  | none => exact listed allowIf
  | some guard =>
    refine (single guard).bind fun denied => ?_
    cases denied with
    | true => trivial
    | false => exact listed allowIf

/-- The first lookup of a decision is for its scope or its target, and must find it. -/
theorem authorize_cautious (now : Time) (claims : Option Claims) (scope : Scope)
    (request : Request) : (authorize now claims scope request).Cautious := by
  refine (cautious_ofExcept _).bind fun caller _ => ?_
  refine (cautious_ofExcept _).bind fun objectId _ => ?_
  refine (cautious_ofExcept _).bind fun (operation, entry) _ => ?_
  refine (cautious_ofExcept _).bind fun targetId _ => ?_
  refine (entry.scope.select_cautious scope).bind fun resolved unscoped => ?_
  obtain rfl := ScopeUse.select_eq_decided unscoped
  refine (loadTarget_cautious _ _ _).bind fun found untargeted => ?_
  obtain rfl := loadTarget_eq_decided untargeted
  refine (entry.rule.allows_silent rfl).cautious.bind fun allowed _ => ?_
  cases allowed <;> trivial

namespace Sample

/-- The house with a grant for user 2 that covers deletions. -/
def grantedHouse : Memory :=
  { house with tables.grants := [⟨⟨5⟩, ⟨7⟩, ⟨2⟩, false, false, true⟩] }

/-- Ten milliseconds for a decision: the first lookup takes nine of them, the grant is kept secret,
and the token fires at the last lookup. -/
def troubled : Conditions where
  storage := grantedHouse.storage
  deadline := some ⟨0, 10000000, by decide⟩
  latency := none
  fault _ q :=
    match q with
    | .role _ => some (.delay 9)
    | .grantFor _ _ => some .noRows
    | .rolesHeld _ _ => some .cancel
    | _ => none

end Sample

namespace Conditions

/-- What is allowed under faults is allowed on the same storage, with the same clock, deadline and
token, without them. -/
theorem allowed_faultless {c : Conditions} (reliable : c.storage.Reliable) {now : Time}
    {cancelled : Bool} {claims : Option Claims} {scope : Scope} {request : Request}
    (allowed : (c.run (authorize now claims scope request) ⟨now, cancelled, []⟩).1 = .decided ()) :
    (c.faultless.run (authorize now claims scope request) ⟨now, cancelled, []⟩).1 =
      .decided () := by
  have permitted : (authorize now claims scope request).run c.storage = .ok () :=
    authorize_exact reliable () (reaches_of_run_decided allowed)
  have cautious := authorize_cautious now claims scope request
  cases decision : authorize now claims scope request with
  | decided result => rfl
  | refused r =>
    rw [decision] at permitted
    cases permitted
  | ask q next =>
    rw [decision] at allowed cautious permitted
    obtain ⟨clear, live⟩ := clear_of_cautious cautious allowed
    rw [clear.run _ rfl live]
    exact Ending.ofResult_eq_decided_iff.mpr permitted

/-- Who holds the role may delete it in spite of these faults, and so may without them. -/
theorem holder_deletes_faultless :
    (Sample.troubled.run (authorize .epoch (some (Sample.claimsOf ⟨2⟩)) .unscoped Sample.deletion)
        ⟨.epoch, false, []⟩).1 = .decided () ∧
      (Sample.troubled.faultless.run
        (authorize .epoch (some (Sample.claimsOf ⟨2⟩)) .unscoped Sample.deletion)
        ⟨.epoch, false, []⟩).1 = .decided () := by
  have reliable : Sample.grantedHouse.storage.Reliable := Memory.reliable rfl
  have allowed : (Sample.troubled.run
      (authorize .epoch (some (Sample.claimsOf ⟨2⟩)) .unscoped Sample.deletion)
      ⟨.epoch, false, []⟩).1 = .decided () := by decide +kernel
  exact ⟨allowed, allowed_faultless reliable allowed⟩

end Conditions

end Gatehouse
