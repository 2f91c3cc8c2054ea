import Gatehouse.Memory
import Gatehouse.Proofs.Authority.Entry

/-! # Exact authority

Over a storage that never fails, and if nothing disturbs the run, the tables in words decide: a
request is allowed exactly to whom they name. Over any storage at all they bound what is allowed.
-/

namespace Gatehouse

variable {storage : Storage} {caller : Uuid} {scope : Scope} {objectId : Option Uuid}
  {now : Time} {claims : Claims} {request : Request} {operation : Operation}

/-- Whoever is allowed an operation is named for it by the tables, even if the storage fails for
others. -/
theorem may_of_authorize (identify : claims.Identify now caller) (asks : request.Asks operation objectId)
    (allowed : (authorize now (some claims) scope request).run storage = .ok ()) :
    storage.May caller scope objectId request.objectClass operation := by
  obtain ⟨entry, listed, resolved, chosen, found, finds, allowed⟩ :=
    (authorize_eq_ok_iff_stages identify asks).mp allowed
  exact Policy.admits_iff_may.mp
    ⟨entry, listed, resolved, chosen, found, finds, Rule.permits_of_allows allowed⟩

/-- What an entry admits is allowed over a storage that never fails. -/
theorem authorize_of_admits (reliable : storage.Reliable) (identify : claims.Identify now caller)
    (asks : request.Asks operation objectId) {entry : PolicyEntry}
    (listed : entry ∈ Policy.entry? request.objectClass operation)
    (admits : entry.Admits storage caller scope request.objectClass operation objectId) :
    (authorize now (some claims) scope request).run storage = .ok () := by
  obtain ⟨resolved, chosen, found, finds, permits⟩ := admits
  refine (authorize_eq_ok_iff_stages identify asks).mpr
    ⟨entry, listed, resolved, chosen, found, finds, ?_⟩
  refine (Rule.allows_eq_true_iff reliable (Policy.headed listed ?_)).mpr permits
  -- the rule that speaks of the target's user comes with a subscription as its target
  rintro isSubscription rfl
  rw [isSubscription] at listed finds
  cases listed
  cases found with
  | none => exact finds.elim
  | some target =>
    obtain ⟨id, sent, stored, fits⟩ := finds
    cases target <;> simp_all [Target.Stored, Facts.ofParts, Target.user?]

/-- Over a storage that never fails a request is allowed exactly if the tables name its caller. -/
theorem verdict_eq_decided_iff_may (reliable : storage.Reliable) (latency : Option Nat)
    (scope : Scope) (identify : claims.Identify now caller) (asks : request.Asks operation objectId) :
    verdict storage latency now (some claims) scope request = .decided () ↔
      storage.May caller scope objectId request.objectClass operation := by
  rw [verdict_eq_decided_iff]
  constructor
  · exact may_of_authorize identify asks
  · intro may
    obtain ⟨entry, listed, admits⟩ := Policy.admits_iff_may.mpr may
    exact authorize_of_admits reliable identify asks listed admits

/-- A memory that is not set to fail always answers. -/
theorem Memory.reliable {m : Memory} (sound : m.failing = false) : m.storage.Reliable := by
  intro q report causes failed
  simp only [Memory.storage, sound, Bool.false_eq_true, ↓reduceIte] at failed
  have found_ne {α : Type} (a : Option α) :
      Memory.found a ≠ .error (.backend report causes) := by cases a <;> simp [Memory.found]
  cases q with
  | rolesHeld serverId userId => cases failed
  | _ => exact found_ne _ failed

namespace Sample

/-- A server of user 1, a role there that manages roles, and that role in the hands of user 2. -/
def house : Memory where
  tables :=
    { users := []
      servers := [⟨⟨7⟩, "house", ⟨1⟩, .epoch⟩]
      subscriptions := []
      roles := [⟨⟨8⟩, ⟨7⟩, "keys", ServerFlags.manageRoles.bits, 0, 0⟩]
      assignments := [⟨⟨9⟩, ⟨7⟩, ⟨2⟩, ⟨6⟩, ⟨8⟩⟩]
      grants := []
      channels := []
      overrides := [] }
  failing := false
  latency := none

/-- The house, where user 3 has a grant. -/
def deputized (readAll writeAll deleteAll : Bool) : Memory :=
  { house with tables.grants := [⟨⟨5⟩, ⟨7⟩, ⟨3⟩, readAll, writeAll, deleteAll⟩] }

def claimsOf (caller : Uuid) : Claims := ⟨caller.text, "", "", 1⟩

/-- To delete the role. -/
def deletion : Request := ⟨.role, some "00000000-0000-0000-0000-000000000008", "delete", none⟩

/-- To list the roles. -/
def listing : Request := ⟨.role, none, "read", some "list-server-roles"⟩

/-- To list to whom roles are assigned. -/
def rollCall : Request := ⟨.assignment, none, "read", some "list-role-assignments"⟩

theorem holder_identified : (claimsOf ⟨2⟩).Identify .epoch ⟨2⟩ := ⟨by decide, by decide +kernel⟩

private theorem stranger_identified :
    (claimsOf ⟨3⟩).Identify .epoch ⟨3⟩ := ⟨by decide, by decide +kernel⟩

theorem deletion_asks : deletion.Asks .delete (some ⟨8⟩) := ⟨by decide +kernel, by rfl⟩

private theorem listing_asks : listing.Asks (.read (some .listServerRoles)) none :=
  ⟨by decide +kernel, by rfl⟩

private theorem rollCall_asks : rollCall.Asks (.read (some .listRoleAssignments)) none :=
  ⟨by decide +kernel, by rfl⟩

/-- User 3 manages roles by the grant alone. -/
private theorem granted_of_manages {readAll writeAll deleteAll : Bool} {family : Family}
    (manages : (deputized readAll writeAll deleteAll).storage.ManagesRoles ⟨7⟩ ⟨3⟩ family) :
    (deputized readAll writeAll deleteAll).storage.Granted ⟨7⟩ ⟨3⟩ family := by
  obtain ⟨-, ⟨server, found, owns⟩ | granted | flag⟩ := manages
  · obtain rfl : _ = server := Except.ok.inj found
    exact absurd owns (by decide)
  · exact granted
  · have flag : house.storage.HoldsServerFlag ⟨7⟩ ⟨3⟩ .manageRoles := flag
    exact absurd flag (by decide)

end Sample

/-- A creation is allowed exactly to whom the tables let create, a deletion exactly to whom they let
delete the object that is named. -/
theorem mutation_allowed_iff (reliable : storage.Reliable) (latency : Option Nat) (scope : Scope)
    (identify : claims.Identify now caller) (asks : request.Asks operation objectId) :
    (operation = .create →
      (verdict storage latency now (some claims) scope request = .decided () ↔
        storage.MayCreate caller scope request.objectClass)) ∧
    (operation = .delete →
      (verdict storage latency now (some claims) scope request = .decided () ↔
        ∃ id ∈ objectId, storage.MayDelete caller scope id request.objectClass)) := by
  have decides := verdict_eq_decided_iff_may reliable latency scope identify asks
  constructor
  · rintro rfl
    exact decides
  · rintro rfl
    exact decides

/-- Who holds the role that manages roles may delete it. A stranger may not, nor with a grant for
anything but deletions, but with one for deletions. -/
theorem holder_deletes_role :
    verdict Sample.house.storage none .epoch (some (Sample.claimsOf ⟨2⟩)) .unscoped Sample.deletion =
        .decided () ∧
      verdict Sample.house.storage none .epoch (some (Sample.claimsOf ⟨3⟩)) .unscoped
        Sample.deletion ≠ .decided () ∧
      verdict (Sample.deputized true true false).storage none .epoch (some (Sample.claimsOf ⟨3⟩))
        .unscoped Sample.deletion ≠ .decided () ∧
      verdict (Sample.deputized false false true).storage none .epoch (some (Sample.claimsOf ⟨3⟩))
        .unscoped Sample.deletion = .decided () := by
  have reliable : Sample.house.storage.Reliable := Memory.reliable rfl
  have reliable' (r w d : Bool) : (Sample.deputized r w d).storage.Reliable := Memory.reliable rfl
  have holder := (mutation_allowed_iff reliable none .unscoped Sample.holder_identified
    Sample.deletion_asks).2 rfl
  have stranger := (mutation_allowed_iff reliable none .unscoped Sample.stranger_identified
    Sample.deletion_asks).2 rfl
  have deputy (r w d : Bool) := (mutation_allowed_iff (reliable' r w d) none .unscoped
    Sample.stranger_identified Sample.deletion_asks).2 rfl
  refine ⟨?holder, ?stranger, ?others, ?deputy⟩
  case holder =>
    refine holder.mpr ⟨⟨8⟩, rfl, _, rfl, .inl rfl, ⟨_, rfl⟩, .inr (.inr ?_)⟩
    decide
  case stranger =>
    intro allowed
    obtain ⟨id, named, row, stored, -, -, may⟩ := stranger.mp allowed
    obtain rfl := Option.some.inj named
    obtain rfl : _ = row := Except.ok.inj stored
    rcases may with ⟨server, found, owns⟩ | ⟨grant, found, -⟩ | flag
    · obtain rfl : _ = server := Except.ok.inj found
      exact absurd owns (by decide)
    · exact nomatch found
    · exact absurd flag (by decide)
  case others =>
    intro allowed
    obtain ⟨id, named, row, stored, -, may⟩ := (deputy true true false).mp allowed
    obtain rfl := Option.some.inj named
    obtain rfl : _ = row := Except.ok.inj stored
    obtain ⟨grant, found, deletes⟩ := Sample.granted_of_manages may
    obtain rfl : _ = grant := Except.ok.inj found
    exact absurd deletes (by decide)
  case deputy =>
    exact (deputy false false true).mpr
      ⟨⟨8⟩, rfl, _, rfl, .inl rfl, ⟨_, rfl⟩, .inr (.inl ⟨_, rfl, rfl⟩)⟩

/-- A read is allowed exactly to whom the tables let read, and a write that creates nothing to no
one. -/
theorem read_allowed_iff (reliable : storage.Reliable) (latency : Option Nat) (scope : Scope)
    (identify : claims.Identify now caller) (asks : request.Asks operation objectId) :
    (∀ sub, operation = .read sub →
      (verdict storage latency now (some claims) scope request = .decided () ↔
        storage.MayRead caller scope objectId request.objectClass sub)) ∧
    (∀ sub, operation = .write sub →
      verdict storage latency now (some claims) scope request ≠ .decided ()) := by
  have decides := verdict_eq_decided_iff_may reliable latency scope identify asks
  constructor
  · rintro sub rfl
    exact decides
  · rintro sub rfl allowed
    exact decides.mp allowed

/-- Who holds the role that manages roles may list the roles of the server, and a stranger may not. To
whom they are assigned a stranger may list with a grant for reading, and with no other. -/
theorem holder_lists_roles :
    verdict Sample.house.storage none .epoch (some (Sample.claimsOf ⟨2⟩)) (.server ⟨7⟩)
        Sample.listing = .decided () ∧
      verdict Sample.house.storage none .epoch (some (Sample.claimsOf ⟨3⟩)) (.server ⟨7⟩)
        Sample.listing ≠ .decided () ∧
      verdict (Sample.deputized true false false).storage none .epoch (some (Sample.claimsOf ⟨3⟩))
        (.server ⟨7⟩) Sample.rollCall = .decided () ∧
      verdict (Sample.deputized false true true).storage none .epoch (some (Sample.claimsOf ⟨3⟩))
        (.server ⟨7⟩) Sample.rollCall ≠ .decided () := by
  have reliable : Sample.house.storage.Reliable := Memory.reliable rfl
  have reliable' (r w d : Bool) : (Sample.deputized r w d).storage.Reliable := Memory.reliable rfl
  have holder := (read_allowed_iff reliable none (.server ⟨7⟩) Sample.holder_identified
    Sample.listing_asks).1 _ rfl
  have stranger := (read_allowed_iff reliable none (.server ⟨7⟩) Sample.stranger_identified
    Sample.listing_asks).1 _ rfl
  have deputy (r w d : Bool) := (read_allowed_iff (reliable' r w d) none (.server ⟨7⟩)
    Sample.stranger_identified Sample.rollCall_asks).1 _ rfl
  refine ⟨?holder, ?stranger, ?deputy, ?others⟩
  case holder =>
    refine holder.mpr ⟨_, rfl, .inr ?_⟩
    decide
  case stranger =>
    intro allowed
    obtain ⟨server, named, subscribed | flag⟩ := stranger.mp allowed
    · obtain ⟨row, found⟩ := subscribed
      exact nomatch found
    · obtain rfl : _ = server := Except.ok.inj named
      exact absurd flag (by decide)
  case deputy =>
    exact (deputy true false false).mpr ⟨_, rfl, ⟨_, rfl⟩, .inr (.inl ⟨_, rfl, rfl⟩)⟩
  case others =>
    intro allowed
    obtain ⟨server, named, may⟩ := (deputy false true true).mp allowed
    obtain rfl : _ = server := Except.ok.inj named
    obtain ⟨grant, found, reads⟩ := Sample.granted_of_manages may
    obtain rfl : _ = grant := Except.ok.inj found
    exact absurd reads (by decide)

end Gatehouse
