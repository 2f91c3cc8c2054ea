import Gatehouse.Proofs.Authority.Table

/-! # Whom an entry admits

An entry of the policy tables is read by what it does with the scope and with the target. For each
combination that the tables use it is said in one statement about the storage whom such an entry
admits, and from these the tables in words follow, class by class.
-/

namespace Gatehouse

variable {storage : Storage} {caller : Uuid} {scope : Scope} {objectId : Option Uuid}

/-- A statement about the stored object of a class is one about a row. -/
theorem Target.exists_stored_iff {c : ObjectClass} {id : Uuid} {P : Target → Prop} :
    (∃ target, target.Stored storage c id ∧ P target) ↔
      match c with
      | .server => ∃ row, storage (.server id) = .ok row ∧ P (.server row)
      | .subscription => ∃ row, storage (.subscription id) = .ok row ∧ P (.subscription row)
      | .role => ∃ row, storage (.role id) = .ok row ∧ P (.role row)
      | .assignment => ∃ row, storage (.assignment id) = .ok row ∧ P (.assignment row)
      | .channel => ∃ row, storage (.channel id) = .ok row ∧ P (.channel row)
      | .override => ∃ row, storage (.override id) = .ok row ∧ P (.override row)
      | .grant => ∃ row, storage (.grant id) = .ok row ∧ P (.grant row) := by
  constructor
  · rintro ⟨target, stored, holds⟩
    cases target <;> obtain ⟨rfl, answer⟩ := stored <;> exact ⟨_, answer, holds⟩
  · cases c with
    | server =>
      rintro ⟨row, answer, holds⟩
      exact ⟨.server row, ⟨rfl, answer⟩, holds⟩
    | subscription =>
      rintro ⟨row, answer, holds⟩
      exact ⟨.subscription row, ⟨rfl, answer⟩, holds⟩
    | role =>
      rintro ⟨row, answer, holds⟩
      exact ⟨.role row, ⟨rfl, answer⟩, holds⟩
    | assignment =>
      rintro ⟨row, answer, holds⟩
      exact ⟨.assignment row, ⟨rfl, answer⟩, holds⟩
    | channel =>
      rintro ⟨row, answer, holds⟩
      exact ⟨.channel row, ⟨rfl, answer⟩, holds⟩
    | override =>
      rintro ⟨row, answer, holds⟩
      exact ⟨.override row, ⟨rfl, answer⟩, holds⟩
    | grant =>
      rintro ⟨row, answer, holds⟩
      exact ⟨.grant row, ⟨rfl, answer⟩, holds⟩

private theorem Target.fits_none {c : ObjectClass} {target : Target} : target.Fits c none := by
  simp [Fits]

private theorem Target.fits_some {c : ObjectClass} {resolved : ResolvedScope} {target : Target} :
    target.Fits c (some resolved) ↔
      (c.scopeChecked = true → target.serverId = resolved.server.id) ∧
        ∀ own ∈ target.channel?, ∀ asked ∈ resolved.channelId, own = asked := by
  simp [Fits]

namespace PolicyEntry

variable {c : ObjectClass} {operation : Operation} {rule : Rule}

/-- The facts when the server is the one of the scope. -/
def inScope (caller : Uuid) (operation : Operation) (server : Server) : Facts :=
  .ofParts caller operation (some ⟨server, none⟩) none

/-- The facts when the server is the one of the target. -/
def atTarget (caller : Uuid) (operation : Operation) (target : Target) : Facts :=
  .ofParts caller operation none (some target)

private theorem admits_scoped_iff {P : Server → Prop}
    (means : ∀ server, rule.Permits storage (inScope caller operation server) ↔ P server) :
    (⟨.ignored, .required, rule⟩ : PolicyEntry).Admits storage caller scope c operation objectId ↔
      ∃ server, scope.Names storage server ∧ P server := by
  constructor
  · rintro ⟨resolved, chosen, found, rfl, permits⟩
    cases resolved with
    | none => exact chosen.elim
    | some resolved => exact ⟨resolved.server, chosen.1, (means resolved.server).mp permits⟩
  · rintro ⟨server, names, holds⟩
    exact ⟨some ⟨server, scope.channel?⟩, ⟨names, rfl⟩, none, rfl, (means server).mpr holds⟩

private theorem admits_anyone_ifPresent_iff :
    (⟨.ignored, .ifPresent, Policy.anyone⟩ : PolicyEntry).Admits storage caller scope c operation
        objectId ↔
      scope = .unscoped ∨ ∃ server, scope.Names storage server := by
  constructor
  · rintro ⟨resolved, chosen, -⟩
    cases resolved with
    | none => exact .inl chosen
    | some resolved => exact .inr ⟨resolved.server, chosen.1⟩
  · rintro (unscoped | ⟨server, names⟩)
    · exact ⟨none, unscoped, none, rfl, Policy.anyone_permits⟩
    · exact ⟨some ⟨server, scope.channel?⟩, ⟨names, rfl⟩, none, rfl, Policy.anyone_permits⟩

private theorem admits_target_iff :
    (⟨.required, .ignored, rule⟩ : PolicyEntry).Admits storage caller scope c operation objectId ↔
      ∃ id ∈ objectId, ∃ target, target.Stored storage c id ∧
        rule.Permits storage (atTarget caller operation target) := by
  constructor
  · rintro ⟨resolved, rfl, found, finds, permits⟩
    cases found with
    | none => exact finds.elim
    | some target =>
      obtain ⟨id, sent, stored, -⟩ := finds
      exact ⟨id, sent, target, stored, permits⟩
  · rintro ⟨id, sent, target, stored, permits⟩
    exact ⟨none, rfl, some target, ⟨id, sent, stored, Target.fits_none⟩, permits⟩

/-- For a class that is checked for its server, to fit the scope is to be covered by it. -/
theorem admits_target_ifPresent_iff (checked : c.scopeChecked = true) :
    (⟨.required, .ifPresent, rule⟩ : PolicyEntry).Admits storage caller scope c operation
        objectId ↔
      ∃ id ∈ objectId, ∃ target, target.Stored storage c id ∧
        scope.Covers storage target.serverId target.channel? ∧
          rule.Permits storage (atTarget caller operation target) := by
  constructor
  · rintro ⟨resolved, chosen, found, finds, permits⟩
    cases found with
    | none => exact finds.elim
    | some target =>
      obtain ⟨id, sent, stored, fits⟩ := finds
      refine ⟨id, sent, target, stored, ?_, permits⟩
      cases resolved with
      | none => exact .inl chosen
      | some resolved =>
        obtain ⟨names, place⟩ := chosen
        obtain ⟨inside, agrees⟩ := Target.fits_some.mp fits
        exact .inr ⟨resolved.server, names, inside checked, place ▸ agrees⟩
  · rintro ⟨id, sent, target, stored, unscoped | ⟨server, names, inside, agrees⟩, permits⟩
    · exact ⟨none, unscoped, some target, ⟨id, sent, stored, Target.fits_none⟩, permits⟩
    · refine ⟨some ⟨server, scope.channel?⟩, ⟨names, rfl⟩, some target, ⟨id, sent, stored, ?_⟩,
        permits⟩
      exact Target.fits_some.mpr ⟨fun _ => inside, agrees⟩

private theorem admits_anyone_optional_iff :
    (⟨.optional, .ignored, Policy.anyone⟩ : PolicyEntry).Admits storage caller scope c operation
        objectId ↔
      ∀ id ∈ objectId, ∃ target : Target, target.Stored storage c id := by
  constructor
  · rintro ⟨resolved, rfl, found, finds, -⟩ id sent
    cases found with
    | none => exact nomatch sent.symm.trans finds
    | some target =>
      obtain ⟨asked, same, stored, -⟩ := finds
      obtain rfl := Option.some.inj (sent.symm.trans same)
      exact ⟨target, stored⟩
  · intro exist
    cases objectId with
    | none => exact ⟨none, rfl, none, rfl, Policy.anyone_permits⟩
    | some id =>
      obtain ⟨target, stored⟩ := exist id rfl
      exact ⟨none, rfl, some target, ⟨id, rfl, stored, Target.fits_none⟩, Policy.anyone_permits⟩

/-- For a class that is checked for its server, members see what lives in the server of the scope. -/
theorem admits_members_required_iff (checked : c.scopeChecked = true) :
    (⟨.required, .required, Policy.members⟩ : PolicyEntry).Admits storage caller scope c operation
        objectId ↔
      ∃ server, scope.Names storage server ∧ storage.Subscribed server.id caller ∧
        ∃ id ∈ objectId, ∃ target : Target, target.Stored storage c id ∧ target.serverId = server.id ∧
          ∀ own ∈ target.channel?, ∀ asked ∈ scope.channel?, own = asked := by
  constructor
  · rintro ⟨resolved, chosen, found, finds, permits⟩
    cases resolved with
    | none => exact chosen.elim
    | some resolved =>
      cases found with
      | none => exact finds.elim
      | some target =>
        obtain ⟨names, place⟩ := chosen
        obtain ⟨id, sent, stored, fits⟩ := finds
        obtain ⟨inside, agrees⟩ := Target.fits_some.mp fits
        have subscribed := (Policy.members_permits_iff rfl).mp permits
        exact ⟨resolved.server, names, inside checked ▸ subscribed, id, sent, target, stored,
          inside checked, place ▸ agrees⟩
  · rintro ⟨server, names, subscribed, id, sent, target, stored, inside, agrees⟩
    refine ⟨some ⟨server, scope.channel?⟩, ⟨names, rfl⟩, some target, ⟨id, sent, stored, ?_⟩, ?_⟩
    · exact Target.fits_some.mpr ⟨fun _ => inside, agrees⟩
    · exact (Policy.members_permits_iff rfl).mpr (inside ▸ subscribed)

private theorem admits_members_optional_iff (checked : c.scopeChecked = true) :
    (⟨.optional, .required, Policy.members⟩ : PolicyEntry).Admits storage caller scope c operation
        objectId ↔
      ∃ server, scope.Names storage server ∧ storage.Subscribed server.id caller ∧
        ∀ id ∈ objectId, ∃ target : Target, target.Stored storage c id ∧ target.serverId = server.id ∧
          ∀ own ∈ target.channel?, ∀ asked ∈ scope.channel?, own = asked := by
  cases objectId with
  | none =>
    constructor
    · rintro ⟨resolved, chosen, found, finds, permits⟩
      cases resolved with
      | none => exact chosen.elim
      | some resolved =>
        cases found with
        | none => exact ⟨resolved.server, chosen.1, (Policy.members_permits_iff rfl).mp permits, nofun⟩
        | some target => exact nomatch finds
    · rintro ⟨server, names, subscribed, -⟩
      exact ⟨some ⟨server, scope.channel?⟩, ⟨names, rfl⟩, none, rfl,
        (Policy.members_permits_iff rfl).mpr subscribed⟩
  | some id =>
    -- an id that was sent is looked at just as one that must be
    have same : (⟨.optional, .required, Policy.members⟩ : PolicyEntry).Admits storage caller scope c
        operation (some id) ↔
        (⟨.required, .required, Policy.members⟩ : PolicyEntry).Admits storage caller scope c
          operation (some id) := by
      apply exists_congr
      intro resolved
      refine and_congr Iff.rfl (exists_congr fun found => ?_)
      cases found with
      | none => simp [TargetUse.Finds]
      | some target => exact Iff.rfl
    simpa using same.trans (admits_members_required_iff checked)

end PolicyEntry

namespace Policy

open PolicyEntry

variable {operation : Operation}

private theorem server_admits_iff :
    (∃ entry ∈ server operation, entry.Admits storage caller scope .server operation objectId) ↔
      storage.May caller scope objectId .server operation := by
  have reads : (⟨.optional, .ignored, anyone⟩ : PolicyEntry).Admits storage caller scope .server
      operation objectId ↔ ∀ id ∈ objectId, storage.Live id := by
    refine admits_anyone_optional_iff.trans (forall₂_congr fun id _ => ?_)
    simpa [Storage.Live] using Target.exists_stored_iff (c := .server) (P := fun _ => True)
  cases operation with
  | create =>
    simp only [server, Option.mem_some_iff, exists_eq_left', Storage.May, Storage.MayCreate, iff_true]
    exact ⟨none, rfl, none, rfl, anyone_permits⟩
  | delete =>
    simp only [server, Option.mem_some_iff, exists_eq_left', Storage.May, Storage.MayDelete]
    refine admits_target_iff.trans (exists_congr fun id => and_congr Iff.rfl ?_)
    refine Target.exists_stored_iff.trans (exists_congr fun row => and_congr Iff.rfl ?_)
    exact ownerOnly_permits_iff rfl
  | write sub => simp [server, Storage.May]
  | read sub =>
    cases sub with
    | none => simpa [server, Storage.May, Storage.MayRead] using reads
    | some sub =>
      cases sub <;> simp [server, Storage.May, Storage.MayRead, reads]

private theorem subscription_admits_iff :
    (∃ entry ∈ subscription operation,
        entry.Admits storage caller scope .subscription operation objectId) ↔
      storage.May caller scope objectId .subscription operation := by
  cases operation with
  | create =>
    simp only [subscription, Option.mem_some_iff, exists_eq_left', Storage.May, Storage.MayCreate]
    exact admits_anyone_ifPresent_iff
  | delete =>
    simp only [subscription, Option.mem_some_iff, exists_eq_left', Storage.May, Storage.MayDelete]
    refine admits_target_iff.trans (exists_congr fun id => and_congr Iff.rfl ?_)
    refine Target.exists_stored_iff.trans (exists_congr fun row => and_congr Iff.rfl ?_)
    exact subscriptionRemovers_permits_iff rfl rfl
  | write sub => simp [subscription, Storage.May]
  | read sub =>
    cases sub with
    | none => simp [subscription, Storage.May, Storage.MayRead]
    | some sub =>
      cases sub
      case listServerSubs =>
        simp only [subscription, Option.mem_some_iff, exists_eq_left', Storage.May, Storage.MayRead]
        exact admits_scoped_iff fun _ => baseCheck_permits_iff rfl
      case listUserSubs =>
        simp only [subscription, Option.mem_some_iff, exists_eq_left', Storage.May, Storage.MayRead]
        exact admits_anyone_ifPresent_iff
      all_goals simp [subscription, Storage.May, Storage.MayRead]

private theorem role_admits_iff :
    (∃ entry ∈ role operation, entry.Admits storage caller scope .role operation objectId) ↔
      storage.May caller scope objectId .role operation := by
  cases operation with
  | create =>
    simp only [role, Option.mem_some_iff, exists_eq_left', Storage.May, Storage.MayCreate]
    exact admits_scoped_iff fun _ => roleManagers_permits_iff rfl
  | delete =>
    simp only [role, Option.mem_some_iff, exists_eq_left', Storage.May, Storage.MayDelete]
    refine (admits_target_ifPresent_iff rfl).trans (exists_congr fun id => and_congr Iff.rfl ?_)
    refine Target.exists_stored_iff.trans (exists_congr fun row => and_congr Iff.rfl ?_)
    refine and_congr ?_ (roleManagers_permits_iff rfl)
    exact Iff.rfl
  | write sub => simp [role, Storage.May]
  | read sub =>
    cases sub with
    | none => simp [role, Storage.May, Storage.MayRead]
    | some sub =>
      cases sub
      case listServerRoles =>
        simp only [role, Option.mem_some_iff, exists_eq_left', Storage.May, Storage.MayRead]
        exact admits_scoped_iff fun _ => roleLister_permits_iff rfl
      all_goals simp [role, Storage.May, Storage.MayRead]

private theorem assignment_admits_iff :
    (∃ entry ∈ assignment operation,
        entry.Admits storage caller scope .assignment operation objectId) ↔
      storage.May caller scope objectId .assignment operation := by
  cases operation with
  | create =>
    simp only [assignment, Option.mem_some_iff, exists_eq_left', Storage.May, Storage.MayCreate]
    exact admits_scoped_iff fun _ => roleManagers_permits_iff rfl
  | delete =>
    simp only [assignment, Option.mem_some_iff, exists_eq_left', Storage.May, Storage.MayDelete]
    refine (admits_target_ifPresent_iff rfl).trans (exists_congr fun id => and_congr Iff.rfl ?_)
    refine Target.exists_stored_iff.trans (exists_congr fun row => and_congr Iff.rfl ?_)
    refine and_congr ?_ (roleManagers_permits_iff rfl)
    exact Iff.rfl
  | write sub => simp [assignment, Storage.May]
  | read sub =>
    cases sub with
    | none => simp [assignment, Storage.May, Storage.MayRead]
    | some sub =>
      cases sub
      case listRoleAssignments | list =>
        simp only [assignment, Option.mem_some_iff, exists_eq_left', Storage.May, Storage.MayRead]
        exact admits_scoped_iff fun _ => roleManagers_permits_iff rfl
      all_goals simp [assignment, Storage.May, Storage.MayRead]

private theorem channel_admits_iff :
    (∃ entry ∈ channel operation, entry.Admits storage caller scope .channel operation objectId) ↔
      storage.May caller scope objectId .channel operation := by
  cases operation with
  | create =>
    simp only [channel, Option.mem_some_iff, exists_eq_left', Storage.May, Storage.MayCreate]
    exact admits_scoped_iff fun _ => channelManagers_permits_iff rfl
  | delete =>
    simp only [channel, Option.mem_some_iff, exists_eq_left', Storage.May, Storage.MayDelete]
    refine (admits_target_ifPresent_iff rfl).trans (exists_congr fun id => and_congr Iff.rfl ?_)
    refine Target.exists_stored_iff.trans (exists_congr fun row => and_congr Iff.rfl ?_)
    refine and_congr ?_ (channelManagers_permits_iff rfl)
    exact Iff.rfl
  | write sub => simp [channel, Storage.May]
  | read sub =>
    cases sub with
    | none => simp [channel, Storage.May, Storage.MayRead]
    | some sub =>
      cases sub
      case listChannels =>
        simp only [channel, Option.mem_some_iff, exists_eq_left', Storage.May, Storage.MayRead]
        exact admits_scoped_iff fun _ => members_permits_iff rfl
      case getById =>
        simp only [channel, Option.mem_some_iff, exists_eq_left', Storage.May, Storage.MayRead]
        refine (admits_members_required_iff rfl).trans (exists_congr fun server => ?_)
        refine and_congr Iff.rfl (and_congr Iff.rfl (exists_congr fun id => and_congr Iff.rfl ?_))
        refine Target.exists_stored_iff.trans (exists_congr fun row => and_congr Iff.rfl ?_)
        simp [Target.serverId, Target.channel?]
      all_goals simp [channel, Storage.May, Storage.MayRead]

private theorem override_admits_iff :
    (∃ entry ∈ override operation, entry.Admits storage caller scope .override operation objectId) ↔
      storage.May caller scope objectId .override operation := by
  have reads : (⟨.optional, .required, members⟩ : PolicyEntry).Admits storage caller scope .override
      operation objectId ↔
      ∃ server, scope.Names storage server ∧ storage.Subscribed server.id caller ∧
        ∀ id ∈ objectId, ∃ row, storage (.override id) = .ok row ∧ row.serverId = server.id ∧
          ∀ asked ∈ scope.channel?, row.channelId = asked := by
    refine (admits_members_optional_iff rfl).trans (exists_congr fun server => ?_)
    refine and_congr Iff.rfl (and_congr Iff.rfl (forall₂_congr fun id _ => ?_))
    refine Target.exists_stored_iff.trans (exists_congr fun row => and_congr Iff.rfl ?_)
    simp [Target.serverId, Target.channel?]
  cases operation with
  | create =>
    simp only [override, Option.mem_some_iff, exists_eq_left', Storage.May, Storage.MayCreate]
    exact admits_scoped_iff fun _ => overrideManagers_permits_iff rfl
  | delete =>
    simp only [override, Option.mem_some_iff, exists_eq_left', Storage.May, Storage.MayDelete]
    refine (admits_target_ifPresent_iff rfl).trans (exists_congr fun id => and_congr Iff.rfl ?_)
    refine Target.exists_stored_iff.trans (exists_congr fun row => and_congr Iff.rfl ?_)
    refine and_congr ?_ (overrideManagers_permits_iff rfl)
    exact Iff.rfl
  | write sub => simp [override, Storage.May]
  | read sub =>
    cases sub with
    | none => simpa [override, Storage.May, Storage.MayRead] using reads
    | some sub =>
      cases sub
      case list | getById => simpa [override, Storage.May, Storage.MayRead] using reads
      all_goals simp [override, Storage.May, Storage.MayRead]

private theorem grant_admits_iff :
    (∃ entry ∈ grant operation, entry.Admits storage caller scope .grant operation objectId) ↔
      storage.May caller scope objectId .grant operation := by
  cases operation with
  | create =>
    simp only [grant, Option.mem_some_iff, exists_eq_left', Storage.May, Storage.MayCreate]
    exact admits_scoped_iff fun _ => ownerOnly_permits_iff rfl
  | delete =>
    simp only [grant, Option.mem_some_iff, exists_eq_left', Storage.May, Storage.MayDelete]
    refine admits_target_iff.trans (exists_congr fun id => and_congr Iff.rfl ?_)
    refine Target.exists_stored_iff.trans (exists_congr fun row => and_congr Iff.rfl ?_)
    exact ownerOnly_permits_iff rfl
  | write sub => simp [grant, Storage.May]
  | read sub =>
    cases sub with
    | none => simp [grant, Storage.May, Storage.MayRead]
    | some sub =>
      cases sub
      case listServerUserPermissions =>
        simp only [grant, Option.mem_some_iff, exists_eq_left', Storage.May, Storage.MayRead]
        exact admits_scoped_iff fun _ => ownerOnly_permits_iff rfl
      all_goals simp [grant, Storage.May, Storage.MayRead]

/-- The entry of an operation, if there is one, admits exactly whom the tables in words name. -/
theorem admits_iff_may {c : ObjectClass} :
    (∃ entry ∈ entry? c operation, entry.Admits storage caller scope c operation objectId) ↔
      storage.May caller scope objectId c operation := by
  cases c with
  | server => exact server_admits_iff
  | subscription => exact subscription_admits_iff
  | role => exact role_admits_iff
  | assignment => exact assignment_admits_iff
  | channel => exact channel_admits_iff
  | override => exact override_admits_iff
  | grant => exact grant_admits_iff

end Policy

end Gatehouse
