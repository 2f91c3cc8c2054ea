import Gatehouse.Proofs.Authority.Decision

/-! # Who may do what

The policy tables in words. For each class of objects it is said what a caller must be to create, to
read and to delete; an operation that is not named is open to no one. A request is allowed exactly if
the caller is what the table says, whatever the storage holds, as long as it answers.

The tables are one reading, the rules and the stages of a decision another. The two are tied together
entry by entry: each rule of the tables permits what its words say.
-/

namespace Gatehouse

variable {storage : Storage} {caller : Uuid} {scope : Scope} {objectId : Option Uuid}

namespace Storage

/-- Who owns the server, has a grant for the family or may manage roles there. -/
def ManagesRoles (storage : Storage) (serverId userId : Uuid) (family : Family) : Prop :=
  storage.Live serverId ∧
    (storage.Owns serverId userId ∨ storage.Granted serverId userId family ∨
      storage.HoldsServerFlag serverId userId .manageRoles)

/-- Who owns the server or may manage channels there. -/
def ManagesChannels (storage : Storage) (serverId userId : Uuid) : Prop :=
  storage.Live serverId ∧
    (storage.Owns serverId userId ∨ storage.HoldsServerFlag serverId userId .manageChannels)

/-- Who owns the server, has a grant for the family or may manage channels there. -/
def ManagesOverrides (storage : Storage) (serverId userId : Uuid) (family : Family) : Prop :=
  storage.Live serverId ∧
    (storage.Owns serverId userId ∨ storage.Granted serverId userId family ∨
      storage.HoldsServerFlag serverId userId .manageChannels)

/-- Who may end a subscription: its user, the owner of the server and who may manage subscriptions
there; but no one ends the owner's. -/
def MayEnd (storage : Storage) (caller : Uuid) (row : Subscription) : Prop :=
  storage.Live row.serverId ∧ ¬ storage.Owns row.serverId row.userId ∧
    (row.userId = caller ∨ storage.Owns row.serverId caller ∨
      storage.HoldsSubFlag row.serverId caller .manageSubs)

/-- Who may create an object of a class, by the server of the scope. -/
def MayCreate (storage : Storage) (caller : Uuid) (scope : Scope) : ObjectClass → Prop
  | .server => True
  | .subscription => scope = .unscoped ∨ ∃ server, scope.Names storage server
  | .role | .assignment =>
    ∃ server, scope.Names storage server ∧ storage.ManagesRoles server.id caller .write
  | .channel => ∃ server, scope.Names storage server ∧ storage.ManagesChannels server.id caller
  | .override =>
    ∃ server, scope.Names storage server ∧ storage.ManagesOverrides server.id caller .write
  | .grant => ∃ server, scope.Names storage server ∧ storage.Owns server.id caller

/-- Who may delete an object of a class, by the server that the object lives in. -/
def MayDelete (storage : Storage) (caller : Uuid) (scope : Scope) (id : Uuid) : ObjectClass → Prop
  | .server => ∃ row, storage (.server id) = .ok row ∧ storage.Owns row.id caller
  | .subscription => ∃ row, storage (.subscription id) = .ok row ∧ storage.MayEnd caller row
  | .role => ∃ row, storage (.role id) = .ok row ∧ scope.Covers storage row.serverId none ∧
      storage.ManagesRoles row.serverId caller .delete
  | .assignment => ∃ row, storage (.assignment id) = .ok row ∧
      scope.Covers storage row.serverId none ∧ storage.ManagesRoles row.serverId caller .delete
  | .channel => ∃ row, storage (.channel id) = .ok row ∧
      scope.Covers storage row.serverId (some row.id) ∧ storage.ManagesChannels row.serverId caller
  | .override => ∃ row, storage (.override id) = .ok row ∧
      scope.Covers storage row.serverId (some row.channelId) ∧
      storage.ManagesOverrides row.serverId caller .delete
  | .grant => ∃ row, storage (.grant id) = .ok row ∧ storage.Owns row.serverId caller

/-- Who may read what of a class, by the server of the scope. -/
def MayRead (storage : Storage) (caller : Uuid) (scope : Scope) (objectId : Option Uuid) :
    ObjectClass → Option SubAction → Prop
  | .server, none | .server, some .list | .server, some .getById =>
    ∀ id ∈ objectId, storage.Live id
  | .subscription, some .listUserSubs =>
    scope = .unscoped ∨ ∃ server, scope.Names storage server
  | .subscription, some .listServerSubs => ∃ server, scope.Names storage server ∧
      storage.Live server.id ∧
      (storage.Owns server.id caller ∨ storage.Granted server.id caller .read)
  | .role, some .listServerRoles => ∃ server, scope.Names storage server ∧
      (storage.Subscribed server.id caller ∨
        storage.HoldsServerFlag server.id caller .manageRoles)
  | .assignment, some .list | .assignment, some .listRoleAssignments =>
    ∃ server, scope.Names storage server ∧ storage.ManagesRoles server.id caller .read
  | .channel, some .listChannels =>
    ∃ server, scope.Names storage server ∧ storage.Subscribed server.id caller
  | .channel, some .getById => ∃ server, scope.Names storage server ∧
      storage.Subscribed server.id caller ∧
      ∃ id ∈ objectId, ∃ row, storage (.channel id) = .ok row ∧ row.serverId = server.id ∧
        ∀ asked ∈ scope.channel?, row.id = asked
  | .override, none | .override, some .list | .override, some .getById =>
    ∃ server, scope.Names storage server ∧ storage.Subscribed server.id caller ∧
      ∀ id ∈ objectId, ∃ row, storage (.override id) = .ok row ∧ row.serverId = server.id ∧
        ∀ asked ∈ scope.channel?, row.channelId = asked
  | .grant, some .listServerUserPermissions =>
    ∃ server, scope.Names storage server ∧ storage.Owns server.id caller
  | _, _ => False

/-- Who may do an operation. No write but a creation is open to anyone. -/
def May (storage : Storage) (caller : Uuid) (scope : Scope) (objectId : Option Uuid)
    (c : ObjectClass) : Operation → Prop
  | .create => storage.MayCreate caller scope c
  | .delete => ∃ id ∈ objectId, storage.MayDelete caller scope id c
  | .read sub => storage.MayRead caller scope objectId c sub
  | .write _ => False

end Storage

namespace Policy

variable {facts : Facts} {s : Uuid}

theorem anyone_permits : anyone.Permits storage facts := by
  simp [anyone, Rule.permits_anyOf_iff, Predicate.Defined, Predicate.Means]

theorem ownerOnly_permits_iff (named : facts.server = some s) :
    ownerOnly.Permits storage facts ↔ storage.Owns s facts.caller := by
  simp only [ownerOnly, Rule.permits_anyOf_iff, Predicate.Defined, Predicate.Means, named,
    List.mem_singleton, exists_eq_left, Option.mem_some, exists_eq_left']
  exact and_iff_right_of_imp Storage.Owns.live

theorem members_permits_iff (named : facts.server = some s) :
    members.Permits storage facts ↔ storage.Subscribed s facts.caller := by
  simp [members, Rule.permits_anyOf_iff, Predicate.Defined, Predicate.Means, named]

theorem baseCheck_permits_iff (named : facts.server = some s) :
    (Rule.anyOf [.baseCheck]).Permits storage facts ↔ storage.Live s ∧
      (storage.Owns s facts.caller ∨ storage.Granted s facts.caller facts.family) := by
  simp [Rule.permits_anyOf_iff, Predicate.Defined, Predicate.Means, named]

theorem roleLister_permits_iff (named : facts.server = some s) :
    (Rule.anyOf [.member, .serverFlag .manageRoles]).Permits storage facts ↔
      storage.Subscribed s facts.caller ∨
        storage.HoldsServerFlag s facts.caller .manageRoles := by
  have flag : ServerFlags.manageRoles.bits &&& 7 = ServerFlags.manageRoles.bits := by decide
  simp [Rule.permits_anyOf_iff, Predicate.Defined, Predicate.Means, named, flag]

theorem roleManagers_permits_iff (named : facts.server = some s) :
    roleManagers.Permits storage facts ↔ storage.ManagesRoles s facts.caller facts.family := by
  have flag : ServerFlags.manageRoles.bits &&& 7 = ServerFlags.manageRoles.bits := by decide
  simp [roleManagers, Rule.permits_anyOf_iff, Predicate.Defined, Predicate.Means, named, flag,
    Storage.ManagesRoles, or_assoc]

theorem channelManagers_permits_iff (named : facts.server = some s) :
    channelManagers.Permits storage facts ↔ storage.ManagesChannels s facts.caller := by
  have flag : ServerFlags.manageChannels.bits &&& 7 = ServerFlags.manageChannels.bits := by decide
  simp [channelManagers, Rule.permits_anyOf_iff, Predicate.Defined, Predicate.Means, named, flag,
    Storage.ManagesChannels]

theorem overrideManagers_permits_iff (named : facts.server = some s) :
    overrideManagers.Permits storage facts ↔
      storage.ManagesOverrides s facts.caller facts.family := by
  have flag : ServerFlags.manageChannels.bits &&& 7 = ServerFlags.manageChannels.bits := by decide
  simp [overrideManagers, Rule.permits_anyOf_iff, Predicate.Defined, Predicate.Means, named, flag,
    Storage.ManagesOverrides, or_assoc]

theorem subscriptionRemovers_permits_iff {row : Subscription}
    (named : facts.server = some row.serverId) (owned : facts.targetUser = some row.userId) :
    subscriptionRemovers.Permits storage facts ↔ storage.MayEnd facts.caller row := by
  have flag : SubFlags.manageSubs.bits &&& 1 = SubFlags.manageSubs.bits := by decide
  simp [subscriptionRemovers, Rule.permits_except_iff, Predicate.Defined, Predicate.Means, named,
    owned, flag, Storage.MayEnd]

/-- The rules of the tables: all but one only allow. -/
theorem rule_cases {c : ObjectClass} {operation : Operation} {entry : PolicyEntry}
    (listed : entry ∈ entry? c operation) :
    entry.rule ∈ [anyone, ownerOnly, members, roleManagers, channelManagers, overrideManagers,
        .anyOf [.baseCheck], .anyOf [.member, .serverFlag .manageRoles]] ∨
      entry.rule = subscriptionRemovers ∧ c = .subscription ∧ operation = .delete := by
  cases c <;>
    simp only [ entry?, server, subscription, role, assignment, channel, override, grant] at listed <;>
    split at listed <;> cases listed <;> simp

/-- Every rule of the tables is defined as soon as its first predicate is; for the one that denies
the target must belong to a user. -/
theorem headed {c : ObjectClass} {operation : Operation} {entry : PolicyEntry}
    (listed : entry ∈ entry? c operation)
    (owned : c = .subscription → operation = .delete → facts.targetUser ≠ none)
    (first : ∀ p ∈ entry.rule.predicates.head?, p.Defined storage facts) :
    ∀ p ∈ entry.rule.predicates, p.Defined storage facts := by
  have weaker (live : ∃ s ∈ facts.server, storage.Live s) : ∃ s, facts.server = some s := by
    obtain ⟨s, named, -⟩ := live
    exact ⟨s, named⟩
  rcases rule_cases listed with ordinary | ⟨rule, rfl, rfl⟩
  · simp only [List.mem_cons, List.not_mem_nil, or_false] at ordinary
    rcases ordinary with rule | rule | rule | rule | rule | rule | rule | rule <;>
      rw [rule] at first ⊢ <;>
      simp_all [Rule.predicates, Rule.anyOf, Predicate.Defined, anyone, ownerOnly, members,
        roleManagers, channelManagers, overrideManagers]
  · rw [rule] at first ⊢
    have user := owned rfl rfl
    simp_all [Rule.predicates, Rule.except, Predicate.Defined, subscriptionRemovers]

end Policy

end Gatehouse
