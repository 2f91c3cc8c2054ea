import Gatehouse.Proofs.Authority.Rule

/-! # What a decision depends on

Before the rule is asked, a decision finds the server of its scope and the target it addresses. A
scope names a server directly or by way of a channel. A stored object fits a scope if it lives in the
server that the scope names and has to do with no other channel. A request with a caller, readable
ids and an entry in the policy table is allowed exactly when its scope and its target are found as
the entry wants them and the rule of the entry holds for them.
-/

namespace Gatehouse

variable {storage : Storage}

namespace Scope

/-- The server that a scope names exists and has this row. -/
def Names (storage : Storage) : Scope → Server → Prop
  | .unscoped, _ => False
  | .server id, row => storage (.server id) = .ok row
  | .channel id, row =>
    ∃ place, storage (.channel id) = .ok place ∧ storage (.server place.serverId) = .ok row

def channel? : Scope → Option Uuid
  | .channel id => some id
  | .unscoped | .server _ => none

/-- Without a scope all is in reach. With one it must name a server, which is the one given, and if
it is a channel and the object has to do with a channel, then with that one. -/
def Covers (storage : Storage) (scope : Scope) (serverId : Uuid) (own : Option Uuid) : Prop :=
  scope = .unscoped ∨
    ∃ row, scope.Names storage row ∧ serverId = row.id ∧
      ∀ channelId ∈ own, ∀ asked ∈ scope.channel?, channelId = asked

theorem Names.ne_unscoped {scope : Scope} {row : Server} (names : scope.Names storage row) :
    scope ≠ .unscoped := by
  rintro rfl
  exact names

theorem ne_unscoped_of_channel? {scope : Scope} {id : Uuid} (channel : id ∈ scope.channel?) :
    scope ≠ .unscoped := by
  rintro rfl
  cases channel

theorem Names.unique {scope : Scope} {row row' : Server} (names : scope.Names storage row)
    (names' : scope.Names storage row') : row = row' := by
  cases scope with
  | unscoped => exact names.elim
  | server id => exact Except.ok.inj (names.symm.trans names')
  | channel id =>
    obtain ⟨place, found, home⟩ := names
    obtain ⟨place', found', home'⟩ := names'
    obtain rfl := Except.ok.inj (found.symm.trans found')
    exact Except.ok.inj (home.symm.trans home')

private theorem resolve_eq_none_iff {scope : Scope} :
    scope.resolve.run storage = .ok none ↔ scope = .unscoped := by
  cases scope with
  | unscoped => simp [resolve]
  | server id => simp [resolve, Inquiry.run_bind_eq_ok_iff]
  | channel id => simp [resolve, Inquiry.run_bind_eq_ok_iff]

end Scope

namespace Target

/-- The storage has this object of this class under the id. -/
def Stored (storage : Storage) (c : ObjectClass) (id : Uuid) : Target → Prop
  | .server row => c = .server ∧ storage (.server id) = .ok row
  | .subscription row => c = .subscription ∧ storage (.subscription id) = .ok row
  | .role row => c = .role ∧ storage (.role id) = .ok row
  | .assignment row => c = .assignment ∧ storage (.assignment id) = .ok row
  | .channel row => c = .channel ∧ storage (.channel id) = .ok row
  | .override row => c = .override ∧ storage (.override id) = .ok row
  | .grant row => c = .grant ∧ storage (.grant id) = .ok row

private theorem find?_map_eq_some_iff {q : Lookup} {origin : String} {wrap : q.Found → Target}
    {target : Target} :
    (do return (← Inquiry.find? origin q).map wrap : Inquiry (Option Target)).run storage =
        .ok (some target) ↔
      ∃ row, storage q = .ok row ∧ wrap row = target := by
  simp only [Inquiry.run_bind_eq_ok_iff, Inquiry.run_pure, Except.ok.injEq]
  constructor
  · rintro ⟨found, asked, mapped⟩
    obtain ⟨row, rfl, same⟩ := Option.map_eq_some_iff.mp mapped
    exact ⟨row, Inquiry.run_find?_eq_some_iff.mp asked, same⟩
  · rintro ⟨row, answer, rfl⟩
    exact ⟨some row, Inquiry.run_find?_eq_some_iff.mpr answer, rfl⟩

theorem fetch?_eq_some_iff {c : ObjectClass} {id : Uuid} {target : Target} :
    (fetch? c id).run storage = .ok (some target) ↔ target.Stored storage c id := by
  cases c <;> refine find?_map_eq_some_iff.trans ?_ <;> cases target <;> simp [Stored]

/-- An object is loaded if it is stored and lives in the server asked for, if one is. -/
theorem load_eq_ok_iff {c : ObjectClass} {id : Uuid} {within : Option Uuid} {target : Target} :
    (load c id within).run storage = .ok target ↔
      target.Stored storage c id ∧ ∀ s ∈ within, target.serverId = s := by
  simp only [load, Inquiry.run_bind_eq_ok_iff]
  constructor
  · rintro ⟨found, fetched, kept⟩
    cases found with
    | none => cases kept
    | some object =>
      rw [fetch?_eq_some_iff] at fetched
      cases within with
      | none =>
        cases kept
        simpa using fetched
      | some s =>
        by_cases same : object.serverId = s
        · simp only [if_pos same] at kept
          cases kept
          simpa [same] using fetched
        · simp only [if_neg same] at kept
          cases kept
  · rintro ⟨stored, inside⟩
    refine ⟨some target, fetch?_eq_some_iff.mpr stored, ?_⟩
    cases within with
    | none => rfl
    | some s => simp [inside s rfl]

end Target

private theorem Scope.resolve_eq_some_iff {scope : Scope} {resolved : ResolvedScope} :
    scope.resolve.run storage = .ok (some resolved) ↔
      scope.Names storage resolved.server ∧ resolved.channelId = scope.channel? := by
  obtain ⟨server, channelId⟩ := resolved
  cases scope with
  | unscoped => simp [resolve, Names]
  | server id =>
    simp only [resolve, Inquiry.run_bind_eq_ok_iff, loadServer_eq_ok_iff, Inquiry.run_pure,
      Except.ok.injEq, Option.some.injEq, ResolvedScope.mk.injEq, Names, channel?]
    constructor
    · rintro ⟨row, answer, rfl, rfl⟩
      exact ⟨answer, rfl⟩
    · rintro ⟨answer, rfl⟩
      exact ⟨server, answer, rfl, rfl⟩
  | channel id =>
    simp only [resolve, Inquiry.run_bind_eq_ok_iff, Target.load_eq_ok_iff, loadServer_eq_ok_iff,
      Inquiry.run_pure, Except.ok.injEq, Option.some.injEq, ResolvedScope.mk.injEq, Names, channel?]
    constructor
    · rintro ⟨target, ⟨stored, -⟩, row, answer, rfl, rfl⟩
      cases target <;> simp only [Target.Stored, reduceCtorEq, false_and, true_and] at stored
      exact ⟨⟨_, stored, answer⟩, rfl⟩
    · rintro ⟨⟨row, stored, answer⟩, rfl⟩
      refine ⟨.channel row, ⟨⟨rfl, stored⟩, ?_⟩, server, answer, rfl, rfl⟩
      simp

/-- The scope is used as the entry wants it. -/
def ScopeUse.Chooses (storage : Storage) (scope : Scope) : ScopeUse → Option ResolvedScope → Prop
  | .ignored, resolved => resolved = none
  | .ifPresent, none => scope = .unscoped
  | .required, none => False
  | .ifPresent, some resolved | .required, some resolved =>
    scope.Names storage resolved.server ∧ resolved.channelId = scope.channel?

theorem ScopeUse.select_eq_ok_iff {use : ScopeUse} {scope : Scope} {resolved : Option ResolvedScope} :
    (use.select scope).run storage = .ok resolved ↔ use.Chooses storage scope resolved := by
  cases use with
  | ignored => simp [select, Chooses, eq_comm]
  | ifPresent =>
    cases resolved with
    | none => exact Scope.resolve_eq_none_iff
    | some resolved => exact Scope.resolve_eq_some_iff
  | required =>
    simp only [select, Inquiry.run_bind_eq_ok_iff]
    constructor
    · rintro ⟨found, asked, kept⟩
      cases found with
      | none => cases kept
      | some found =>
        cases kept
        exact Scope.resolve_eq_some_iff.mp asked
    · intro chosen
      cases resolved with
      | none => exact chosen.elim
      | some resolved => exact ⟨some resolved, Scope.resolve_eq_some_iff.mpr chosen, rfl⟩

theorem ScopeUse.Chooses.of_some {use : ScopeUse} {scope : Scope} {r : ResolvedScope}
    (chosen : use.Chooses storage scope (some r)) :
    use ≠ .ignored ∧ scope.Names storage r.server ∧ r.channelId = scope.channel? := by
  cases use with
  | ignored => cases chosen
  | ifPresent | required => exact ⟨nofun, chosen⟩

theorem ScopeUse.Chooses.eq_some {use : ScopeUse} {scope : Scope} {resolved : Option ResolvedScope}
    (chosen : use.Chooses storage scope resolved) (used : use ≠ .ignored)
    (named : scope ≠ .unscoped) :
    ∃ r, resolved = some r ∧ scope.Names storage r.server ∧ r.channelId = scope.channel? := by
  cases resolved with
  | some r => exact ⟨r, rfl, chosen.of_some.2⟩
  | none =>
    cases use with
    | ignored => exact (used rfl).elim
    | ifPresent => exact (named chosen).elim
    | required => exact chosen.elim

/-- The object lies within the scope that was found, as far as its class is checked for that. -/
def Target.Fits (c : ObjectClass) (scope : Option ResolvedScope) (target : Target) : Prop :=
  ∀ resolved ∈ scope, (c.scopeChecked = true → target.serverId = resolved.server.id) ∧
    ∀ own ∈ target.channel?, ∀ asked ∈ resolved.channelId, own = asked

theorem loadTarget_none {c : ObjectClass} {scope : Option ResolvedScope} {target : Option Target} :
    (loadTarget c none scope).run storage = .ok target ↔ target = none := by
  simp [loadTarget, eq_comm]

theorem loadTarget_some {c : ObjectClass} {id : Uuid} {scope : Option ResolvedScope}
    {found : Option Target} :
    (loadTarget c (some id) scope).run storage = .ok found ↔
      ∃ target, found = some target ∧ target.Stored storage c id ∧ target.Fits c scope := by
  simp only [loadTarget, Inquiry.run_bind_eq_ok_iff, Target.load_eq_ok_iff]
  apply exists_congr
  intro target
  have inside : (∀ s ∈ (if c.scopeChecked = true then scope.map (·.server.id) else none),
      target.serverId = s) ↔
      ∀ resolved ∈ scope, c.scopeChecked = true → target.serverId = resolved.server.id := by
    cases c.scopeChecked <;> simp
  rw [inside]
  refine Iff.trans (and_congr Iff.rfl (?place : _ ↔ found = some target ∧
    ∀ resolved ∈ scope, ∀ own ∈ target.channel?, ∀ asked ∈ resolved.channelId, own = asked)) ?_
  case place =>
    cases target.channel? with
    | none => simp [eq_comm]
    | some own =>
      cases scope with
      | none => simp [eq_comm]
      | some resolved =>
        cases named : resolved.channelId with
        | none => simp [named, eq_comm]
        | some asked =>
          by_cases same : own = asked <;> simp [named, same, eq_comm]
  constructor
  · rintro ⟨⟨stored, server⟩, same, channel⟩
    exact ⟨same, stored, fun resolved named => ⟨server resolved named, channel resolved named⟩⟩
  · rintro ⟨same, stored, fits⟩
    exact ⟨⟨stored, fun resolved named => (fits resolved named).1⟩, same,
      fun resolved named => (fits resolved named).2⟩

/-- The object that the request addresses is used as the entry wants it. -/
def TargetUse.Finds (storage : Storage) (c : ObjectClass) (objectId : Option Uuid)
    (scope : Option ResolvedScope) : TargetUse → Option Target → Prop
  | .ignored, found => found = none
  | .optional, none => objectId = none
  | .required, none => False
  | .optional, some target | .required, some target =>
    ∃ id ∈ objectId, target.Stored storage c id ∧ target.Fits c scope

theorem TargetUse.select_loadTarget_iff {c : ObjectClass} {objectId : Option Uuid}
    {scope : Option ResolvedScope} {use : TargetUse} {found : Option Target} :
    (∃ targetId, use.select objectId = .ok targetId ∧
        (loadTarget c targetId scope).run storage = .ok found) ↔
      use.Finds storage c objectId scope found := by
  cases use with
  | ignored => simp [select, loadTarget_none, Finds]
  | optional =>
    cases objectId with
    | none => cases found <;> simp [select, loadTarget_none, Finds]
    | some id => cases found <;> simp [select, loadTarget_some, Finds]
  | required =>
    cases objectId with
    | none => cases found <;> simp [select, Finds]
    | some id => cases found <;> simp [select, loadTarget_some, Finds]

/-- The claims are in force and name the caller. -/
structure Claims.Identify (claims : Claims) (now : Time) (caller : Uuid) : Prop where
  unexpired : now.seconds < claims.expiry.toInt
  readable : Uuid.ofPadded? claims.userId = some caller

theorem Claims.caller_eq_ok_iff {claims : Claims} {now : Time} {caller : Uuid} :
    Claims.caller now (some claims) = .ok caller ↔ claims.Identify now caller := by
  by_cases expired : claims.expiry.toInt ≤ now.seconds
  · simp only [Claims.caller, if_pos expired, reduceCtorEq, false_iff]
    intro identify
    exact Int.not_lt.mpr expired identify.unexpired
  · simp only [Claims.caller, if_neg expired, readId]
    have unexpired := Int.not_le.mp expired
    cases readable : Uuid.ofPadded? claims.userId with
    | none =>
      simp only [reduceCtorEq, false_iff]
      intro identify
      exact nomatch readable.symm.trans identify.readable
    | some id =>
      simp only [Except.ok.injEq]
      constructor
      · rintro rfl
        exact ⟨unexpired, readable⟩
      · intro identify
        exact Option.some.inj (readable.symm.trans identify.readable)

/-- The entry of a request is the one of the operation that its words mean. -/
theorem Request.entry_eq_ok {request : Request} {operation : Operation} {entry : PolicyEntry}
    (read : request.entry = .ok (operation, entry)) :
    Operation.ofWords? request.action request.subAction = some operation ∧
      entry ∈ Policy.entry? request.objectClass operation := by
  unfold Request.entry at read
  split at read
  · cases read
  · next meant words =>
    split at read
    · cases read
    · next listed =>
      cases read
      exact ⟨words, listed⟩

/-- The words of the request mean this operation, and its object id, if it has one that is not nil,
is this. -/
structure Request.Asks (request : Request) (operation : Operation) (objectId : Option Uuid) :
    Prop where
  words : Operation.ofWords? request.action request.subAction = some operation
  target : readObjectId request.objectId = .ok objectId

/-- The scope and the target are found as the entry wants them, and its rule permits. -/
def PolicyEntry.Admits (storage : Storage) (caller : Uuid) (scope : Scope) (c : ObjectClass)
    (operation : Operation) (objectId : Option Uuid) (entry : PolicyEntry) : Prop :=
  ∃ resolved, entry.scope.Chooses storage scope resolved ∧
    ∃ found, entry.target.Finds storage c objectId resolved found ∧
      entry.rule.Permits storage (.ofParts caller operation resolved found)

section Decision

variable {now : Time} {claims : Claims} {caller : Uuid} {scope : Scope} {request : Request}
  {operation : Operation} {objectId : Option Uuid}

/-- A decision goes through if the entry is there and each of its stages goes through. -/
theorem authorize_eq_ok_iff_stages (identify : claims.Identify now caller)
    (asks : request.Asks operation objectId) :
    (authorize now (some claims) scope request).run storage = .ok () ↔
      ∃ entry ∈ Policy.entry? request.objectClass operation,
        ∃ resolved, entry.scope.Chooses storage scope resolved ∧
          ∃ found, entry.target.Finds storage request.objectClass objectId resolved found ∧
            (entry.rule.allows (.ofParts caller operation resolved found)).run storage =
              .ok true := by
  simp only [authorize, Inquiry.run_bind_eq_ok_iff, Inquiry.run_ofExcept,
    Claims.caller_eq_ok_iff.mpr identify, asks.target, Request.entry, asks.words,
    ScopeUse.select_eq_ok_iff, Except.ok.injEq, exists_eq_left']
  cases Policy.entry? request.objectClass operation with
  | none => simp
  | some entry =>
    simp only [Except.ok.injEq, exists_eq_left', Option.mem_some, exists_eq_left',
      ← TargetUse.select_loadTarget_iff]
    constructor
    · rintro ⟨targetId, selected, resolved, chosen, found, loaded, allowed, asked, kept⟩
      cases allowed with
      | false => cases kept
      | true => exact ⟨resolved, chosen, found, ⟨targetId, selected, loaded⟩, asked⟩
    · rintro ⟨resolved, chosen, found, ⟨targetId, selected, loaded⟩, asked⟩
      exact ⟨targetId, selected, resolved, chosen, found, loaded, true, asked, rfl⟩

/-- What is allowed has an object id that can be read. -/
theorem readObjectId_of_authorize {claims : Option Claims}
    (allowed : (authorize now claims scope request).run storage = .ok ()) :
    ∃ objectId, readObjectId request.objectId = .ok objectId := by
  simp only [authorize, Inquiry.run_bind_eq_ok_iff, Inquiry.run_ofExcept] at allowed
  obtain ⟨-, -, objectId, read, -⟩ := allowed
  exact ⟨objectId, read⟩

end Decision

end Gatehouse
