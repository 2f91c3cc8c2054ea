import Gatehouse.Authorization

/-! # The wording of refusals

A decision refuses with failures whose messages are fixed by their kind, up to a few that tell what
is wrong with a request. Where it refused and what was behind it is not part of the message, so it
is not part of what is told outside.
-/

namespace Gatehouse

/-- The message of a code, where there is only one. -/
def Code.message? : Code → Option String
  | .invalidArgument => none
  | .notFound => some "resource not found"
  | .permissionDenied => some "unauthorized"
  | .unauthenticated => some "missing/invalid token"
  | .internal => some "internal server error"
  | .cancelled => some "request cancelled"
  | .deadlineExceeded => some "deadline exceeded"

/-- The message is that of the code, or one of three if an argument is invalid. -/
def Status.Worded (status : Status) : Prop :=
  status.code.message? = some status.message ∨
    status.code = .invalidArgument ∧
      status.message ∈ ["invalid uuid", "missing field", "conflicting scope"]

/-- The refusal is a failure with such a message. -/
def Refusal.Worded (r : Refusal) : Prop := r.kind?.isSome = true ∧ r.status.Worded

namespace Inquiry

variable {α β : Type} {kind : Refusal → Prop}

/-- Whatever it is told, the inquiry refuses with refusals of this kind only. -/
def Refuses (kind : Refusal → Prop) : Inquiry α → Prop
  | .decided _ => True
  | .refused r => kind r
  | .ask _ next => ∀ reply, (next reply).Refuses kind

theorem Refuses.bind {i : Inquiry α} (first : i.Refuses kind) {f : α → Inquiry β}
    (second : ∀ a, (f a).Refuses kind) : (i >>= f).Refuses kind := by
  change (i.bind f).Refuses kind
  induction i with
  | decided a => exact second a
  | refused r => exact first
  | ask q next ih => exact fun reply => ih reply (first reply)

private theorem refuses_ofExcept {result : Except Refusal α}
    (told : ∀ r, result = .error r → kind r) :
    (ofExcept result).Refuses kind := by
  cases result with
  | ok a => trivial
  | error r => exact told r rfl

end Inquiry

/-- All refusals of the inquiry are worded. -/
abbrev Inquiry.Worded {α : Type} (i : Inquiry α) : Prop := i.Refuses Refusal.Worded

namespace Refusal

private theorem worded_invalidUuid (origin : String) : (invalidUuid origin).Worded :=
  ⟨rfl, .inr ⟨rfl, .head _⟩⟩

private theorem worded_missingField (origin : String) : (missingField origin).Worded :=
  ⟨rfl, .inr ⟨rfl, .tail _ (.head _)⟩⟩

private theorem worded_notFound (origin : String) : (notFound origin).Worded := ⟨rfl, .inl rfl⟩

private theorem worded_denied (origin : String) : (denied origin).Worded := ⟨rfl, .inl rfl⟩

private theorem worded_unauthenticated (origin : String) : (unauthenticated origin).Worded :=
  ⟨rfl, .inl rfl⟩

private theorem worded_internal (origin cause : String) (deeper : List String) :
    (internal origin cause deeper).Worded := ⟨rfl, .inl rfl⟩

end Refusal

private theorem find?_worded (origin : String) (q : Lookup) :
    (Inquiry.find? origin q).Worded := by
  intro reply
  obtain ⟨⟨⟩ | _⟩ | found := reply
  · trivial
  · exact Refusal.worded_internal ..
  · trivial

section Rules

variable {facts : Facts}

private theorem loadServer_worded (serverId : Uuid) : (loadServer serverId).Worded := by
  refine (find?_worded _ _).bind fun found => ?_
  cases found with
  | none => exact Refusal.worded_notFound _
  | some row => trivial

private theorem ownsServer_worded (serverId userId : Uuid) : (ownsServer serverId userId).Worded :=
  (loadServer_worded serverId).bind fun _ => trivial

private theorem isMember_worded (serverId userId : Uuid) : (isMember serverId userId).Worded :=
  (find?_worded _ _).bind fun _ => trivial

private theorem maskOf_worded (serverId userId : Uuid) : (maskOf serverId userId).Worded :=
  (find?_worded _ _).bind fun _ => trivial

private theorem ownsOrGranted_worded (serverId userId : Uuid) (family : Family) :
    (ownsOrGranted serverId userId family).Worded := by
  refine (ownsServer_worded serverId userId).bind fun owns => ?_
  cases owns with
  | true => trivial
  | false =>
    refine (find?_worded _ _).bind fun found => ?_
    cases found <;> trivial

private theorem Facts.needServer_worded : facts.needServer.Worded := by
  unfold needServer
  split
  · trivial
  · exact Refusal.worded_missingField _

private theorem Predicate.holds_worded (p : Predicate) : (p.holds facts).Worded := by
  have located {α : Type} {f : Uuid → Inquiry α} (worded : ∀ s, (f s).Worded) :
      (facts.needServer >>= f).Worded :=
    Facts.needServer_worded.bind worded
  cases p with
  | always | targetIsCaller => trivial
  | serverOwner => exact located fun s => ownsServer_worded s facts.caller
  | member => exact located fun s => isMember_worded s facts.caller
  | baseCheck => exact located fun s => ownsOrGranted_worded s facts.caller facts.family
  | serverFlag asked =>
    exact located fun s => (maskOf_worded s facts.caller).bind fun _ => trivial
  | subFlag asked =>
    exact located fun s => (maskOf_worded s facts.caller).bind fun _ => trivial
  | targetIsOwner =>
    simp only [holds]
    cases facts.targetUser with
    | none => trivial
    | some user => exact located fun s => ownsServer_worded s user

private theorem anyHolds_worded (ps : List Predicate) : (anyHolds facts ps).Worded := by
  induction ps with
  | nil => trivial
  | cons p rest ih =>
    refine p.holds_worded.bind fun holds => ?_
    cases holds with
    | true => trivial
    | false => exact ih

private theorem Rule.allows_worded (rule : Rule) : (rule.allows facts).Worded := by
  unfold allows
  split
  · next guard _ =>
    refine guard.holds_worded.bind fun denied => ?_
    cases denied with
    | true => trivial
    | false => exact anyHolds_worded rule.allowIf
  · exact anyHolds_worded rule.allowIf

end Rules

private theorem Target.fetch?_worded (c : ObjectClass) (id : Uuid) : (fetch? c id).Worded := by
  have fetched {q : Lookup} {wrap : q.Found → Target} :
      (do return (← Inquiry.find? origin q).map wrap : Inquiry (Option Target)).Worded :=
    (find?_worded _ _).bind fun _ => trivial
  cases c <;> exact fetched

private theorem Target.load_worded (c : ObjectClass) (id : Uuid) (within : Option Uuid) :
    (load c id within).Worded := by
  refine (fetch?_worded c id).bind fun found => ?_
  cases found with
  | none => exact Refusal.worded_notFound _
  | some target =>
    cases within with
    | none => trivial
    | some s =>
      simp only
      split
      · trivial
      · exact Refusal.worded_notFound _

private theorem Scope.resolve_worded (scope : Scope) : scope.resolve.Worded := by
  cases scope with
  | unscoped => trivial
  | server id => exact (loadServer_worded id).bind fun _ => trivial
  | channel id =>
    refine (Target.load_worded .channel id none).bind fun target => ?_
    exact (loadServer_worded target.serverId).bind fun _ => trivial

private theorem ScopeUse.select_worded (use : ScopeUse) (scope : Scope) :
    (use.select scope).Worded := by
  cases use with
  | ignored => trivial
  | ifPresent => exact scope.resolve_worded
  | required =>
    refine scope.resolve_worded.bind fun found => ?_
    cases found with
    | none => exact Refusal.worded_missingField _
    | some resolved => trivial

private theorem loadTarget_worded (c : ObjectClass) (id : Option Uuid)
    (scope : Option ResolvedScope) :
    (loadTarget c id scope).Worded := by
  cases id with
  | none => trivial
  | some id =>
    refine (Target.load_worded _ _ _).bind fun target => ?_
    split
    · split
      · trivial
      · exact Refusal.worded_notFound _
    · trivial

private theorem readId_worded {origin raw : String} {r : Refusal}
    (refused : readId origin raw = .error r) : r.Worded := by
  unfold readId at refused
  split at refused <;> cases refused
  exact Refusal.worded_invalidUuid _

private theorem Claims.caller_worded {now : Time} {claims : Option Claims} {r : Refusal}
    (refused : caller now claims = .error r) : r.Worded := by
  unfold caller at refused
  split at refused
  · cases refused
    exact Refusal.worded_unauthenticated _
  · split at refused
    · cases refused
      exact Refusal.worded_unauthenticated _
    · exact readId_worded refused

private theorem readObjectId_worded {raw : Option String} {r : Refusal}
    (refused : readObjectId raw = .error r) : r.Worded := by
  unfold readObjectId at refused
  split at refused
  · cases refused
  · next word _ =>
    cases read : readId "resolve.object_id" word with
    | ok id =>
      rw [read] at refused
      cases refused
    | error fault =>
      rw [read] at refused
      cases refused
      exact readId_worded read

private theorem Request.entry_worded {request : Request} {r : Refusal}
    (refused : request.entry = .error r) : r.Worded := by
  unfold entry at refused
  split at refused
  · cases refused
    exact Refusal.worded_denied _
  · split at refused <;> cases refused
    exact Refusal.worded_denied _

private theorem TargetUse.select_worded {use : TargetUse} {objectId : Option Uuid} {r : Refusal}
    (refused : use.select objectId = .error r) : r.Worded := by
  unfold select at refused
  split at refused <;> cases refused
  exact Refusal.worded_denied _

theorem Scope.ofParts_worded {serverId channelId : Option String} {r : Refusal}
    (refused : Scope.ofParts serverId channelId = .error r) : r.Worded := by
  have read {origin word : String} {wrap : Uuid → Scope}
      (failed : (readId origin word).map wrap = .error r) : r.Worded := by
    cases result : readId origin word with
    | ok id =>
      rw [result] at failed
      cases failed
    | error fault =>
      rw [result] at failed
      cases failed
      exact readId_worded result
  unfold ofParts at refused
  split at refused
  · cases refused
  · exact read refused
  · exact read refused
  · cases refused
    exact ⟨rfl, .inr ⟨rfl, .tail _ (.tail _ (.head _))⟩⟩

/-- Every refusal of a decision is worded. -/
theorem authorize_worded (now : Time) (claims : Option Claims) (scope : Scope)
    (request : Request) : (authorize now claims scope request).Worded := by
  refine (Inquiry.refuses_ofExcept fun _ => Claims.caller_worded).bind fun caller => ?_
  refine (Inquiry.refuses_ofExcept fun _ => readObjectId_worded).bind fun objectId => ?_
  have worded (r : Refusal) : request.entry = .error r → r.Worded := Request.entry_worded
  -- the words of a request are long to read, and do not matter any more
  generalize request.entry = listed at worded ⊢
  refine (Inquiry.refuses_ofExcept worded).bind fun (operation, entry) => ?_
  refine (Inquiry.refuses_ofExcept fun _ => TargetUse.select_worded).bind fun targetId => ?_
  refine (entry.scope.select_worded scope).bind fun resolved => ?_
  refine (loadTarget_worded _ _ _).bind fun target => ?_
  refine entry.rule.allows_worded.bind fun allowed => ?_
  cases allowed with
  | true => trivial
  | false => exact Refusal.worded_denied _

end Gatehouse
