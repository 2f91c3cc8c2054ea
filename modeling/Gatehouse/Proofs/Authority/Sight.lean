import Gatehouse.Proofs.Authority.Table
import Gatehouse.Proofs.Likeness

/-! # What decisions see

A decision does not use all that an answer says. Of a role that it loads it uses the server, and of
the roles that a user holds whether they hold certain flags together. What a failing store reports
goes into the refusal only. So storages whose answers differ in nothing else are asked the same
lookups and lead to like ends.
-/

namespace Gatehouse

variable {E : Refusal → Refusal → Prop}

/-- The flags that the rules of the tables ask for. -/
def ServerFlags.asked : List ServerFlags := [.manageChannels, .manageRoles]

def SubFlags.asked : List SubFlags := [.manageSubs]

/-- Both masks have the same of the flags that rules ask for. -/
structure PermissionMask.SameUse (a b : PermissionMask) : Prop where
  server : ∀ flags ∈ ServerFlags.asked, a.hasServer flags = b.hasServer flags
  sub : ∀ flags ∈ SubFlags.asked, a.hasSub flags = b.hasSub flags

theorem PermissionMask.SameUse.refl (a : PermissionMask) : a.SameUse a :=
  ⟨fun _ _ => rfl, fun _ _ => rfl⟩

/-- In which order masks are collected does not matter. -/
theorem PermissionMask.collect_perm {masks masks' : List PermissionMask} (perm : masks.Perm masks') :
    collect masks = collect masks' := by
  have swap (x y : Int64) (z : Int64) : (z ||| x) ||| y = (z ||| y) ||| x := by
    rw [Int64.or_assoc, Int64.or_comm x, Int64.or_assoc]
  refine perm.foldl_eq' (fun a _ b _ start => ?_) empty
  simp only [union, swap a.server.bits, swap a.channel, swap a.sub.bits]

/-- A decision makes the same of both findings. -/
def Lookup.SameUse : (q : Lookup) → q.Found → q.Found → Prop
  | .role _, row, row' => row.serverId = row'.serverId
  | .rolesHeld _ _, roles, roles' =>
    (PermissionMask.collect (roles.map RoleRow.mask)).SameUse
      (PermissionMask.collect (roles'.map RoleRow.mask))
  | .server _, row, row' => row = row'
  | .subscription _, row, row' | .membership _ _, row, row' => row = row'
  | .assignment _, row, row' => row = row'
  | .grantFor _ _, row, row' | .grant _, row, row' => row = row'
  | .channel _, row, row' => row = row'
  | .override _, row, row' => row = row'

/-- A decision makes the same of both answers, where refusals may differ as `E` says. -/
inductive Lookup.Like (E : Refusal → Refusal → Prop) (q : Lookup) : q.Reply → q.Reply → Prop
  | found {found found' : q.Found} (same : q.SameUse found found') : Like E q (.ok found) (.ok found')
  | noRows : Like E q (.error .noRows) (.error .noRows)
  | backend {report report' : String} {causes causes' : List String}
      (like : ∀ origin, E
        (.internal origin (LookupFailure.backend report causes).text (report :: causes))
        (.internal origin (LookupFailure.backend report' causes').text (report' :: causes'))) :
      Like E q (.error (.backend report causes)) (.error (.backend report' causes'))

theorem Lookup.SameUse.refl (q : Lookup) (found : q.Found) : q.SameUse found found := by
  cases q with
  | rolesHeld serverId userId => exact PermissionMask.SameUse.refl _
  | _ => rfl

theorem Lookup.Like.refl (refl : ∀ r, E r r) (q : Lookup) (reply : q.Reply) :
    q.Like E reply reply := by
  obtain ⟨⟨⟩ | _⟩ | found := reply
  · exact .noRows
  · exact .backend fun origin => refl _
  · exact .found (.refl q found)

/-- The answers are the same, lists of roles up to their order. -/
def Lookup.Agree : (q : Lookup) → q.Reply → q.Reply → Prop
  | .rolesHeld _ _, .ok roles, .ok roles' => roles.Perm roles'
  | _, reply, reply' => reply = reply'

/-- A decision makes the same of answers that agree. -/
theorem Lookup.Agree.like (refl : ∀ r, E r r) {q : Lookup} {reply reply' : q.Reply}
    (agree : q.Agree reply reply') : q.Like E reply reply' := by
  cases q with
  | rolesHeld serverId userId =>
    cases reply with
    | error failure => exact agree ▸ .refl refl _ _
    | ok roles =>
      cases reply' with
      | error failure => cases agree
      | ok roles' =>
        have perm : roles.Perm roles' := agree
        refine .found ?_
        rw [SameUse, PermissionMask.collect_perm (perm.map RoleRow.mask)]
        exact .refl _
  | _ => exact agree ▸ .refl refl _ _

/-- Two inquiries that a decision makes the same of. -/
abbrev Inquiry.Akin {α β : Type} (E : Refusal → Refusal → Prop) (R : α → β → Prop) :
    Inquiry α → Inquiry β → Prop :=
  Inquiry.Alike (Lookup.Like E) E R

private theorem Inquiry.find?_akin (origin : String) (q : Lookup) :
    Akin E (Option.Rel q.SameUse) (find? origin q) (find? origin q) := by
  refine .ask fun reply reply' like => ?_
  cases like with
  | found same => exact .decided (.some same)
  | noRows => exact .decided .none
  | backend like => exact .refused (like origin)

section Rules

variable (refl : ∀ r, E r r)

include refl

theorem loadServer_akin (serverId : Uuid) :
    Inquiry.Akin E Eq (loadServer serverId) (loadServer serverId) := by
  refine (Inquiry.find?_akin _ (.server serverId)).bind fun found found' same => ?_
  cases same with
  | none => exact .refused (refl _)
  | some same => exact .decided same

private theorem ownsServer_akin (serverId userId : Uuid) :
    Inquiry.Akin E Eq (ownsServer serverId userId) (ownsServer serverId userId) := by
  exact (loadServer_akin refl serverId).bind_eq fun server => .decided rfl

omit refl in
private theorem isMember_akin (serverId userId : Uuid) :
    Inquiry.Akin E Eq (isMember serverId userId) (isMember serverId userId) := by
  refine (Inquiry.find?_akin _ (.membership serverId userId)).bind fun found found' same => ?_
  cases same with
  | none => exact .decided rfl
  | some same => exact .decided rfl

omit refl in
private theorem maskOf_akin (serverId userId : Uuid) :
    Inquiry.Akin E PermissionMask.SameUse (maskOf serverId userId) (maskOf serverId userId) := by
  refine (Inquiry.find?_akin _ (.rolesHeld serverId userId)).bind fun found found' same => ?_
  cases same with
  | none => exact .decided (.refl _)
  | some same => exact .decided same

private theorem ownsOrGranted_akin (serverId userId : Uuid) (family : Family) :
    Inquiry.Akin E Eq (ownsOrGranted serverId userId family)
      (ownsOrGranted serverId userId family) := by
  refine (ownsServer_akin refl serverId userId).bind_eq fun owns => ?_
  cases owns with
  | true => exact .decided rfl
  | false =>
    refine (Inquiry.find?_akin _ (.grantFor serverId userId)).bind fun found found' same => ?_
    cases same with
    | none => exact .decided rfl
    | some same => exact .decided (congrArg (GrantRow.covers · family) same)

variable {facts : Facts}

/-- The predicate asks for no other flags than those of the tables. -/
def Predicate.Usual : Predicate → Prop
  | .serverFlag flags => flags ∈ ServerFlags.asked
  | .subFlag flags => flags ∈ SubFlags.asked
  | _ => True

private theorem Predicate.holds_akin {p : Predicate} (usual : p.Usual) :
    Inquiry.Akin E Eq (p.holds facts) (p.holds facts) := by
  have located {f : Uuid → Inquiry Bool} (akin : ∀ s, Inquiry.Akin E Eq (f s) (f s)) :
      Inquiry.Akin E Eq (facts.needServer >>= f) (facts.needServer >>= f) := by
    unfold Facts.needServer
    cases facts.server with
    | none => exact .refused (refl _)
    | some s => exact akin s
  cases p with
  | always | targetIsCaller => exact .decided rfl
  | serverOwner => exact located fun s => ownsServer_akin refl s _
  | member => exact located fun s => isMember_akin s _
  | baseCheck => exact located fun s => ownsOrGranted_akin refl s _ _
  | serverFlag asked =>
    exact located fun s => (maskOf_akin s _).bind fun _ _ same => .decided (same.server _ usual)
  | subFlag asked =>
    exact located fun s => (maskOf_akin s _).bind fun _ _ same => .decided (same.sub _ usual)
  | targetIsOwner =>
    unfold holds
    cases facts.targetUser with
    | none => exact .decided rfl
    | some user => exact located fun s => ownsServer_akin refl s user

theorem Rule.allows_akin {rule : Rule} (usual : ∀ p ∈ rule.predicates, p.Usual) :
    Inquiry.Akin E Eq (rule.allows facts) (rule.allows facts) := by
  have listed (ps : List Predicate) (usual : ∀ p ∈ ps, p.Usual) :
      Inquiry.Akin E Eq (anyHolds facts ps) (anyHolds facts ps) := by
    induction ps with
    | nil => exact .decided rfl
    | cons p rest ih =>
      obtain ⟨usual, later⟩ := List.forall_mem_cons.mp usual
      refine (p.holds_akin refl usual).bind_eq fun held => ?_
      cases held with
      | true => exact .decided rfl
      | false => exact ih later
  obtain ⟨denyIf, allowIf⟩ := rule
  cases denyIf with
  | none => exact listed allowIf usual
  | some guard =>
    obtain ⟨usual, later⟩ := List.forall_mem_cons.mp usual
    refine (guard.holds_akin refl usual).bind_eq fun denied => ?_
    cases denied with
    | true => exact .decided rfl
    | false => exact listed allowIf later

omit refl in
theorem Policy.usual {c : ObjectClass} {operation : Operation} {entry : PolicyEntry}
    (listed : entry ∈ entry? c operation) : ∀ p ∈ entry.rule.predicates, p.Usual := by
  have usual : ∀ rule ∈ [anyone, ownerOnly, members, roleManagers, channelManagers,
      overrideManagers, .anyOf [.baseCheck], .anyOf [.member, .serverFlag .manageRoles],
      subscriptionRemovers], ∀ p ∈ rule.predicates, p.Usual := by
    simp [anyone, ownerOnly, members, roleManagers, channelManagers, overrideManagers,
      subscriptionRemovers, Rule.anyOf, Rule.except, Rule.predicates, Predicate.Usual,
      ServerFlags.asked, SubFlags.asked]
    rintro p (rfl | rfl | rfl | rfl) <;> trivial
  apply usual
  rcases rule_cases listed with ordinary | ⟨rule, -, -⟩
  · exact List.mem_append_left [subscriptionRemovers] ordinary
  · rw [rule]
    simp

/-- All that a decision uses of a target is the same. -/
structure Target.SameUse (a b : Target) : Prop where
  serverId : a.serverId = b.serverId
  user? : a.user? = b.user?
  channel? : a.channel? = b.channel?

omit refl in
private theorem Target.fetch?_akin (c : ObjectClass) (id : Uuid) :
    Inquiry.Akin E (Option.Rel SameUse) (fetch? c id) (fetch? c id) := by
  have wrapped (q : Lookup) (wrap : q.Found → Target)
      (uses : ∀ a b, q.SameUse a b → SameUse (wrap a) (wrap b)) :
      Inquiry.Akin E (Option.Rel SameUse)
        (do return (← Inquiry.find? Target.origin q).map wrap)
        (do return (← Inquiry.find? Target.origin q).map wrap) := by
    refine (Inquiry.find?_akin _ q).bind fun found found' same => ?_
    cases same with
    | none => exact .decided .none
    | some same => exact .decided (.some (uses _ _ same))
  have whole {α : Type} (wrap : α → Target) (a b : α) (same : a = b) : SameUse (wrap a) (wrap b) := by
    subst same
    exact ⟨rfl, rfl, rfl⟩
  cases c with
  | role => exact wrapped (.role id) .role fun _ _ same => ⟨same, rfl, rfl⟩
  | server => exact wrapped (.server id) .server (whole _)
  | subscription => exact wrapped (.subscription id) .subscription (whole _)
  | assignment => exact wrapped (.assignment id) .assignment (whole _)
  | channel => exact wrapped (.channel id) .channel (whole _)
  | override => exact wrapped (.override id) .override (whole _)
  | grant => exact wrapped (.grant id) .grant (whole _)

private theorem Target.load_akin (c : ObjectClass) (id : Uuid) (within : Option Uuid) :
    Inquiry.Akin E SameUse (load c id within) (load c id within) := by
  refine (fetch?_akin c id).bind fun found found' same => ?_
  cases same with
  | none => exact .refused (refl _)
  | @some target target' same =>
    cases within with
    | none => exact .decided same
    | some serverId =>
      simp only [same.serverId]
      split
      · exact .decided same
      · exact .refused (refl _)

private theorem Scope.resolve_akin (scope : Scope) :
    Inquiry.Akin E Eq scope.resolve scope.resolve := by
  cases scope with
  | unscoped => exact .decided rfl
  | server id => exact (loadServer_akin refl id).bind_eq fun _ => .decided rfl
  | channel id =>
    refine (Target.load_akin refl .channel id none).bind fun channel channel' same => ?_
    rw [same.serverId]
    exact (loadServer_akin refl _).bind_eq fun _ => .decided rfl

private theorem ScopeUse.select_akin (use : ScopeUse) (scope : Scope) :
    Inquiry.Akin E Eq (use.select scope) (use.select scope) := by
  cases use with
  | ignored => exact .decided rfl
  | ifPresent => exact scope.resolve_akin refl
  | required =>
    refine (scope.resolve_akin refl).bind_eq fun found => ?_
    cases found with
    | none => exact .refused (refl _)
    | some resolved => exact .decided rfl

private theorem loadTarget_akin (c : ObjectClass) (id : Option Uuid)
    (scope : Option ResolvedScope) :
    Inquiry.Akin E (Option.Rel Target.SameUse) (loadTarget c id scope) (loadTarget c id scope) := by
  cases id with
  | none => exact .decided .none
  | some id =>
    refine (Target.load_akin refl c id _).bind fun target target' same => ?_
    simp only [same.channel?]
    split
    · split
      · exact .decided (.some same)
      · exact .refused (refl _)
    · exact .decided (.some same)

omit refl in
theorem Facts.ofParts_eq {caller : Uuid} {operation : Operation} {scope : Option ResolvedScope}
    {target target' : Option Target} (same : Option.Rel Target.SameUse target target') :
    ofParts caller operation scope target = ofParts caller operation scope target' := by
  cases same with
  | none => rfl
  | some same => simp only [ofParts, Option.map_some, Option.bind_some, same.serverId, same.user?]

/-- A decision that is given the same to use asks the same and comes to like ends. -/
theorem authorize_akin (now : Time) (claims : Option Claims) (scope : Scope) (request : Request) :
    Inquiry.Akin E Eq (authorize now claims scope request)
      (authorize now claims scope request) := by
  refine .ofExcept_bind refl _ fun caller _ => ?_
  refine .ofExcept_bind refl _ fun objectId _ => ?_
  refine .ofExcept_bind refl _ fun (operation, entry) listed => ?_
  refine .ofExcept_bind refl _ fun targetId _ => ?_
  refine (entry.scope.select_akin refl scope).bind_eq fun resolved => ?_
  refine (loadTarget_akin refl _ _ _).bind fun target target' same => ?_
  rw [Facts.ofParts_eq same]
  have usual := Policy.usual (Request.entry_eq_ok listed).2
  refine (Rule.allows_akin refl usual).bind_eq fun allowed => ?_
  cases allowed with
  | true => exact .decided rfl
  | false => exact .refused (refl _)

end Rules

end Gatehouse
