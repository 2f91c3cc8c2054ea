import Gatehouse.Proofs.Authority.Absence
import Gatehouse.Proofs.Authority.Brief
import Gatehouse.Proofs.Authority.FailClosed
import Gatehouse.Proofs.Authority.Support
import Gatehouse.Proofs.Path

/-! # What a decision looks up

Whatever the faults are, a decision looks up three things in order: its scope, its target, and what
its rule asks. The rule asks about one server, that of the target or else that of the scope, and
about no user but the caller. So no one is ever allowed something by what another user may do, or by
what the caller may do elsewhere. A decision makes at most six lookups.
-/

namespace Gatehouse

variable {storage : Storage} {qs : List Lookup}

namespace Inquiry

variable {α : Type} {i j : Inquiry α}

theorem Confined.path {kind : Lookup → Prop} (confined : i.Confined kind)
    (path : i.Path storage qs j) : ∀ q ∈ qs, kind q := by
  induction path with
  | here i => nofun
  | on told later ih => exact List.forall_mem_cons.mpr ⟨confined.1, ih (confined.2 _)⟩

end Inquiry

/-- What may be looked up for a scope: its channel first, and then its server. -/
inductive Scope.Trail (storage : Storage) : Scope → List Lookup → Prop
  | nothing (scope : Scope) : Trail storage scope []
  | server (id : Uuid) : Trail storage (.server id) [.server id]
  | channel (id : Uuid) : Trail storage (.channel id) [.channel id]
  | home {id : Uuid} {place : Channel} (found : storage (.channel id) = .ok place) :
      Trail storage (.channel id) [.channel id, .server place.serverId]

private theorem Scope.Trail.length_le {scope : Scope} (trail : scope.Trail storage qs) :
    qs.length ≤ 2 := by
  cases trail <;> simp

theorem loadServer_single (id : Uuid) : (loadServer id).Single (.server id) := by
  refine (Inquiry.single_find? _ _).bind fun found => ?_
  cases found <;> trivial

theorem Target.load_single (c : ObjectClass) (id : Uuid) (within : Option Uuid) :
    (load c id within).Single (c.lookup id) := by
  have fetched : (fetch? c id).Single (c.lookup id) := by
    cases c <;> exact (Inquiry.single_find? _ _).bind fun _ => trivial
  refine fetched.bind fun found => ?_
  cases found with
  | none => trivial
  | some target =>
    cases within with
    | none => trivial
    | some s =>
      dsimp only
      split <;> trivial

private theorem Scope.resolve_trail {scope : Scope} {j : Inquiry (Option ResolvedScope)}
    (path : scope.resolve.Path storage qs j) : scope.Trail storage qs := by
  have homed (id : Uuid) (channel : Option Uuid) :
      (do return some ⟨← loadServer id, channel⟩ :
        Inquiry (Option ResolvedScope)).Single (.server id) :=
    (loadServer_single id).bind fun _ => trivial
  cases scope with
  | unscoped =>
    obtain ⟨rfl, -⟩ := Inquiry.Silent.path (i := .decided none) trivial path
    exact .nothing _
  | server id =>
    rcases (homed id none).path path with ⟨rfl, -⟩ | ⟨rfl, -⟩
    · exact .nothing _
    · exact .server id
  | channel id =>
    have channel := Target.load_single .channel id none
    rcases Inquiry.path_bind_cases path with
      ⟨j, first, -, -⟩ | ⟨before, target, after, rfl, first, second⟩
    · rcases channel.path first with ⟨rfl, -⟩ | ⟨rfl, -⟩
      · exact .nothing _
      · exact .channel id
    · obtain rfl := channel.path_decided first
      obtain ⟨stored, -⟩ := Target.load_eq_ok_iff.mp (Target.load_exact _ _ _ _ first.reaches)
      cases target <;> simp only [Target.Stored, reduceCtorEq, false_and, true_and] at stored
      rcases (homed _ (some id)).path second with ⟨rfl, -⟩ | ⟨rfl, -⟩
      · exact .channel id
      · exact .home stored

private theorem ScopeUse.select_trail {use : ScopeUse} {scope : Scope}
    {j : Inquiry (Option ResolvedScope)}
    (path : (use.select scope).Path storage qs j) : scope.Trail storage qs := by
  cases use with
  | ignored =>
    obtain ⟨rfl, -⟩ := Inquiry.Silent.path (i := .decided none) trivial path
    exact .nothing _
  | ifPresent => exact Scope.resolve_trail path
  | required =>
    rcases Inquiry.path_bind_cases path with
      ⟨j, first, -, -⟩ | ⟨before, found, after, rfl, first, second⟩
    · exact Scope.resolve_trail first
    · obtain ⟨rfl, -⟩ := Inquiry.Silent.path (by cases found <;> trivial) second
      rw [List.append_nil]
      exact Scope.resolve_trail first

theorem loadTarget_single (c : ObjectClass) (id : Uuid) (resolved : Option ResolvedScope) :
    (loadTarget c (some id) resolved).Single (c.lookup id) := by
  refine (Target.load_single c id _).bind fun target => ?_
  split
  · split <;> trivial
  · trivial

private theorem loadTarget_trail {c : ObjectClass} {targetId : Option Uuid}
    {resolved : Option ResolvedScope} {j : Inquiry (Option Target)}
    (path : (loadTarget c targetId resolved).Path storage qs j) :
    qs = [] ∨ ∃ id ∈ targetId, qs = [c.lookup id] := by
  cases targetId with
  | none => exact .inl (Inquiry.Silent.path (i := .decided none) trivial path).1
  | some id =>
    rcases (loadTarget_single c id resolved).path path with ⟨unasked, -⟩ | ⟨asked, -⟩
    · exact .inl unasked
    · exact .inr ⟨id, rfl, asked⟩

/-- The most lookups that a predicate takes. -/
def Predicate.cost : Predicate → Nat
  | .always | .targetIsCaller => 0
  | .serverOwner | .member | .serverFlag _ | .subFlag _ | .targetIsOwner => 1
  | .baseCheck => 2

theorem ownsServer_single (serverId userId : Uuid) :
    (ownsServer serverId userId).Single (.server serverId) :=
  (loadServer_single serverId).bind fun _ => trivial

private theorem isMember_single (serverId userId : Uuid) :
    (isMember serverId userId).Single (.membership serverId userId) :=
  (Inquiry.single_find? _ _).bind fun _ => trivial

private theorem maskOf_single (serverId userId : Uuid) :
    (maskOf serverId userId).Single (.rolesHeld serverId userId) :=
  (Inquiry.single_find? _ _).bind fun _ => trivial

private theorem ownsOrGranted_atMost (serverId userId : Uuid) (family : Family) :
    (ownsOrGranted serverId userId family).AtMost 2 := by
  refine (ownsServer_single serverId userId).atMost.bind (n := 1) fun owns => ?_
  cases owns with
  | true => trivial
  | false =>
    refine (Inquiry.single_find? _ _).atMost.bind (n := 0) fun found => ?_
    cases found <;> trivial

/-- The most lookups that predicates take together. -/
def Predicate.costs : List Predicate → Nat
  | [] => 0
  | p :: rest => p.cost + costs rest

section Costs

variable {facts : Facts}

private theorem Predicate.holds_atMost (p : Predicate) : (p.holds facts).AtMost p.cost := by
  have located {f : Uuid → Inquiry Bool} {n : Nat} (bounded : ∀ s, (f s).AtMost n) :
      (facts.needServer >>= f).AtMost n := by
    unfold Facts.needServer
    cases facts.server with
    | none => trivial
    | some s => exact bounded s
  cases p with
  | always | targetIsCaller => trivial
  | serverOwner => exact located fun s => (ownsServer_single s _).atMost
  | member => exact located fun s => (isMember_single s _).atMost
  | baseCheck => exact located fun s => ownsOrGranted_atMost s _ _
  | serverFlag asked | subFlag asked =>
    exact located fun s => (maskOf_single s _).atMost.bind (n := 0) fun _ => trivial
  | targetIsOwner =>
    unfold holds
    cases facts.targetUser with
    | none => trivial
    | some user => exact located fun s => (ownsServer_single s user).atMost

private theorem anyHolds_atMost (ps : List Predicate) :
    (anyHolds facts ps).AtMost (Predicate.costs ps) := by
  induction ps with
  | nil => trivial
  | cons p rest ih =>
    refine p.holds_atMost.bind fun held => ?_
    cases held with
    | true => trivial
    | false => exact ih

private theorem Rule.allows_atMost (rule : Rule) :
    (rule.allows facts).AtMost (Predicate.costs rule.predicates) := by
  obtain ⟨denyIf, allowIf⟩ := rule
  cases denyIf with
  | none => exact anyHolds_atMost allowIf
  | some guard =>
    refine guard.holds_atMost.bind fun denied => ?_
    cases denied with
    | true => trivial
    | false => exact anyHolds_atMost allowIf

end Costs

private theorem Policy.cost_le {c : ObjectClass} {operation : Operation} {entry : PolicyEntry}
    (listed : entry ∈ entry? c operation) :
    Predicate.costs entry.rule.predicates ≤ 3 := by
  rcases rule_cases listed with ordinary | ⟨rule, -, -⟩
  · simp only [List.mem_cons, List.not_mem_nil, or_false] at ordinary
    rcases ordinary with rule | rule | rule | rule | rule | rule | rule | rule <;>
      rw [rule] <;> decide
  · rw [rule]
    decide

/-- What a decision with this brief looks up, in order: for the scope, for the target and for the
rule, which is asked once both are there. -/
structure Brief.Trail (storage : Storage) (scope : Scope) (c : ObjectClass) (b : Brief)
    (forScope forTarget forRule : List Lookup) : Prop where
  reached : scope.Trail storage forScope
  loaded : forTarget = [] ∨ ∃ id ∈ b.targetId, forTarget = [c.lookup id]
  judged : forRule = [] ∨ ∃ resolved, b.entry.scope.Chooses storage scope resolved ∧
    ∃ found, b.entry.target.Finds storage c b.objectId resolved found ∧
      ∀ q ∈ forRule, ∃ s, (found.map Target.serverId).or (resolved.map (·.server.id)) = some s ∧
        q.Supports s b.caller
  short : forRule.length ≤ 3

/-- A path through the conclusion is one through the rule. -/
theorem conclude_path {answer : Inquiry Bool} {j : Inquiry Unit}
    (path : (conclude answer).Path storage qs j) : ∃ j', answer.Path storage qs j' := by
  rcases Inquiry.path_bind_cases path with
    ⟨j, first, -, -⟩ | ⟨before, held, after, rfl, first, second⟩
  · exact ⟨j, first⟩
  · obtain ⟨rfl, -⟩ := Inquiry.Silent.path (by cases held <;> trivial) second
    rw [List.append_nil]
    exact ⟨_, first⟩

/-- The lookups of a decision with a brief are those for its three stages. -/
theorem Brief.judge_trail {b : Brief} (sent : b.entry.target = .required → b.objectId ≠ none)
    {c : ObjectClass} (listed : b.entry ∈ Policy.entry? c b.operation) {scope : Scope}
    {j : Inquiry Unit}
    (path : (b.judge scope c).Path storage qs j) :
    ∃ forScope forTarget forRule, qs = forScope ++ forTarget ++ forRule ∧
      b.Trail storage scope c forScope forTarget forRule := by
  rcases Inquiry.path_bind_cases path with
    ⟨j, first, -, -⟩ | ⟨forScope, resolved, later, rfl, first, path⟩
  · exact ⟨qs, [], [], by simp, ScopeUse.select_trail first, .inl rfl, .inl rfl, Nat.zero_le _⟩
  have chosen := ScopeUse.select_eq_ok_iff.mp (ScopeUse.select_exact _ _ _ first.reaches)
  have reached := ScopeUse.select_trail first
  rcases Inquiry.path_bind_cases path with
    ⟨j, first, -, -⟩ | ⟨forTarget, found, forRule, rfl, first, path⟩
  · exact ⟨forScope, later, [], by simp, reached, loadTarget_trail first, .inl rfl, Nat.zero_le _⟩
  have finds := TargetUse.select_loadTarget_iff.mp
    ⟨_, b.select_eq sent, loadTarget_exact _ _ _ _ first.reaches⟩
  obtain ⟨j, path⟩ := conclude_path path
  refine ⟨forScope, forTarget, forRule, (List.append_assoc ..).symm, reached,
    loadTarget_trail first, .inr ⟨resolved, chosen, found, finds, ?_⟩, ?_⟩
  · exact (Rule.allows_confined _).path path
  · exact ((Rule.allows_atMost _).mono (Policy.cost_le listed)).path_length path

/-- Whatever the storage is and whatever goes wrong, a decision makes at most six lookups, and with
its brief they are those for the scope, for the target and for the rule, in this order. -/
theorem decision_keeps_to_trail (c : Conditions) (now : Time) (token : Bool)
    (claims : Option Claims) (scope : Scope) (request : Request) :
    let asked := (c.run (authorize now claims scope request) ⟨now, token, []⟩).2.asked
    asked.length ≤ 6 ∧
      (asked = [] ∨ ∃ b : Brief, b.Of now claims request ∧
        ∃ forScope forTarget forRule, asked = forScope ++ forTarget ++ forRule ∧
          b.Trail c.storage scope request.objectClass forScope forTarget forRule) := by
  intro asked
  obtain ⟨qs, j, all, path⟩ := c.run_path (authorize now claims scope request) ⟨now, token, []⟩
  obtain rfl : asked = qs := all
  rcases Brief.refused_or_made now claims scope request with ⟨r, refused⟩ | ⟨b, made, sent⟩
  · rw [refused] at path
    obtain ⟨unasked, -⟩ := Inquiry.Silent.path (i := .refused r) trivial path
    exact ⟨by simp [unasked], .inl unasked⟩
  · rw [made.authorize_eq sent] at path
    obtain ⟨forScope, forTarget, forRule, split, trail⟩ := b.judge_trail sent made.listed path
    refine ⟨?_, .inr ⟨b, made, forScope, forTarget, forRule, split, trail⟩⟩
    have one : forTarget.length ≤ 1 := by
      rcases trail.loaded with rfl | ⟨id, -, rfl⟩ <;> simp
    have two := trail.reached.length_le
    have three := trail.short
    rw [split]
    simp only [List.length_append]
    omega

end Gatehouse
