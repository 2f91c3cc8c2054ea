import Gatehouse.Proofs.Authority.Sight
import Gatehouse.Proofs.Authority.Strand
import Gatehouse.Proofs.Authority.Trail
import Gatehouse.Store.Storage

/-! # What a failing lookup comes to

Every failure of the store is told at the site of the lookup that met it, as an internal failure
with the store's report behind it, and nothing is looked up after it. Where a lookup only finds no
rows the decision depends on what it was for. Scope, target and deciding server must be there, and
the decision is refused. What a user is on a server may be nothing, and then the rule goes on to its
next predicate.
-/

namespace Gatehouse

/-- Whether a decision cannot do without what the lookup finds. -/
def Lookup.vital : Lookup → Bool
  | .membership _ _ | .rolesHeld _ _ | .grantFor _ _ => false
  | .server _ | .subscription _ | .role _ | .assignment _ | .grant _ | .channel _ | .override _ =>
    true

/-- The site that makes a lookup, but for servers that are loaded as targets. -/
def Lookup.site : Lookup → String
  | .server _ => "predicates.load_server"
  | .membership _ _ => "predicates.user_has_server_sub"
  | .rolesHeld _ _ => "predicates.user_permission_mask"
  | .grantFor _ _ => "predicates.base_permission_check"
  | .subscription _ | .role _ | .assignment _ | .grant _ | .channel _ | .override _ =>
    "resolve.load_object"

/-- The site that makes the lookup at some place of a decision. No decision on a server looks at the
scope, so that its target is what it looks up first. -/
def Lookup.siteAt (c : ObjectClass) (k : Nat) (q : Lookup) : String :=
  if c = .server ∧ k = 0 then "resolve.load_object" else q.site

private theorem Lookup.siteAt_target {c : ObjectClass} {k : Nat} (first : c = .server → k = 0)
    (id : Uuid) :
    (c.lookup id).siteAt c k = "resolve.load_object" := by
  cases c with
  | server => exact if_pos ⟨rfl, first rfl⟩
  | subscription | role | assignment | channel | override | grant => rfl

private theorem Lookup.siteAt_eq {c : ObjectClass} {k : Nat} (later : c = .server → k ≠ 0)
    (q : Lookup) :
    q.siteAt c k = q.site :=
  if_neg fun first => later first.1 first.2

private theorem ObjectClass.vital_lookup (c : ObjectClass) (id : Uuid) :
    (c.lookup id).vital = true := by
  cases c <;> rfl

namespace Inquiry

variable {α β : Type}

/-- What an inquiry does with the failures of a lookup: a failure of the store is refused as an
internal one of the site, and without rows it goes on like this. -/
structure Handles (site : String) (q : Lookup) (next : q.Reply → Inquiry α) (absent : Inquiry α) :
    Prop where
  broken (report : String) (causes : List String) :
    next (.error (.backend report causes)) = .refused
      (.internal site (LookupFailure.backend report causes).text (report :: causes))
  missing : next (.error .noRows) = absent

theorem Handles.bind {site : String} {q : Lookup} {next : q.Reply → Inquiry α} {absent : Inquiry α}
    (handles : Handles site q next absent) {f : α → Inquiry β} {next' : q.Reply → Inquiry β}
    (same : ∀ reply, next' reply = (next reply >>= f)) : Handles site q next' (absent >>= f) := by
  refine ⟨fun report causes => ?_, ?_⟩
  · rw [same, handles.broken]
    rfl
  · rw [same, handles.missing]

variable {storage : Storage} {i : Inquiry α} {f : α → Inquiry β} {qs : List Lookup} {q q' : Lookup}

/-- The lookup of a single question is the first thing that happens. -/
theorem Single.node {next : q'.Reply → Inquiry α} (single : i.Single q)
    (path : i.Path storage qs (.ask q' next)) : qs = [] ∧ i = .ask q' next := by
  rcases single.path path with ⟨unasked, same⟩ | ⟨-, silent⟩
  · exact ⟨unasked, same.symm⟩
  · exact silent.elim

private theorem not_path_decided {a : α} {next : q.Reply → Inquiry α} :
    ¬ (decided a).Path storage qs (.ask q next) :=
  nofun

private theorem not_path_refused {r : Refusal} {next : q.Reply → Inquiry α} :
    ¬ (refused r).Path storage qs (.ask q next) :=
  nofun

/-- A lookup whose failures are not refused. -/
theorem find?_node {origin : String} {f : Option q.Found → Inquiry β}
    {next : q'.Reply → Inquiry β} (path : (find? origin q >>= f).Path storage qs (.ask q' next))
    (silent : ∀ found, (f found).Silent) :
    q' = q ∧ Handles origin q' next (f none) := by
  obtain ⟨-, same⟩ := ((single_find? origin q).bind silent).node path
  cases same
  exact ⟨rfl, fun _ _ => rfl, rfl⟩

/-- The inquiry first asks this lookup, and is refused if there is nothing. -/
def Demands (site : String) (q : Lookup) (i : Inquiry α) : Prop :=
  ∃ next, i = .ask q next ∧ Handles site q next (.refused (.notFound site))

theorem Demands.bind {site : String} (demands : i.Demands site q) : (i >>= f).Demands site q := by
  obtain ⟨next, rfl, handles⟩ := demands
  exact ⟨_, rfl, handles.bind fun _ => rfl⟩

private theorem Demands.node {site : String} (demands : i.Demands site q) (single : i.Single q)
    {next : q'.Reply → Inquiry α} (path : i.Path storage qs (.ask q' next)) :
    qs = [] ∧ q' = q ∧ Handles site q' next (.refused (.notFound site)) := by
  obtain ⟨unasked, rfl⟩ := single.node path
  obtain ⟨next, same, handles⟩ := demands
  cases same
  exact ⟨unasked, rfl, handles⟩

end Inquiry

open Inquiry (Handles)

private theorem loadServer_demands (id : Uuid) :
    (loadServer id).Demands "predicates.load_server" (.server id) :=
  ⟨_, rfl, fun _ _ => rfl, rfl⟩

private theorem Target.load_demands (c : ObjectClass) (id : Uuid) (within : Option Uuid) :
    (load c id within).Demands "resolve.load_object" (c.lookup id) := by
  cases c <;> exact ⟨_, rfl, fun _ _ => rfl, rfl⟩

/-- The predicate holds if what the lookup finds says so, and not if there is nothing. -/
def Predicate.Weighs (facts : Facts) (p : Predicate) (q : Lookup) : Prop :=
  ∃ s ∈ facts.server,
    match p with
    | .member => q = .membership s facts.caller
    | .serverFlag _ | .subFlag _ => q = .rolesHeld s facts.caller
    | .baseCheck => q = .grantFor s facts.caller
    | .always | .serverOwner | .targetIsCaller | .targetIsOwner => False

section Rules

variable {storage : Storage} {facts : Facts} {qs : List Lookup} {q : Lookup}
  {next : q.Reply → Inquiry Bool}

private theorem Predicate.Weighs.not_vital {p : Predicate} (weighs : p.Weighs facts q) :
    q.vital = false := by
  obtain ⟨s, -, asked⟩ := weighs
  cases p <;> first | exact asked.elim | (cases asked; rfl)

private theorem ownsServer_node {serverId userId : Uuid}
    (path : (ownsServer serverId userId).Path storage qs (.ask q next)) :
    q.vital = true ∧ Handles q.site q next (.refused (.notFound q.site)) := by
  obtain ⟨-, rfl, handles⟩ := (loadServer_demands serverId).bind.node (ownsServer_single _ _) path
  exact ⟨rfl, handles⟩

private theorem maskOf_node {serverId userId : Uuid} {answer : PermissionMask → Bool}
    (path : (maskOf serverId userId >>= fun mask => return answer mask).Path storage qs
      (.ask q next)) :
    q = .rolesHeld serverId userId ∧
      Handles q.site q next (.decided (answer (PermissionMask.collect []))) := by
  rcases Inquiry.ask_path_bind_cases path with ⟨next', first, same⟩ | ⟨_, _, _, -, -, second⟩
  · obtain ⟨rfl, handles⟩ := Inquiry.find?_node first fun _ => trivial
    exact ⟨rfl, handles.bind same⟩
  · exact (Inquiry.not_path_decided second).elim

private theorem ownsOrGranted_node {serverId userId : Uuid} {family : Family}
    (path : (ownsOrGranted serverId userId family).Path storage qs (.ask q next)) :
    q.vital = true ∧ Handles q.site q next (.refused (.notFound q.site)) ∨
      q = .grantFor serverId userId ∧ Handles q.site q next (.decided false) := by
  rcases Inquiry.ask_path_bind_cases path with ⟨next', first, same⟩ | ⟨_, owns, _, -, -, second⟩
  · obtain ⟨vital, handles⟩ := ownsServer_node first
    exact .inl ⟨vital, handles.bind same⟩
  · cases owns with
    | true => exact (Inquiry.not_path_decided second).elim
    | false =>
      obtain ⟨rfl, handles⟩ := Inquiry.find?_node second (by rintro (_ | grant) <;> trivial)
      exact .inr ⟨rfl, handles⟩

/-- A lookup of a predicate is vital, or without rows the predicate does not hold. -/
theorem Predicate.holds_node {p : Predicate} (usual : p.Usual)
    (path : (p.holds facts).Path storage qs (.ask q next)) :
    q.vital = true ∧ Handles q.site q next (.refused (.notFound q.site)) ∨
      p.Weighs facts q ∧ Handles q.site q next (.decided false) := by
  have located {f : Uuid → Inquiry Bool}
      (path : (facts.needServer >>= f).Path storage qs (.ask q next)) :
      ∃ s ∈ facts.server, (f s).Path storage qs (.ask q next) := by
    unfold Facts.needServer at path
    cases named : facts.server with
    | none =>
      rw [named] at path
      exact (Inquiry.not_path_refused path).elim
    | some s =>
      rw [named] at path
      exact ⟨s, rfl, path⟩
  cases p with
  | always | targetIsCaller => exact (Inquiry.not_path_decided path).elim
  | serverOwner =>
    obtain ⟨s, -, path⟩ := located path
    exact .inl (ownsServer_node path)
  | member =>
    obtain ⟨s, named, path⟩ := located path
    obtain ⟨rfl, handles⟩ := Inquiry.find?_node path fun _ => trivial
    exact .inr ⟨⟨s, named, rfl⟩, handles⟩
  | baseCheck =>
    obtain ⟨s, named, path⟩ := located path
    refine (ownsOrGranted_node path).imp_right ?_
    rintro ⟨asked, handles⟩
    exact ⟨⟨s, named, asked⟩, handles⟩
  | serverFlag flags =>
    obtain ⟨s, named, path⟩ := located path
    obtain ⟨asked, handles⟩ := maskOf_node path
    have unheld : ∀ flags ∈ ServerFlags.asked,
        (PermissionMask.collect []).hasServer flags = false := by decide
    exact .inr ⟨⟨s, named, asked⟩, unheld flags usual ▸ handles⟩
  | subFlag flags =>
    obtain ⟨s, named, path⟩ := located path
    obtain ⟨asked, handles⟩ := maskOf_node path
    have unheld : ∀ flags ∈ SubFlags.asked,
        (PermissionMask.collect []).hasSub flags = false := by decide
    exact .inr ⟨⟨s, named, asked⟩, unheld flags usual ▸ handles⟩
  | targetIsOwner =>
    unfold holds at path
    cases belongs : facts.targetUser with
    | none =>
      rw [belongs] at path
      exact (Inquiry.not_path_decided path).elim
    | some user =>
      rw [belongs] at path
      obtain ⟨s, -, path⟩ := located path
      exact .inl (ownsServer_node path)

/-- A lookup of predicates that are asked in order is vital, or it is weighed by one of them, and
without rows the next ones are asked. -/
def Predicate.Treats (facts : Facts) (ps : List Predicate) (q : Lookup)
    (next : q.Reply → Inquiry Bool) : Prop :=
  q.vital = true ∧ Handles q.site q next (.refused (.notFound q.site)) ∨
    ∃ before p after, ps = before ++ p :: after ∧ p.Weighs facts q ∧
      Handles q.site q next (anyHolds facts after)

/-- One predicate more, whatever it means that it holds. -/
theorem Predicate.Treats.cons {p : Predicate} (usual : p.Usual) {rest : List Predicate}
    (treats : ∀ {qs}, (anyHolds facts rest).Path storage qs (.ask q next) →
      Treats facts rest q next) {result : Bool}
    (path : (p.holds facts >>= fun held => if held then return result else
      anyHolds facts rest).Path storage qs (.ask q next)) : Treats facts (p :: rest) q next := by
  rcases Inquiry.ask_path_bind_cases path with ⟨next', first, same⟩ | ⟨_, held, _, -, -, second⟩
  · rcases holds_node usual first with ⟨vital, handles⟩ | ⟨weighs, handles⟩
    · exact .inl ⟨vital, handles.bind same⟩
    · exact .inr ⟨[], p, rest, rfl, weighs, handles.bind same⟩
  · cases held with
    | true => exact (Inquiry.not_path_decided second).elim
    | false =>
      refine (treats second).imp_right ?_
      rintro ⟨before, p', after, rfl, weighs, handles⟩
      exact ⟨p :: before, p', after, rfl, weighs, handles⟩

private theorem anyHolds_node {ps : List Predicate} (usual : ∀ p ∈ ps, p.Usual)
    (path : (anyHolds facts ps).Path storage qs (.ask q next)) :
    Predicate.Treats facts ps q next := by
  induction ps generalizing qs with
  | nil => exact (Inquiry.not_path_decided path).elim
  | cons p rest ih =>
    obtain ⟨usual, later⟩ := List.forall_mem_cons.mp usual
    exact .cons usual (ih later) path

private theorem Rule.allows_node {rule : Rule} (usual : ∀ p ∈ rule.predicates, p.Usual)
    (path : (rule.allows facts).Path storage qs (.ask q next)) :
    Predicate.Treats facts rule.predicates q next := by
  obtain ⟨denyIf, allowIf⟩ := rule
  cases denyIf with
  | none => exact anyHolds_node usual path
  | some guard =>
    obtain ⟨usual, later⟩ := List.forall_mem_cons.mp usual
    exact .cons usual (anyHolds_node later) path

end Rules

section Stages

variable {storage : Storage} {qs : List Lookup} {q : Lookup}

private theorem Scope.resolve_node {scope : Scope} {next : q.Reply → Inquiry (Option ResolvedScope)}
    (path : scope.resolve.Path storage qs (.ask q next)) :
    q.vital = true ∧ Handles q.site q next (.refused (.notFound q.site)) := by
  have homed {id : Uuid} {channel : Option Uuid} {qs : List Lookup}
      (path : (do return some ⟨← loadServer id, channel⟩ :
        Inquiry (Option ResolvedScope)).Path storage qs (.ask q next)) :
      q.vital = true ∧ Handles q.site q next (.refused (.notFound q.site)) := by
    rcases Inquiry.ask_path_bind_cases path with ⟨next', first, same⟩ | ⟨_, _, _, -, -, second⟩
    · obtain ⟨-, rfl, handles⟩ := (loadServer_demands id).node (loadServer_single id) first
      exact ⟨rfl, handles.bind same⟩
    · exact (Inquiry.not_path_decided second).elim
  cases scope with
  | unscoped => exact (Inquiry.not_path_decided path).elim
  | server id => exact homed path
  | channel id =>
    rcases Inquiry.ask_path_bind_cases path with ⟨next', first, same⟩ | ⟨_, place, _, -, -, second⟩
    · obtain ⟨-, rfl, handles⟩ :=
        (Target.load_demands .channel id none).node (Target.load_single ..) first
      exact ⟨rfl, handles.bind same⟩
    · exact homed second

private theorem ScopeUse.select_node {use : ScopeUse} {scope : Scope}
    {next : q.Reply → Inquiry (Option ResolvedScope)}
    (path : (use.select scope).Path storage qs (.ask q next)) :
    use ≠ .ignored ∧ q.vital = true ∧ Handles q.site q next (.refused (.notFound q.site)) := by
  cases use with
  | ignored => exact (Inquiry.not_path_decided path).elim
  | ifPresent => exact ⟨nofun, Scope.resolve_node path⟩
  | required =>
    rcases Inquiry.ask_path_bind_cases path with ⟨next', first, same⟩ | ⟨_, found, _, -, -, second⟩
    · obtain ⟨vital, handles⟩ := Scope.resolve_node first
      exact ⟨nofun, vital, handles.bind same⟩
    · cases found with
      | none => exact (Inquiry.not_path_refused second).elim
      | some found => exact (Inquiry.not_path_decided second).elim

private theorem loadTarget_node {c : ObjectClass} {targetId : Option Uuid}
    {resolved : Option ResolvedScope} {next : q.Reply → Inquiry (Option Target)}
    (path : (loadTarget c targetId resolved).Path storage qs (.ask q next)) :
    qs = [] ∧ (∃ id, q = c.lookup id) ∧
      Handles "resolve.load_object" q next (.refused (.notFound "resolve.load_object")) := by
  cases targetId with
  | none => exact (Inquiry.not_path_decided path).elim
  | some id =>
    obtain ⟨unasked, rfl, handles⟩ :=
      (Target.load_demands c id _).bind.node (loadTarget_single c id resolved) path
    exact ⟨unasked, ⟨id, rfl⟩, handles⟩

private theorem conclude_node {answer : Inquiry Bool} {next : q.Reply → Inquiry Unit}
    (path : (conclude answer).Path storage qs (.ask q next)) :
    ∃ next', answer.Path storage qs (.ask q next') ∧
      ∀ reply, next reply = conclude (next' reply) := by
  rcases Inquiry.ask_path_bind_cases path with asked | ⟨_, held, _, -, -, second⟩
  · exact asked
  · cases held with
    | true => exact (Inquiry.not_path_decided second).elim
    | false => exact (Inquiry.not_path_refused second).elim

/-- No decision on a server looks at the scope, and one whose rule asks something loads its target
first. -/
theorem Policy.server_entry {operation : Operation} {entry : PolicyEntry}
    (listed : entry ∈ entry? .server operation) :
    entry.scope = .ignored ∧ (entry.rule = anyone ∨ entry.target = .required) := by
  simp only [ entry?, server] at listed
  split at listed <;> cases listed <;> simp

/-- What the failures of a lookup come to in a decision with this brief: it is vital, or it is
weighed by a predicate of the rule, and without rows the decision is concluded by the next ones. -/
def Brief.Treats (storage : Storage) (scope : Scope) (c : ObjectClass) (b : Brief) (site : String)
    (q : Lookup) (next : q.Reply → Inquiry Unit) : Prop :=
  q.vital = true ∧ Handles site q next (.refused (.notFound site)) ∨
    ∃ facts, b.ComesTo storage scope c facts ∧ ∃ before p after,
      b.entry.rule.predicates = before ++ p :: after ∧ p.Weighs facts q ∧
      Handles site q next (conclude (anyHolds facts after))

private theorem Brief.judge_node {b : Brief} {c : ObjectClass}
    (sent : b.entry.target = .required → b.objectId ≠ none)
    (listed : b.entry ∈ Policy.entry? c b.operation) {scope : Scope} {next : q.Reply → Inquiry Unit}
    (path : (b.judge scope c).Path storage qs (.ask q next)) :
    b.Treats storage scope c (q.siteAt c qs.length) q next := by
  rcases Inquiry.ask_path_bind_cases path with
    ⟨next', first, same⟩ | ⟨forScope, resolved, later, rfl, first, path⟩
  · obtain ⟨used, vital, handles⟩ := ScopeUse.select_node first
    rw [q.siteAt_eq (by rintro rfl; exact (used (Policy.server_entry listed).1).elim)]
    exact .inl ⟨vital, handles.bind same⟩
  have unscoped (isServer : c = .server) : forScope = [] := by
    subst isServer
    rw [(Policy.server_entry listed).1] at first
    exact (Inquiry.Silent.path (i := .decided none) trivial first).1
  have chosen := ScopeUse.select_eq_ok_iff.mp (ScopeUse.select_exact _ _ _ first.reaches)
  rcases Inquiry.ask_path_bind_cases path with
    ⟨next', first, same⟩ | ⟨forTarget, found, forRule, rfl, first, path⟩
  · obtain ⟨rfl, ⟨id, rfl⟩, handles⟩ := loadTarget_node first
    rw [Lookup.siteAt_target (by intro isServer; simp [unscoped isServer])]
    exact .inl ⟨c.vital_lookup id, handles.bind same⟩
  have finds := TargetUse.select_loadTarget_iff.mp
    ⟨_, b.select_eq sent, loadTarget_exact _ _ _ _ first.reaches⟩
  obtain ⟨next', asked, same⟩ := conclude_node path
  have behind (isServer : c = .server) : (forScope ++ (forTarget ++ forRule)).length ≠ 0 := by
    subst isServer
    rcases (Policy.server_entry listed).2 with rule | target
    · rw [rule] at asked
      exact (Inquiry.not_path_decided asked).elim
    · obtain ⟨id, object⟩ := Option.ne_none_iff_exists'.mp (sent target)
      have named : b.targetId = some id := by simp only [targetId, target, object]
      rw [named] at first
      simp [(loadTarget_single _ id resolved).path_decided first]
  rw [q.siteAt_eq behind]
  rcases Rule.allows_node (Policy.usual listed) asked with
    ⟨vital, handles⟩ | ⟨before, p, after, split, weighs, handles⟩
  · exact .inl ⟨vital, handles.bind same⟩
  · exact .inr ⟨_, ⟨resolved, chosen, found, finds, rfl⟩, before, p, after, split, weighs,
      handles.bind same⟩

theorem Brief.Treats.broken {b : Brief} {c : ObjectClass} {scope : Scope} {site : String}
    {next : q.Reply → Inquiry Unit} (treats : b.Treats storage scope c site q next)
    (report : String) (causes : List String) :
    next (.error (.backend report causes)) = .refused
      (.internal site (LookupFailure.backend report causes).text (report :: causes)) := by
  rcases treats with ⟨-, handles⟩ | ⟨_, -, _, _, _, -, -, handles⟩
  · exact handles.broken report causes
  · exact handles.broken report causes

private theorem authorize_node {now : Time} {claims : Option Claims} {scope : Scope}
    {request : Request} {next : q.Reply → Inquiry Unit}
    (path : (authorize now claims scope request).Path storage qs (.ask q next)) :
    ∃ b : Brief, b.Of now claims request ∧ b.Treats storage scope request.objectClass
      (q.siteAt request.objectClass qs.length) q next := by
  rcases Brief.refused_or_made now claims scope request with ⟨r, refused⟩ | ⟨b, made, sent⟩
  · rw [refused] at path
    exact (Inquiry.not_path_refused path).elim
  · rw [made.authorize_eq sent] at path
    exact ⟨b, made, b.judge_node sent made.listed path⟩

end Stages

section Failing

variable {c : Conditions} {now : Time} {token : Bool} {claims : Option Claims} {scope : Scope}
  {request : Request} {k : Nat} {q : Lookup}

/-- A decision whose lookup at some place fails goes on from there with the failure. -/
theorem failing_authorize (fault : Fault) {failure : LookupFailure}
    (fails : fault.failure? = some failure)
    (there : (c.run (authorize now claims scope request) ⟨now, token, []⟩).2.asked[k]? = some q) :
    ∃ b : Brief, b.Of now claims request ∧ ∃ next,
      b.Treats c.storage scope request.objectClass (q.siteAt request.objectClass k) q next ∧
      ∃ reached, reached.asked =
          (c.run (authorize now claims scope request) ⟨now, token, []⟩).2.asked.take (k + 1) ∧
        (c.failing k fault).run (authorize now claims scope request) ⟨now, token, []⟩ =
          (c.failing k fault).run (next (.error failure)) reached := by
  obtain ⟨next, reached, path, asked, goes⟩ :=
    c.run_failing fails (authorize now claims scope request) rfl there
  obtain ⟨b, made, treats⟩ := authorize_node path
  have inside := (List.getElem?_eq_some_iff.mp there).1
  rw [List.length_take_of_le (Nat.le_of_lt inside)] at treats
  exact ⟨b, made, next, treats, reached, asked, goes⟩

end Failing

namespace Conditions

/-- The conditions of a decision over a storage that answers as fast as the store. -/
def prompt (deadline : Option Time) (storage : Storage) : Conditions :=
  { calm storage Store.latency with deadline }

/-- A lookup is interrupted over every storage, or it is answered by each. -/
theorem guarded_prompt_cases (deadline : Option Time) (q : Lookup) (p : Progress) :
    (∃ r, ∀ storage, (prompt deadline storage).guarded q p = .interrupted r p) ∨
      ∀ storage, (prompt deadline storage).guarded q p =
        .answered (storage q) { p with asked := p.asked ++ [q] } := by
  cases deadline with
  | none =>
    rcases Bool.eq_false_or_eq_true p.cancelled with token | token
    · refine .inl ⟨.cancelled, fun storage => ?_⟩
      simp only [guarded, left, prompt, calm, Option.map_none, token, if_true]
    · exact .inr fun storage => clear_calm storage Store.latency p.clock q p rfl token
  | some deadline =>
    by_cases late : deadline.nanosBetween p.clock ≤ 0
    · refine .inl ⟨.deadlineExceeded, fun storage => ?_⟩
      simp only [guarded, left, prompt, Option.map_some, if_pos late]
    rcases Bool.eq_false_or_eq_true p.cancelled with token | token
    · refine .inl ⟨.cancelled, fun storage => ?_⟩
      simp only [guarded, left, prompt, Option.map_some, if_neg late, token, if_true]
    · refine .inr fun storage => ?_
      have enough : allows (some (deadline.nanosBetween p.clock))
          ((0 : Nat) + (Store.latency.getD 0 : Nat)) = true := by
        refine decide_eq_true ?_
        change ((0 : Int) + 0) * 1000000 ≤ _
        omega
      simp only [guarded, left, prompt, calm, Option.map_some, if_neg late, token,
        Bool.false_eq_true, if_false, answer, reply, enough, if_true]

/-- An inquiry that refuses when its first lookup fails is refused for it behind a poisoned lock. -/
theorem run_poisoned {α : Type} {i : Inquiry α} {told : Lookup → Refusal}
    (refuses : ∀ q next, i = .ask q next → next (Store.poisoned q) = .refused (told q))
    (deadline : Option Time) (storage : Storage) {p : Progress} (fresh : p.asked = []) :
    let sound := (prompt deadline storage).run i p
    let poisoned := (prompt deadline Store.poisoned).run i p
    (sound.2.asked = [] → poisoned = sound) ∧
      ∀ q rest, sound.2.asked = q :: rest →
        poisoned.1 = .refused (told q) ∧ poisoned.2.asked = [q] := by
  cases i with
  | decided a | refused r =>
    exact ⟨fun _ => rfl,
      fun q rest asked => (List.cons_ne_nil q rest (asked.symm.trans fresh)).elim⟩
  | ask q next =>
    rcases guarded_prompt_cases deadline q p with ⟨r, interrupted⟩ | answered
    · simp only [run, interrupted]
      exact ⟨fun _ => trivial,
        fun q rest asked => (List.cons_ne_nil q rest (asked.symm.trans fresh)).elim⟩
    · simp only [run, answered, refuses q next rfl, fresh, List.nil_append]
      obtain ⟨rest, all⟩ := asked_prefix_run (prompt deadline storage) (next (storage q))
        { p with asked := [q] }
      rw [← all]
      refine ⟨fun none_asked => (List.cons_ne_nil q rest none_asked).elim, ?_⟩
      rintro _ _ ⟨⟩
      exact ⟨rfl, rfl⟩

end Conditions

/-- Every failure of a lookup is told where it is met. A run that comes to a failure of the store
ends there with an internal refusal of the site, whatever made the store fail and however deep its
causes are. So if the store is made to fail at some place of a run, the lookups are the same up to
this one. If at that place there are no rows, the run ends there with something not found, or, if it
only asks what the caller is, it goes on as if the predicate did not hold. So behind a poisoned lock
a decision that looks something up is refused for its first lookup, and every other one stays the
same. -/
theorem lookup_failures_classified (c : Conditions) (now : Time) (token : Bool)
    (claims : Option Claims) (scope : Scope) (request : Request) :
    let decision := authorize now claims scope request
    let start : Progress := ⟨now, token, []⟩
    let asked := (c.run decision start).2.asked
    (∀ q next reached p report causes, c.Comes decision start (.ask q next) reached →
      c.guarded q reached = .answered (.error (.backend report causes)) p →
        c.run decision start =
            (.refused (.internal (q.siteAt request.objectClass reached.asked.length)
              (LookupFailure.backend report causes).text (report :: causes)), p) ∧
          p.asked = reached.asked ++ [q]) ∧
    (∀ k q, asked[k]? = some q →
      let site := q.siteAt request.objectClass k
      (∀ report, let ended := (c.failing k (.backend report)).run decision start
        ended.1 = .refused
            (.internal site (LookupFailure.backend report []).text [report]) ∧
          ended.2.asked = asked.take (k + 1)) ∧
      let ended := (c.failing k .noRows).run decision start
      (q.vital = true → ended.1 = .refused (.notFound site) ∧ ended.2.asked = asked.take (k + 1)) ∧
      (q.vital = false → ∃ b : Brief, b.Of now claims request ∧
        ∃ facts, b.ComesTo c.storage scope request.objectClass facts ∧
        ∃ before p after, b.entry.rule.predicates = before ++ p :: after ∧ p.Weighs facts q ∧
        ∃ reached, reached.asked = asked.take (k + 1) ∧
          ended = (c.failing k .noRows).run (conclude (anyHolds facts after)) reached)) ∧
    let sound := (Conditions.prompt c.deadline c.storage).run decision start
    let poisoned := (Conditions.prompt c.deadline Store.poisoned).run decision start
    (sound.2.asked = [] → poisoned = sound) ∧
    (∀ q rest, sound.2.asked = q :: rest →
      poisoned.1 = .refused (.internal (q.siteAt request.objectClass 0)
          (LookupFailure.backend Store.StoreFault.lockPoisoned.text []).text
          [Store.StoreFault.lockPoisoned.text]) ∧
        poisoned.2.asked = [q]) := by
  intro decision start asked
  refine ⟨fun q next reached p report causes comes answered => ?met,
    fun k q there => ⟨fun report => ?_, fun vital => ?_, fun weighed => ?_⟩, ?poisoned⟩
  case met =>
    obtain ⟨qs, sofar, path⟩ := comes.path
    obtain rfl : reached.asked = qs := sofar
    obtain ⟨b, -, treats⟩ := authorize_node path
    refine ⟨?_, (Conditions.told_of_answered answered).2⟩
    rw [comes.run]
    simp only [Conditions.run, answered, treats.broken]
  case poisoned =>
    refine Conditions.run_poisoned (fun q next root => ?_) c.deadline c.storage rfl
    have path : decision.Path c.storage [] (.ask q next) := root ▸ .here decision
    obtain ⟨b, -, treats⟩ := authorize_node path
    exact treats.broken _ _
  · obtain ⟨b, -, next, treats, reached, taken, goes⟩ :=
      failing_authorize (.backend report) rfl there
    rw [treats.broken] at goes
    rw [goes]
    exact ⟨rfl, taken⟩
  · obtain ⟨b, -, next, treats, reached, taken, goes⟩ := failing_authorize .noRows rfl there
    rcases treats with ⟨-, handles⟩ | ⟨_, -, _, p, _, -, weighs, -⟩
    · rw [handles.missing] at goes
      rw [goes]
      exact ⟨rfl, taken⟩
    · exact Bool.noConfusion (vital.symm.trans weighs.not_vital)
  · obtain ⟨b, made, next, treats, reached, taken, goes⟩ :=
      failing_authorize .noRows rfl there
    rcases treats with ⟨vital, -⟩ | ⟨facts, comes, before, p, after, split, weighs, handles⟩
    · exact Bool.noConfusion (vital.symm.trans weighed)
    · rw [handles.missing] at goes
      exact ⟨b, made, facts, comes, before, p, after, split, weighs, reached, taken, goes⟩

/-- The store fails as it is asked for a grant of the holder, who could have done without one. -/
theorem unread_grant_is_internal :
    let c := Conditions.calm Sample.house.storage none
    let ended := (c.failing 2 (.backend "disk I/O error")).run
      (authorize .epoch (some (Sample.claimsOf ⟨2⟩)) .unscoped Sample.deletion) ⟨.epoch, false, []⟩
    ended.1 = .refused (.internal "predicates.base_permission_check"
        "storage backend failure: disk I/O error" ["disk I/O error"]) ∧
      ended.2.asked = [.role ⟨8⟩, .server ⟨7⟩, .grantFor ⟨7⟩ ⟨2⟩] := by
  intro c ended
  have there : (c.run (authorize .epoch (some (Sample.claimsOf ⟨2⟩)) .unscoped Sample.deletion)
      ⟨.epoch, false, []⟩).2.asked =
      [.role ⟨8⟩, .server ⟨7⟩, .grantFor ⟨7⟩ ⟨2⟩, .rolesHeld ⟨7⟩ ⟨2⟩] := by
    decide +kernel
  have classified := (lookup_failures_classified c .epoch false (some (Sample.claimsOf ⟨2⟩))
    .unscoped Sample.deletion).2.1 2 (.grantFor ⟨7⟩ ⟨2⟩) (by rw [there]; rfl)
  obtain ⟨internal, asked⟩ := classified.1 "disk I/O error"
  rw [there] at asked
  exact ⟨internal, asked⟩

end Gatehouse
