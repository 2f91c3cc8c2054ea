import Gatehouse.Proofs.Authority.Strand
import Gatehouse.Proofs.Authority.Verdict

/-! # What stands in the way of a decision

There are fifteen ways in which a request can fail, each a condition on the claims, the words of the
request and the storage. A decision tests them in one order, so that of several that hold at once
the first is what is told. The eight that need no lookup come first. Over a storage that never fails
there is no other way: where nothing stands in its way a request is allowed.
-/

namespace Gatehouse

/-- What can stand in the way. -/
inductive Obstacle where
  | noClaims
  | expired
  /-- The user id of the claims is no id. -/
  | nameless
  /-- The object id of the request is no id. -/
  | misaddressed
  | outsideVocabulary
  /-- The tables have no entry for the operation. -/
  | unlisted
  /-- The entry requires a target, and the request addresses none. -/
  | noTarget
  /-- The entry requires a scope, and there is none. -/
  | noScope
  /-- The channel of the scope is not there. -/
  | channelLost
  /-- The server of the scope is not there. -/
  | serverLost
  | targetLost
  /-- The target lives in another server than the scope names. -/
  | elsewhere
  /-- The target has to do with another channel than the scope names. -/
  | otherChannel
  /-- The rule comes to a server that is not there. -/
  | stranded
  | ruleFails
deriving DecidableEq, Repr

namespace Obstacle

/-- All obstacles, in the order in which a decision comes to them. -/
def inOrder : List Obstacle :=
  [.noClaims, .expired, .nameless, .misaddressed, .outsideVocabulary, .unlisted, .noTarget,
    .noScope, .channelLost, .serverLost, .targetLost, .elsewhere, .otherChannel, .stranded,
    .ruleFails]

/-- Whether the obstacle is found without a lookup. -/
def early : Obstacle → Bool
  | .noClaims | .expired | .nameless | .misaddressed | .outsideVocabulary | .unlisted | .noTarget
  | .noScope => true
  | .channelLost | .serverLost | .targetLost | .elsewhere | .otherChannel | .stranded
  | .ruleFails => false

/-- The kind of failure that is told of an obstacle. -/
def kind : Obstacle → FailureKind
  | .noClaims | .expired => .unauthenticated
  | .nameless | .misaddressed | .noScope => .invalidArgument
  | .outsideVocabulary | .unlisted | .noTarget | .ruleFails => .denied
  | .channelLost | .serverLost | .targetLost | .elsewhere | .otherChannel | .stranded => .notFound

/-- The refusal with its site. -/
def refusal : Obstacle → Refusal
  | .noClaims => .unauthenticated "dispatch.claims"
  | .expired => .unauthenticated "dispatch.claims_expired"
  | .nameless => .invalidUuid "dispatch.caller_id"
  | .misaddressed => .invalidUuid "resolve.object_id"
  | .outsideVocabulary => .denied "dispatch.vocabulary"
  | .unlisted => .denied "dispatch.policy"
  | .noTarget => .denied "dispatch.missing_target"
  | .noScope => .missingField "dispatch.scope"
  | .channelLost => .notFound "resolve.load_object"
  | .serverLost => .notFound "predicates.load_server"
  | .targetLost => .notFound "resolve.load_object"
  | .elsewhere => .notFound "resolve.scope_mismatch"
  | .otherChannel => .notFound "dispatch.channel_mismatch"
  | .stranded => .notFound "predicates.load_server"
  | .ruleFails => .denied "policy.rule"

private theorem kind_refusal (o : Obstacle) : o.refusal.kind? = some o.kind := by cases o <;> rfl

private theorem kind_ne_internal (o : Obstacle) : o.kind ≠ .internal := by cases o <;> decide

/-- Whether an obstacle stands in the way of a request. -/
def Stands (storage : Storage) (now : Time) (claims : Option Claims) (scope : Scope)
    (request : Request) : Obstacle → Prop
  | .noClaims => claims = none
  | .expired => ∃ c ∈ claims, c.expiry.toInt ≤ now.seconds
  | .nameless => ∃ c ∈ claims, Uuid.ofPadded? c.userId = none
  | .misaddressed => request.Misaddressed
  | .outsideVocabulary => Operation.ofWords? request.action request.subAction = none
  | .unlisted => ∃ operation, Operation.ofWords? request.action request.subAction = some operation ∧
      Policy.entry? request.objectClass operation = none
  | .noTarget => ∃ b : Brief, b.Of now claims request ∧
      b.entry.target = .required ∧ b.objectId = none
  | .noScope => ∃ b : Brief, b.Of now claims request ∧
      b.entry.scope = .required ∧ scope = .unscoped
  | .channelLost => ∃ b : Brief, b.Of now claims request ∧ b.entry.scope ≠ .ignored ∧
      ∃ id, scope = .channel id ∧ storage.Lacks .channel id
  | .serverLost => ∃ b : Brief, b.Of now claims request ∧ b.entry.scope ≠ .ignored ∧
      ((∃ id, scope = .server id ∧ storage.Lacks .server id) ∨
        ∃ id place, scope = .channel id ∧ storage (.channel id) = .ok place ∧
          storage.Lacks .server place.serverId)
  | .targetLost => ∃ b : Brief, b.Of now claims request ∧
      ∃ id ∈ b.targetId, storage.Lacks request.objectClass id
  | .elsewhere => ∃ b : Brief, b.Of now claims request ∧
      ∃ id ∈ b.targetId, ∃ target : Target, target.Stored storage request.objectClass id ∧
        request.objectClass.scopeChecked = true ∧ b.entry.scope ≠ .ignored ∧
        ∃ server, scope.Names storage server ∧ target.serverId ≠ server.id
  | .otherChannel => ∃ b : Brief, b.Of now claims request ∧
      ∃ id ∈ b.targetId, ∃ target : Target, target.Stored storage request.objectClass id ∧
        b.entry.scope ≠ .ignored ∧
        ∃ own ∈ target.channel?, ∃ asked ∈ scope.channel?, own ≠ asked
  | .stranded => ∃ b : Brief, b.Of now claims request ∧
      ∃ facts, b.ComesTo storage scope request.objectClass facts ∧
        Predicate.Stranded storage facts b.entry.rule.predicates
  | .ruleFails => ∃ b : Brief, b.Of now claims request ∧
      ∃ facts, b.ComesTo storage scope request.objectClass facts ∧
        ¬ b.entry.rule.Means storage facts

variable (storage : Storage) (now : Time) (claims : Option Claims) (scope : Scope)
  (request : Request)

/-- The obstacle is what the decision ends with; if it is an early one, at once. -/
def Ends (o : Obstacle) : Prop :=
  (authorize now claims scope request).run storage = .error o.refusal ∧
    (o.early = true → authorize now claims scope request = .refused o.refusal)

/-- The first of these obstacles that stands ends the decision. If none does, it allows. -/
def Decide : List Obstacle → Prop
  | [] => (authorize now claims scope request).run storage = .ok ()
  | o :: later =>
    (o.Stands storage now claims scope request → o.Ends storage now claims scope request) ∧
      (¬ o.Stands storage now claims scope request → Decide later)

variable {storage now claims scope request} {later : List Obstacle}

private theorem ends_of_refused {o : Obstacle}
    (refused : authorize now claims scope request = .refused o.refusal) :
    o.Ends storage now claims scope request := by
  refine ⟨?_, fun _ => refused⟩
  rw [refused]
  rfl

theorem Decide.first {before after : List Obstacle} {o : Obstacle}
    (decide : Decide storage now claims scope request (before ++ o :: after))
    (passed : ∀ o' ∈ before, ¬ o'.Stands storage now claims scope request)
    (stands : o.Stands storage now claims scope request) :
    o.Ends storage now claims scope request := by
  induction before with
  | nil => exact decide.1 stands
  | cons o' rest ih =>
    exact ih (decide.2 (passed o' (List.mem_cons_self ..)))
      fun o'' member => passed o'' (List.mem_cons_of_mem _ member)

theorem Decide.ending {os : List Obstacle} (decide : Decide storage now claims scope request os) :
    (∃ o ∈ os, (authorize now claims scope request).run storage = .error o.refusal) ∨
      (authorize now claims scope request).run storage = .ok () := by
  induction os with
  | nil => exact .inr decide
  | cons o rest ih =>
    by_cases stands : o.Stands storage now claims scope request
    · exact .inl ⟨o, List.mem_cons_self .., (decide.1 stands).1⟩
    · refine (ih (decide.2 stands)).imp_left ?_
      rintro ⟨o', member, ends⟩
      exact ⟨o', List.mem_cons_of_mem _ member, ends⟩

theorem Decide.allowed {os : List Obstacle} (decide : Decide storage now claims scope request os)
    (passed : ∀ o ∈ os, ¬ o.Stands storage now claims scope request) :
    (authorize now claims scope request).run storage = .ok () := by
  induction os with
  | nil => exact decide
  | cons o rest ih =>
    exact ih (decide.2 (passed o (List.mem_cons_self ..)))
      fun o' member => passed o' (List.mem_cons_of_mem _ member)

private theorem decide_claims (next : (∃ c ∈ claims, ∃ caller, c.Identify now caller) →
    Decide storage now claims scope request later) :
    Decide storage now claims scope request (.noClaims :: .expired :: .nameless :: later) := by
  refine ⟨?_, fun there => ?_⟩
  · rintro rfl
    exact ends_of_refused rfl
  obtain ⟨c, rfl⟩ := Option.ne_none_iff_exists'.mp there
  refine ⟨?_, fun unexpired => ?_⟩
  · rintro ⟨_, ⟨⟩, expired⟩
    refine ends_of_refused ?_
    simp only [authorize, Claims.caller, if_pos expired]
    rfl
  have timely : now.seconds < c.expiry.toInt :=
    Int.not_le.mp fun expired => unexpired ⟨c, rfl, expired⟩
  refine ⟨?_, fun named => ?_⟩
  · rintro ⟨_, ⟨⟩, unread⟩
    refine ends_of_refused ?_
    simp only [authorize, Claims.caller, if_neg (Int.not_le.mpr timely), readId, unread]
    rfl
  cases read : Uuid.ofPadded? c.userId with
  | none => exact (named ⟨c, rfl, read⟩).elim
  | some caller => exact next ⟨c, rfl, caller, timely, read⟩

private theorem decide_words (identified : ∃ c ∈ claims, ∃ caller, c.Identify now caller)
    (next : ∀ b : Brief, b.Of now claims request → Decide storage now claims scope request later) :
    Decide storage now claims scope request
      (.misaddressed :: .outsideVocabulary :: .unlisted :: later) := by
  obtain ⟨c, rfl, caller, identify⟩ := identified
  have known := Claims.caller_eq_ok_iff.mpr identify
  refine ⟨fun misaddressed => ?_, fun readable => ?_⟩
  · refine ends_of_refused ?_
    simp only [authorize, known, misaddressed.readObjectId_eq]
    rfl
  obtain ⟨objectId, addressed⟩ := request.misaddressed_or_addresses.resolve_left readable
  have read := addressed.readObjectId_eq
  refine ⟨fun outside => ?_, fun inside => ?_⟩
  · refine ends_of_refused ?_
    simp only [authorize, known, read, Request.entry,
      show Operation.ofWords? request.action request.subAction = none from outside]
    rfl
  obtain ⟨operation, words⟩ := Option.ne_none_iff_exists'.mp inside
  refine ⟨?_, fun listed => ?_⟩
  · rintro ⟨operation', words', unlisted⟩
    obtain rfl := Option.some.inj (words.symm.trans words')
    refine ends_of_refused ?_
    simp only [authorize, known, read, Request.entry, words, unlisted]
    rfl
  obtain ⟨entry, listed⟩ := Option.ne_none_iff_exists'.mp fun unlisted =>
    listed ⟨operation, words, unlisted⟩
  exact next ⟨caller, operation, entry, objectId⟩ ⟨⟨c, rfl, identify⟩, words, listed, addressed⟩

private theorem decide_sent {b : Brief} (made : b.Of now claims request)
    (next : (b.entry.target = .required → b.objectId ≠ none) →
      Decide storage now claims scope request later) :
    Decide storage now claims scope request (.noTarget :: later) := by
  refine ⟨?_, fun sent => next fun required missing => sent ⟨b, made, required, missing⟩⟩
  rintro ⟨b', made', required, missing⟩
  obtain ⟨⟨c, rfl, identify⟩, words, listed, addressed⟩ := made'
  refine ends_of_refused ?_
  simp only [authorize, Claims.caller_eq_ok_iff.mpr identify, addressed.readObjectId_eq,
    Request.entry, words, Option.mem_def.mp listed, Inquiry.ofExcept, Inquiry.decided_bind,
    required, missing, TargetUse.select]
  rfl

/-- What the scope is refused with ends the decision. -/
theorem ends_of_select {b : Brief} (made : b.Of now claims request)
    (sent : b.entry.target = .required → b.objectId ≠ none) {o : Obstacle} (late : o.early = false)
    (used : b.entry.scope ≠ .ignored) (refused : scope.resolve.run storage = .error o.refusal) :
    o.Ends storage now claims scope request := by
  refine ⟨?_, fun early => Bool.noConfusion (late.symm.trans early)⟩
  rw [made.authorize_eq sent]
  refine Inquiry.run_bind_of_error ?_
  cases use : b.entry.scope with
  | ignored => exact (used use).elim
  | ifPresent => exact refused
  | required => exact Inquiry.run_bind_of_error refused

private theorem decide_scope (reliable : storage.Reliable) {b : Brief}
    (made : b.Of now claims request) (sent : b.entry.target = .required → b.objectId ≠ none)
    (next : ∀ resolved, b.entry.scope.Chooses storage scope resolved →
      Decide storage now claims scope request later) :
    Decide storage now claims scope request
      (.noScope :: .channelLost :: .serverLost :: later) := by
  refine ⟨?_, fun named => ⟨?_, fun channel => ⟨?_, fun server => ?_⟩⟩⟩
  · rintro ⟨b', made', required, rfl⟩
    obtain rfl := made.unique made'
    refine ends_of_refused ?_
    rw [made.authorize_eq sent, Brief.judge, required]
    rfl
  · rintro ⟨b', made', used, id, rfl, lacks⟩
    obtain rfl := made.unique made'
    exact ends_of_select made sent rfl used
      (Inquiry.run_bind_of_error (Target.load_of_lacks lacks _))
  · rintro ⟨b', made', used, lost⟩
    obtain rfl := made.unique made'
    refine ends_of_select made sent rfl used ?_
    rcases lost with ⟨id, rfl, lacks⟩ | ⟨id, place, rfl, found, lacks⟩
    · exact Inquiry.run_bind_of_error (loadServer_of_lacks lacks)
    · have loaded : (Target.load .channel id none).run storage = .ok (.channel place) :=
        Target.load_eq_ok_iff.mpr ⟨⟨rfl, found⟩, nofun⟩
      exact (Inquiry.run_bind_of_ok loaded).trans
        (Inquiry.run_bind_of_error (loadServer_of_lacks lacks))
  by_cases ignored : b.entry.scope = .ignored
  · exact next none (by rw [ignored]; rfl)
  have chosen {resolved : ResolvedScope} (names : scope.Names storage resolved.server)
      (same : resolved.channelId = scope.channel?) :
      b.entry.scope.Chooses storage scope (some resolved) := by
    cases use : b.entry.scope with
    | ignored => exact (ignored use).elim
    | ifPresent | required => exact ⟨names, same⟩
  cases scope with
  | unscoped =>
    refine next none ?_
    cases use : b.entry.scope with
    | ignored => exact (ignored use).elim
    | ifPresent => rfl
    | required => exact named ⟨b, made, use, rfl⟩
  | server id =>
    obtain ⟨row, found⟩ := (reliable.found_or_lacks (.server id)).resolve_right fun lacks =>
      server ⟨b, made, ignored, .inl ⟨id, rfl, lacks⟩⟩
    exact next (some ⟨row, none⟩) (chosen found rfl)
  | channel id =>
    obtain ⟨place, found⟩ := (reliable.found_or_lacks (.channel id)).resolve_right fun lacks =>
      channel ⟨b, made, ignored, id, rfl, lacks⟩
    obtain ⟨row, home⟩ := (reliable.found_or_lacks (.server place.serverId)).resolve_right
      fun lacks => server ⟨b, made, ignored, .inr ⟨id, place, rfl, found, lacks⟩⟩
    exact next (some ⟨row, some id⟩) (chosen ⟨place, found, home⟩ rfl)

/-- What the target is refused with ends the decision. -/
theorem ends_of_loadTarget {b : Brief} (made : b.Of now claims request)
    (sent : b.entry.target = .required → b.objectId ≠ none) {resolved : Option ResolvedScope}
    (chosen : b.entry.scope.Chooses storage scope resolved) {o : Obstacle} (late : o.early = false)
    (refused : (loadTarget request.objectClass b.targetId resolved).run storage =
      .error o.refusal) : o.Ends storage now claims scope request := by
  refine ⟨?_, fun early => Bool.noConfusion (late.symm.trans early)⟩
  rw [made.authorize_eq sent]
  exact (Inquiry.run_bind_of_ok (ScopeUse.select_eq_ok_iff.mpr chosen)).trans
    (Inquiry.run_bind_of_error refused)

private theorem decide_target (reliable : storage.Reliable) {b : Brief}
    (made : b.Of now claims request)
    (sent : b.entry.target = .required → b.objectId ≠ none) {resolved : Option ResolvedScope}
    (chosen : b.entry.scope.Chooses storage scope resolved)
    (next : ∀ found,
      b.entry.target.Finds storage request.objectClass b.objectId resolved found →
      Decide storage now claims scope request later) :
    Decide storage now claims scope request
      (.targetLost :: .elsewhere :: .otherChannel :: later) := by
  have ends {o : Obstacle} := ends_of_loadTarget (o := o) made sent chosen
  refine ⟨?_, fun there => ⟨?_, fun inside => ⟨?_, fun channel => ?_⟩⟩⟩
  · rintro ⟨b', made', id, named, lacks⟩
    obtain rfl := made.unique made'
    refine ends rfl ?_
    rw [Option.mem_def.mp named]
    exact Inquiry.run_bind_of_error (Target.load_of_lacks lacks _)
  · rintro ⟨b', made', id, named, target, stored, checked, used, server, names, outside⟩
    obtain rfl := made.unique made'
    obtain ⟨r, rfl, names', -⟩ := chosen.eq_some used names.ne_unscoped
    obtain rfl := names.unique names'
    refine ends rfl ?_
    rw [Option.mem_def.mp named]
    exact loadTarget_elsewhere stored checked outside
  · rintro ⟨b', made', id, named, target, stored, used, own, has, asked, names, differ⟩
    obtain rfl := made.unique made'
    obtain ⟨r, rfl, names', same⟩ := chosen.eq_some used (Scope.ne_unscoped_of_channel? names)
    refine ends rfl ?_
    rw [Option.mem_def.mp named]
    refine loadTarget_otherChannel stored (fun checked => ?_) has (same ▸ names) differ
    refine Classical.byContradiction fun outside => ?_
    exact inside ⟨b, made, id, named, target, stored, checked, used, r.server, names', outside⟩
  cases named : b.targetId with
  | none =>
    exact next none (TargetUse.select_loadTarget_iff.mp
      ⟨none, named ▸ b.select_eq sent, loadTarget_none.mpr rfl⟩)
  | some id =>
    obtain ⟨target, stored⟩ := (reliable.stored_or_lacks request.objectClass id).resolve_right
      fun lacks => there ⟨b, made, id, named, lacks⟩
    refine next (some target) (TargetUse.select_loadTarget_iff.mp
      ⟨some id, named ▸ b.select_eq sent, loadTarget_some.mpr ⟨target, rfl, stored, ?_⟩⟩)
    rintro r rfl
    obtain ⟨used, names, same⟩ := chosen.of_some
    constructor
    · intro checked
      refine Classical.byContradiction fun outside => ?_
      exact inside ⟨b, made, id, named, target, stored, checked, used, r.server, names, outside⟩
    · intro own has asked names'
      refine Classical.byContradiction fun differ => ?_
      exact channel
        ⟨b, made, id, named, target, stored, used, own, has, asked, same ▸ names', differ⟩

private theorem decide_rule (reliable : storage.Reliable) {b : Brief}
    (made : b.Of now claims request)
    (sent : b.entry.target = .required → b.objectId ≠ none) {facts : Facts}
    (comes : b.ComesTo storage scope request.objectClass facts) :
    Decide storage now claims scope request [.stranded, .ruleFails] := by
  have judged {facts : Facts} (comes : b.ComesTo storage scope request.objectClass facts) :
      (authorize now claims scope request).run storage =
        (conclude (b.entry.rule.allows facts)).run storage := by
    obtain ⟨resolved, chosen, found, finds, rfl⟩ := comes
    obtain ⟨targetId, selected, loaded⟩ := TargetUse.select_loadTarget_iff.mpr finds
    obtain rfl := Except.ok.inj ((b.select_eq sent).symm.trans selected)
    rw [made.authorize_eq sent]
    exact (Inquiry.run_bind_of_ok (ScopeUse.select_eq_ok_iff.mpr chosen)).trans
      (Inquiry.run_bind_of_ok loaded)
  have settles {facts : Facts} (comes : b.ComesTo storage scope request.objectClass facts) :=
    Rule.allows_settles reliable (comes.placed made.listed)
  refine ⟨?_, fun clear => ⟨?_, fun means => ?_⟩⟩
  · rintro ⟨b', made', facts', comes', stranded⟩
    obtain rfl := made.unique made'
    exact ⟨(judged comes').trans (Inquiry.run_bind_of_error ((settles comes').1 stranded)), nofun⟩
  · rintro ⟨b', made', facts', comes', fails⟩
    obtain rfl := made.unique made'
    obtain ⟨held, asked⟩ := (settles comes').2 fun stranded =>
      clear ⟨b, made, facts', comes', stranded⟩
    cases held with
    | true => exact (fails ((Rule.allows_eq_ok asked).2.mp rfl)).elim
    | false => exact ⟨(judged comes').trans (Inquiry.run_bind_of_ok asked), nofun⟩
  · obtain ⟨held, asked⟩ := (settles comes).2 fun stranded =>
      clear ⟨b, made, facts, comes, stranded⟩
    have holds : b.entry.rule.Means storage facts :=
      Classical.byContradiction fun fails => means ⟨b, made, facts, comes, fails⟩
    obtain rfl := (Rule.allows_eq_ok asked).2.mpr holds
    exact (judged comes).trans (Inquiry.run_bind_of_ok asked)

private theorem decide_inOrder (reliable : storage.Reliable) (now : Time) (claims : Option Claims)
    (scope : Scope) (request : Request) : Decide storage now claims scope request inOrder := by
  refine decide_claims fun identified => ?_
  refine decide_words identified fun b made => ?_
  refine decide_sent made fun sent => ?_
  refine decide_scope reliable made sent fun resolved chosen => ?_
  refine decide_target reliable made sent chosen fun found finds => ?_
  exact decide_rule reliable made sent ⟨resolved, chosen, found, finds, rfl⟩

end Obstacle

/-- A decision that nothing disturbs, over a storage that never fails, is refused for the first
obstacle that stands in its way, and allowed if there is none. Where that obstacle is an early one
the refusal takes no lookup under any conditions. No refusal is internal. -/
theorem first_obstacle_decides {storage : Storage} (reliable : storage.Reliable)
    (latency : Option Nat) (now : Time) (claims : Option Claims) (scope : Scope)
    (request : Request) :
    (∀ before o after, Obstacle.inOrder = before ++ o :: after →
      (∀ o' ∈ before, ¬ o'.Stands storage now claims scope request) →
      o.Stands storage now claims scope request →
        verdict storage latency now claims scope request = .refused o.refusal ∧
        o.refusal.kind? = some o.kind ∧
        (o.early = true → ∀ (c : Conditions) (p : Progress),
          c.run (authorize now claims scope request) p = (.refused o.refusal, p))) ∧
    ((∀ o ∈ Obstacle.inOrder, ¬ o.Stands storage now claims scope request) →
      verdict storage latency now claims scope request = .decided ()) ∧
    ∀ r, verdict storage latency now claims scope request = .refused r →
      r.kind? ≠ some .internal := by
  have decides := Obstacle.decide_inOrder reliable now claims scope request
  have ending : verdict storage latency now claims scope request =
      .ofResult ((authorize now claims scope request).run storage) := by
    rw [verdict, Conditions.run_calm _ rfl]
  refine ⟨fun before o after split passed stands => ?_, fun passed => ?_, fun r refused => ?_⟩
  · obtain ⟨result, atOnce⟩ := (split ▸ decides).first passed stands
    refine ⟨by rw [ending, result]; rfl, o.kind_refusal, fun early c p => ?_⟩
    rw [atOnce early]
    rfl
  · exact verdict_eq_decided_iff.mpr (decides.allowed passed)
  · rw [ending] at refused
    rcases decides.ending with ⟨o, -, result⟩ | result
    · rw [result] at refused
      cases refused
      rw [o.kind_refusal]
      exact fun same => o.kind_ne_internal (Option.some.inj same)
    · rw [result] at refused
      cases refused

/-- A caller whose id cannot be read is told so, although the words of the request mean nothing
either. -/
theorem nameless_before_outside_vocabulary :
    let claims : Claims := ⟨"nobody", "", "", 1⟩
    let request : Request := ⟨.role, none, "fly", none⟩
    Obstacle.Stands Sample.house.storage .epoch (some claims) .unscoped request .outsideVocabulary ∧
      verdict Sample.house.storage none .epoch (some claims) .unscoped request =
        .refused (.invalidUuid "dispatch.caller_id") := by
  intro claims request
  have meaningless : Operation.ofWords? "fly" none = none := by decide +kernel
  refine ⟨meaningless, ?_⟩
  have told := (first_obstacle_decides (Memory.reliable (m := Sample.house) rfl) none
    .epoch (some claims) .unscoped request).1 [.noClaims, .expired] .nameless _ rfl
  refine (told ?_ ⟨claims, rfl, by decide +kernel⟩).1
  intro o member
  simp only [List.mem_cons, List.not_mem_nil, or_false] at member
  rcases member with rfl | rfl
  · nofun
  · rintro ⟨_, ⟨⟩, expired⟩
    exact absurd expired (by decide)

end Gatehouse
