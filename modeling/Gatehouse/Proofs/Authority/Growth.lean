import Gatehouse.Proofs.Authority.FailClosed
import Gatehouse.Proofs.Authority.Sight

/-! # More authority

Of two storages one may grant more: more memberships, grants that cover more, roles that hold more
flags, and objects besides. As long as what the smaller one knows is known to the larger one in the
same place, with the same owners of servers, whatever the smaller one allows the larger one allows.
What a rule asks of a caller in order to allow stays true. What a guard asks in order to deny is about
the owner of a server, and that is the same.
-/

namespace Gatehouse

variable {σ τ : Storage}

/-- What the one storage knows and grants the other one knows and grants too. Servers have the same
owners, objects live in the same places and belong to the same users. -/
structure Storage.Grows (σ τ : Storage) : Prop where
  server : ∀ {id : Uuid} {row : Server}, σ (.server id) = .ok row →
    ∃ row', τ (.server id) = .ok row' ∧ row'.id = row.id ∧ row'.ownerId = row.ownerId
  target : ∀ {c : ObjectClass} {id : Uuid} {target : Target}, target.Stored σ c id →
    ∃ target', target'.Stored τ c id ∧ target.SameUse target'
  subscribed : ∀ {s u : Uuid}, σ.Subscribed s u → τ.Subscribed s u
  granted : ∀ {s u : Uuid} {family : Family}, σ.Granted s u family → τ.Granted s u family
  serverFlag : ∀ {s u : Uuid} {asked : ServerFlags},
    σ.HoldsServerFlag s u asked → τ.HoldsServerFlag s u asked
  subFlag : ∀ {s u : Uuid} {asked : SubFlags}, σ.HoldsSubFlag s u asked → τ.HoldsSubFlag s u asked

namespace Storage.Grows

section Rules

variable {facts : Facts} {s u : Uuid}

theorem live (grows : σ.Grows τ) (live : σ.Live s) : τ.Live s := by
  obtain ⟨row, found⟩ := live
  obtain ⟨row', found', -⟩ := grows.server found
  exact ⟨row', found'⟩

theorem owns (grows : σ.Grows τ) (owns : σ.Owns s u) : τ.Owns s u := by
  obtain ⟨row, found, owner⟩ := owns
  obtain ⟨row', found', -, same⟩ := grows.server found
  exact ⟨row', found', same.trans owner⟩

/-- No one becomes an owner of a server that is there. -/
theorem owned (grows : σ.Grows τ) (live : σ.Live s) (owns : τ.Owns s u) : σ.Owns s u := by
  obtain ⟨row, found⟩ := live
  obtain ⟨row', found', -, same⟩ := grows.server found
  obtain ⟨row'', found'', owner⟩ := owns
  obtain rfl := Except.ok.inj (found'.symm.trans found'')
  exact ⟨row, found, same.symm.trans owner⟩

/-- What a predicate says of a caller stays true. -/
theorem means (grows : σ.Grows τ) {p : Predicate} (means : p.Means σ facts) : p.Means τ facts := by
  cases p with
  | always | targetIsCaller => exact means
  | serverOwner =>
    obtain ⟨s, named, owns⟩ := means
    exact ⟨s, named, grows.owns owns⟩
  | member =>
    obtain ⟨s, named, subscribed⟩ := means
    exact ⟨s, named, grows.subscribed subscribed⟩
  | baseCheck =>
    obtain ⟨s, named, may⟩ := means
    exact ⟨s, named, may.imp grows.owns grows.granted⟩
  | serverFlag asked =>
    obtain ⟨s, named, known, held⟩ := means
    exact ⟨s, named, known, grows.serverFlag held⟩
  | subFlag asked =>
    obtain ⟨s, named, known, held⟩ := means
    exact ⟨s, named, known, grows.subFlag held⟩
  | targetIsOwner =>
    obtain ⟨user, belongs, s, named, owns⟩ := means
    exact ⟨user, belongs, s, named, grows.owns owns⟩

theorem defined (grows : σ.Grows τ) {p : Predicate} (defined : p.Defined σ facts) :
    p.Defined τ facts := by
  have there (live : ∃ s ∈ facts.server, σ.Live s) : ∃ s ∈ facts.server, τ.Live s :=
    live.imp fun _ named => ⟨named.1, grows.live named.2⟩
  cases p with
  | always | targetIsCaller | member | serverFlag _ | subFlag _ => exact defined
  | serverOwner | baseCheck => exact there defined
  | targetIsOwner => exact defined.imp id there

/-- What a strict predicate says was true before, if it was defined. -/
theorem meant (grows : σ.Grows τ) {p : Predicate} (strict : p.Strict) (defined : p.Defined σ facts)
    (means : p.Means τ facts) : p.Means σ facts := by
  cases p with
  | always | targetIsCaller => exact means
  | serverOwner =>
    obtain ⟨s, named, live⟩ := defined
    obtain ⟨s', named', owns⟩ := means
    obtain rfl := Option.some.inj (named.symm.trans named')
    exact ⟨s, named, grows.owned live owns⟩
  | targetIsOwner =>
    obtain ⟨user, belongs, s', named', owns⟩ := means
    rcases defined with unowned | ⟨s, named, live⟩
    · exact nomatch unowned.symm.trans belongs
    · obtain rfl := Option.some.inj (named.symm.trans named')
      exact ⟨user, belongs, s, named, grows.owned live owns⟩
  | member | baseCheck | serverFlag _ | subFlag _ => exact strict.elim

theorem permits (grows : σ.Grows τ) {rule : Rule} (strict : ∀ guard ∈ rule.denyIf, guard.Strict)
    (permits : rule.Permits σ facts) : rule.Permits τ facts := by
  obtain ⟨first, passes, p, listed, means⟩ := permits
  refine ⟨fun p asked => grows.defined (first p asked), fun guard denies denied => ?_, p, listed,
    grows.means means⟩
  -- the guard is asked first, so it was defined before
  have headed : guard ∈ rule.predicates.head? := by
    rw [Rule.predicates, Option.mem_def.mp denies]
    rfl
  exact passes guard denies (grows.meant (strict guard denies) (first guard headed) denied)

end Rules

end Storage.Grows

/-- A scope that is found in both, in the same server and the same channel. -/
structure ResolvedScope.SameUse (a b : ResolvedScope) : Prop where
  server : a.server.id = b.server.id
  channelId : a.channelId = b.channelId

namespace Storage.Grows

theorem names (grows : σ.Grows τ) {scope : Scope} {row : Server} (names : scope.Names σ row) :
    ∃ row', scope.Names τ row' ∧ row.id = row'.id := by
  cases scope with
  | unscoped => exact names.elim
  | server id =>
    obtain ⟨row', found, same, -⟩ := grows.server names
    exact ⟨row', found, same.symm⟩
  | channel id =>
    obtain ⟨place, placed, home⟩ := names
    have placed : Target.Stored σ .channel id (.channel place) := ⟨rfl, placed⟩
    obtain ⟨target, stored, same⟩ := grows.target placed
    obtain ⟨row', found, sameRow, -⟩ := grows.server home
    cases target <;> simp only [Target.Stored, reduceCtorEq, false_and, true_and] at stored
    case channel place' =>
      have inside : place.serverId = place'.serverId := same.serverId
      exact ⟨row', ⟨place', stored, inside ▸ found⟩, sameRow.symm⟩

theorem chooses (grows : σ.Grows τ) {use : ScopeUse} {scope : Scope} {resolved : Option ResolvedScope}
    (chooses : use.Chooses σ scope resolved) :
    ∃ resolved', use.Chooses τ scope resolved' ∧
      Option.Rel ResolvedScope.SameUse resolved resolved' := by
  cases resolved with
  | none => exact ⟨none, by cases use <;> exact chooses, .none⟩
  | some r =>
    obtain ⟨used, names, channel⟩ := chooses.of_some
    obtain ⟨row', names', same⟩ := grows.names names
    refine ⟨some ⟨row', r.channelId⟩, ?_, .some ⟨same, rfl⟩⟩
    cases use with
    | ignored => exact (used rfl).elim
    | ifPresent | required => exact ⟨names', channel⟩

theorem finds (grows : σ.Grows τ) {c : ObjectClass} {objectId : Option Uuid}
    {resolved resolved' : Option ResolvedScope}
    (same : Option.Rel ResolvedScope.SameUse resolved resolved') {use : TargetUse}
    {found : Option Target} (finds : use.Finds σ c objectId resolved found) :
    ∃ found', use.Finds τ c objectId resolved' found' ∧ Option.Rel Target.SameUse found found' := by
  cases found with
  | none => exact ⟨none, by cases use <;> exact finds, .none⟩
  | some target =>
    have looked : ∃ id ∈ objectId, target.Stored σ c id ∧ target.Fits c resolved := by
      cases use with
      | ignored => cases finds
      | optional | required => exact finds
    obtain ⟨id, sent, stored, fits⟩ := looked
    obtain ⟨target', stored', alike⟩ := grows.target stored
    have fits' : target'.Fits c resolved' := by
      cases same with
      | none => exact fun r named => nomatch named
      | @some r r' same =>
        intro asked named
        obtain rfl := Option.some.inj named
        obtain ⟨server, channel⟩ := fits r rfl
        rw [← alike.serverId, ← alike.channel?, ← same.server, ← same.channelId]
        exact ⟨server, channel⟩
    refine ⟨some target', ?_, .some alike⟩
    cases use with
    | ignored => cases finds
    | optional | required => exact ⟨id, sent, stored', fits'⟩

private theorem facts_eq {caller : Uuid} {operation : Operation}
    {resolved resolved' : Option ResolvedScope}
    (same : Option.Rel ResolvedScope.SameUse resolved resolved') (target : Option Target) :
    Facts.ofParts caller operation resolved target = .ofParts caller operation resolved' target := by
  cases same with
  | none => rfl
  | some same => simp only [Facts.ofParts, Option.map_some, same.server]

theorem admits (grows : σ.Grows τ) {caller : Uuid} {scope : Scope} {c : ObjectClass}
    {operation : Operation} {objectId : Option Uuid} {entry : PolicyEntry}
    (listed : entry ∈ Policy.entry? c operation)
    (admits : entry.Admits σ caller scope c operation objectId) :
    entry.Admits τ caller scope c operation objectId := by
  obtain ⟨resolved, chooses, found, finds, permits⟩ := admits
  obtain ⟨resolved', chooses', sameScope⟩ := grows.chooses chooses
  obtain ⟨found', finds', sameTarget⟩ := grows.finds sameScope finds
  refine ⟨resolved', chooses', found', finds', ?_⟩
  rw [← facts_eq sameScope, ← Facts.ofParts_eq sameTarget]
  exact grows.permits (Policy.strict listed) permits

/-- What is allowed over the smaller storage is allowed over the larger one, if that never fails. -/
theorem authorize_allowed (grows : σ.Grows τ) (reliable : τ.Reliable) {now : Time}
    {claims : Option Claims} {scope : Scope} {request : Request}
    (allowed : (authorize now claims scope request).run σ = .ok ()) :
    (authorize now claims scope request).run τ = .ok () := by
  have stages := allowed
  simp only [authorize, Inquiry.run_bind_eq_ok_iff, Inquiry.run_ofExcept] at stages
  obtain ⟨caller, known, objectId, read, ⟨operation, entry⟩, listed, -⟩ := stages
  cases claims with
  | none => cases known
  | some claims =>
    have identify := Claims.caller_eq_ok_iff.mp known
    have asks : request.Asks operation objectId := ⟨(Request.entry_eq_ok listed).1, read⟩
    obtain ⟨entry, listed, resolved, chooses, found, finds, allows⟩ :=
      (authorize_eq_ok_iff_stages identify asks).mp allowed
    exact authorize_of_admits reliable identify asks listed
      (grows.admits listed ⟨resolved, chooses, found, finds, Rule.permits_of_allows allows⟩)

end Storage.Grows

namespace Conditions

/-- Whether lookups are answered at once does not depend on what they are answered. -/
theorem Clear.withStorage {c : Conditions} {clock : Time} (clear : c.faultless.Clear clock)
    (τ : Storage) : (c.withStorage τ).faultless.Clear clock := by
  intro q p time live
  obtain ⟨inTime, -, answered⟩ := guarded_eq_answered (clear q p time live)
  by_cases enough : allows (c.left p) (c.latency.getD 0) = true
  · exact clear_faultless (c := c.withStorage τ) (p := p) inTime enough q p rfl live
  · have interrupted : c.faultless.answer q p =
        .interrupted .deadlineExceeded { p with asked := p.asked ++ [q] } := by
      simp only [answer, reply, faultless, Int.natCast_zero, Int.zero_add]
      exact if_neg enough
    rw [interrupted] at answered
    cases answered

/-- What is allowed without faults over the smaller storage is allowed over the larger one, with the
same clock, deadline and token. -/
theorem allowed_of_grows {c : Conditions} (grows : c.storage.Grows τ) (reliable : τ.Reliable)
    {now : Time} {cancelled : Bool} {claims : Option Claims} {scope : Scope} {request : Request}
    (allowed : (c.faultless.run (authorize now claims scope request) ⟨now, cancelled, []⟩).1 =
      .decided ()) :
    ((c.withStorage τ).faultless.run (authorize now claims scope request) ⟨now, cancelled, []⟩).1 =
      .decided () := by
  have cautious := authorize_cautious now claims scope request
  have permitted : (authorize now claims scope request).run c.storage = .ok () →
      (authorize now claims scope request).run τ = .ok () := grows.authorize_allowed reliable
  cases decision : authorize now claims scope request with
  | decided result => rfl
  | refused r =>
    rw [decision] at allowed
    cases allowed
  | ask q next =>
    rw [decision] at allowed cautious permitted
    obtain ⟨clear, live⟩ := clear_of_cautious cautious allowed
    have clear : c.faultless.Clear now := clear
    rw [clear.run _ rfl live] at allowed
    rw [(clear.withStorage τ).run _ rfl live]
    exact Ending.ofResult_eq_decided_iff.mpr (permitted (Ending.ofResult_eq_decided_iff.mp allowed))

end Conditions

end Gatehouse
