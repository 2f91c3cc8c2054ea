import Gatehouse.Proofs.Authority.Decision

/-! # What is not there

A decision on an object or a scope that does not exist is refused as not found, whoever asks and
whatever the rule says, as soon as it comes to look for it. What is checked before anything is
looked up may refuse earlier.
-/

namespace Gatehouse

/-- The lookup of an object by its id. -/
def ObjectClass.lookup : ObjectClass → Uuid → Lookup
  | .server => .server
  | .subscription => .subscription
  | .role => .role
  | .assignment => .assignment
  | .channel => .channel
  | .override => .override
  | .grant => .grant

/-- The storage says that there is no such object. -/
def Storage.Lacks (storage : Storage) (c : ObjectClass) (id : Uuid) : Prop :=
  storage (c.lookup id) = .error .noRows

/-- The scope names something that is not there. -/
def Scope.Lost (storage : Storage) : Scope → Prop
  | .unscoped => False
  | .server id => storage.Lacks .server id
  | .channel id => storage.Lacks .channel id

namespace Inquiry

variable {α β : Type} {storage : Storage} {i : Inquiry α} {f : α → Inquiry β}

/-- The inquiry is refused because something is not found. -/
def Misses (storage : Storage) (i : Inquiry α) : Prop :=
  ∃ origin, i.run storage = .error (.notFound origin)

theorem Misses.bind (misses : i.Misses storage) : (i >>= f).Misses storage := by
  obtain ⟨origin, refused⟩ := misses
  exact ⟨origin, run_bind_of_error refused⟩

theorem Misses.after {a : α} (found : i.run storage = .ok a) (misses : (f a).Misses storage) :
    (i >>= f).Misses storage := by
  obtain ⟨origin, refused⟩ := misses
  exact ⟨origin, (run_bind_of_ok found).trans refused⟩

private theorem Misses.after_ofExcept {result : Except Refusal α} {a : α} (known : result = .ok a)
    (misses : (f a).Misses storage) : (ofExcept result >>= f).Misses storage :=
  .after ((run_ofExcept result).trans known) misses

end Inquiry

variable {storage : Storage} {c : ObjectClass} {id : Uuid} {scope : Scope}

theorem loadServer_of_lacks (lacks : storage.Lacks .server id) :
    (loadServer id).run storage = .error (.notFound "predicates.load_server") :=
  Inquiry.run_bind_of_ok (Inquiry.run_find?_eq_none_iff.mpr lacks)

private theorem Target.fetch?_of_lacks (lacks : storage.Lacks c id) :
    (fetch? c id).run storage = .ok none := by
  have fetched {q : Lookup} {wrap : q.Found → Target} (lacks : storage q = .error .noRows) :
      (do return (← Inquiry.find? origin q).map wrap : Inquiry (Option Target)).run storage =
        .ok none :=
    Inquiry.run_bind_eq_ok_iff.mpr ⟨none, Inquiry.run_find?_eq_none_iff.mpr lacks, rfl⟩
  cases c <;> exact fetched lacks

theorem Target.load_of_lacks (lacks : storage.Lacks c id) (within : Option Uuid) :
    (load c id within).run storage = .error (.notFound "resolve.load_object") :=
  Inquiry.run_bind_of_ok (fetch?_of_lacks lacks)

theorem Scope.Lost.resolve (lost : scope.Lost storage) : scope.resolve.Misses storage := by
  cases scope with
  | unscoped => exact lost.elim
  | server id => exact .bind ⟨_, loadServer_of_lacks lost⟩
  | channel id => exact .bind ⟨_, Target.load_of_lacks lost none⟩

theorem Scope.Lost.select (lost : scope.Lost storage) {use : ScopeUse} (used : use ≠ .ignored) :
    (use.select scope).Misses storage := by
  cases use with
  | ignored => exact (used rfl).elim
  | ifPresent => exact lost.resolve
  | required => exact lost.resolve.bind

theorem loadTarget_misses (lacks : storage.Lacks c id) (resolved : Option ResolvedScope) :
    (loadTarget c (some id) resolved).Misses storage :=
  .bind ⟨_, Target.load_of_lacks lacks _⟩

/-- Over a storage that never fails an object is there or is not. -/
theorem Storage.Reliable.stored_or_lacks (reliable : storage.Reliable) (c : ObjectClass) (id : Uuid) :
    (∃ target : Target, target.Stored storage c id) ∨ storage.Lacks c id := by
  refine (reliable.found_or_lacks (c.lookup id)).imp_left fun ⟨row, found⟩ => ?_
  cases c with
  | server => exact ⟨.server row, rfl, found⟩
  | subscription => exact ⟨.subscription row, rfl, found⟩
  | role => exact ⟨.role row, rfl, found⟩
  | assignment => exact ⟨.assignment row, rfl, found⟩
  | channel => exact ⟨.channel row, rfl, found⟩
  | override => exact ⟨.override row, rfl, found⟩
  | grant => exact ⟨.grant row, rfl, found⟩

variable {target : Target} {r : ResolvedScope}

/-- A stored target of another server than the one it is asked for in. -/
theorem loadTarget_elsewhere (stored : target.Stored storage c id) (checked : c.scopeChecked = true)
    (outside : target.serverId ≠ r.server.id) :
    (loadTarget c (some id) (some r)).run storage = .error (.notFound "resolve.scope_mismatch") := by
  refine Inquiry.run_bind_of_error ?_
  refine (Inquiry.run_bind_of_ok (Target.fetch?_eq_some_iff.mpr stored)).trans ?_
  simp only [checked, if_true, Option.map_some, if_neg outside]
  rfl

/-- A stored target that has to do with another channel than the one it is asked for in. -/
theorem loadTarget_otherChannel (stored : target.Stored storage c id)
    (inside : c.scopeChecked = true → target.serverId = r.server.id) {own asked : Uuid}
    (has : own ∈ target.channel?) (named : asked ∈ r.channelId) (differ : own ≠ asked) :
    (loadTarget c (some id) (some r)).run storage =
      .error (.notFound "dispatch.channel_mismatch") := by
  have loaded : (Target.load c id
      (if c.scopeChecked then (some r).map (·.server.id) else none)).run storage = .ok target := by
    refine Target.load_eq_ok_iff.mpr ⟨stored, ?_⟩
    cases checked : c.scopeChecked with
    | true =>
      rintro _ ⟨⟩
      exact inside checked
    | false => nofun
  refine (Inquiry.run_bind_of_ok loaded).trans ?_
  simp only [Option.mem_def.mp has, Option.bind_some, Option.mem_def.mp named, if_neg differ]
  rfl

section Decisions

variable {now : Time} {claims : Claims} {request : Request} {targetId : Option Uuid}
  {entry : PolicyEntry}

/-- The request passes all that is checked before anything is looked up: its caller is known, its
ids can be read, it has this entry, and it sends an object id if the entry needs one. -/
structure Request.Passes (request : Request) (now : Time) (claims : Claims) (entry : PolicyEntry)
    (targetId : Option Uuid) : Prop where
  identified : ∃ caller, claims.Identify now caller
  asks : ∃ operation objectId, request.Asks operation objectId ∧
    entry ∈ Policy.entry? request.objectClass operation ∧
    entry.target.select objectId = .ok targetId

/-- A request that passes is refused as not found if its scope is, or else its target. -/
theorem Request.Passes.misses (passes : request.Passes now claims entry targetId)
    (misses : (entry.scope.select scope).Misses storage ∨
      ∃ resolved, (entry.scope.select scope).run storage = .ok resolved ∧
        (loadTarget request.objectClass targetId resolved).Misses storage) :
    (authorize now (some claims) scope request).Misses storage := by
  obtain ⟨⟨caller, identified⟩, operation, objectId, asks, listed, selected⟩ := passes
  have entry_known : request.entry = .ok (operation, entry) := by
    simp only [Request.entry, asks.words, Option.mem_def.mp listed]
  refine .after_ofExcept (Claims.caller_eq_ok_iff.mpr identified) ?_
  refine .after_ofExcept asks.target ?_
  refine .after_ofExcept entry_known ?_
  refine .after_ofExcept selected ?_
  rcases misses with misses | ⟨resolved, found, misses⟩
  · exact misses.bind
  · exact .after found misses.bind

theorem verdict_of_misses {claims : Option Claims}
    (misses : (authorize now claims scope request).Misses storage) (latency : Option Nat) :
    ∃ origin, verdict storage latency now claims scope request = .refused (.notFound origin) := by
  obtain ⟨origin, refused⟩ := misses
  refine ⟨origin, ?_⟩
  rw [verdict, Conditions.run_calm _ rfl, refused]
  rfl

end Decisions

end Gatehouse
