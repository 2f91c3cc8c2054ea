import Gatehouse.Proofs.Authority.FailClosed
import Gatehouse.Proofs.Authority.Sight
import Gatehouse.Proofs.Authority.Support

/-! # Decisions within one server

A rule asks about the deciding server and the caller only. The target is looked up by its id alone,
so it may turn out to live elsewhere, but then the decision ends as if there were no such object. So
two storages that agree on one server cannot be told apart by requests for the objects of that server,
under the same conditions and faults.
-/

namespace Gatehouse

variable {σ τ : Storage} {s : Uuid}

/-- Both storages always answer, and give the same answers on the server, with lists of roles in any
order, and on the objects of checked classes that live there. -/
structure Storage.AgreeOn (s : Uuid) (σ τ : Storage) : Prop where
  reliable : σ.Reliable
  reliable' : τ.Reliable
  named : ∀ row, σ (.server s) = .ok row → row.id = s
  supports : ∀ caller (q : Lookup), q.Supports s caller → q.Agree (σ q) (τ q)
  objects : ∀ (c : ObjectClass) (id : Uuid) (target : Target), c.scopeChecked = true →
    target.serverId = s → (target.Stored σ c id ↔ target.Stored τ c id)

/-- The refusals look the same from outside. -/
def Refusal.SameStatus (r r' : Refusal) : Prop := r.status = r'.status

theorem Refusal.SameStatus.refl (r : Refusal) : r.SameStatus r := rfl

/-- A pair of answers that the two storages give, or the same failure instead of both. -/
def Storage.Told (σ τ : Storage) (q : Lookup) (reply reply' : q.Reply) : Prop :=
  reply = σ q ∧ reply' = τ q ∨ ∃ failure, reply = .error failure ∧ reply' = .error failure

private theorem Storage.Told.eq {q : Lookup} {reply reply' : q.Reply}
    (told : Storage.Told σ τ q reply reply') (same : σ q = τ q) : reply = reply' := by
  rcases told with ⟨rfl, rfl⟩ | ⟨failure, rfl, rfl⟩
  · exact same
  · rfl

/-- A decision makes the same of both where the storages agree. -/
theorem Storage.Told.like {q : Lookup} {reply reply' : q.Reply}
    (told : Storage.Told σ τ q reply reply') (agree : q.Agree (σ q) (τ q)) :
    q.Like Refusal.SameStatus reply reply' := by
  rcases told with ⟨rfl, rfl⟩ | ⟨failure, rfl, rfl⟩
  · exact agree.like Refusal.SameStatus.refl
  · exact .refl Refusal.SameStatus.refl q _

/-- Two inquiries that cannot be told apart over the two storages. -/
abbrev Inquiry.Twin {α β : Type} (σ τ : Storage) (R : α → β → Prop) : Inquiry α → Inquiry β → Prop :=
  Inquiry.Alike (Storage.Told σ τ) Refusal.SameStatus R

/-- What twins come to is within reach of their storages. -/
theorem Inquiry.Alike.reached {α β : Type} {R : α → β → Prop} {i : Inquiry α} {j : Inquiry β}
    (twin : Twin σ τ R i j) :
    Twin σ τ (fun a b => R a b ∧ i.Reaches (· = σ) a ∧ j.Reaches (· = τ) b) i j := by
  induction twin with
  | decided like => exact .decided ⟨like, .decided _, .decided _⟩
  | refused like => exact .refused like
  | ask like ih =>
    refine .ask fun reply reply' told => ?_
    refine (ih reply reply' told).mono fun a b ends => ?_
    obtain ⟨like, reached, reached'⟩ := ends
    rcases told with ⟨rfl, rfl⟩ | ⟨failure, rfl, rfl⟩
    · exact ⟨like, .told rfl reached, .told rfl reached'⟩
    · exact ⟨like, .failed failure reached, .failed failure reached'⟩

/-- An inquiry that asks only what both storages answer the same is its own twin. -/
theorem Inquiry.Confined.twin {α : Type} {kind : Lookup → Prop} {i : Inquiry α}
    (confined : i.Confined kind) (same : ∀ q, kind q → σ q = τ q) : Twin σ τ Eq i i :=
  (Alike.self Refusal.SameStatus.refl i).of_confined confined
    fun q asked _ _ told => told.eq (same q asked)

/-- Inquiries that make the same of answers that agree are twins if the storages agree on all that
they ask. -/
theorem Inquiry.Alike.twin {α β : Type} {R : α → β → Prop} {kind : Lookup → Prop} {i : Inquiry α}
    {j : Inquiry β} (akin : Akin Refusal.SameStatus R i j) (confined : i.Confined kind)
    (agree : ∀ q, kind q → q.Agree (σ q) (τ q)) : Twin σ τ R i j :=
  akin.of_confined confined fun q asked _ _ told => told.like (agree q asked)

/-- To fetch an object takes one lookup, and then all is said. -/
theorem Target.fetch?_shape (c : ObjectClass) (id : Uuid) :
    ∃ q next, fetch? c id = .ask q next ∧
      ∀ reply, ∃ result : Except Refusal (Option Target), next reply = Inquiry.ofExcept result := by
  have mapped (q : Lookup) (wrap : q.Found → Target) :
      ∃ q' next, (do return (← Inquiry.find? origin q).map wrap : Inquiry (Option Target)) =
        .ask q' next ∧ ∀ reply, ∃ result : Except Refusal (Option Target),
          next reply = Inquiry.ofExcept result := by
    refine ⟨q, _, rfl, fun reply => ?_⟩
    obtain ⟨⟨⟩ | ⟨report, causes⟩⟩ | found := reply
    · exact ⟨.ok none, rfl⟩
    · exact ⟨.error _, rfl⟩
    · exact ⟨.ok (some (wrap found)), rfl⟩
  cases c <;> exact mapped _ _

private theorem Target.fetch?_total {storage : Storage} (reliable : storage.Reliable)
    (c : ObjectClass) (id : Uuid) : ∃ found, (fetch? c id).run storage = .ok found := by
  have mapped (q : Lookup) (wrap : q.Found → Target) :
      ∃ found, (do return (← Inquiry.find? origin q).map wrap : Inquiry (Option Target)).run storage =
        .ok found := by
    obtain ⟨found, asked⟩ := reliable.run_find? origin q
    exact ⟨found.map wrap, Inquiry.run_bind_eq_ok_iff.mpr ⟨found, asked, rfl⟩⟩
  cases c <;> exact mapped _ _

/-- What is fetched is the same, as far as it lives in the server. -/
theorem Storage.AgreeOn.fetch? (agree : Storage.AgreeOn s σ τ) {c : ObjectClass}
    (checked : c.scopeChecked = true) (id : Uuid) :
    Inquiry.Twin σ τ (fun a b => ∀ target : Target, target.serverId = s →
      (a = some target ↔ b = some target)) (Target.fetch? c id) (Target.fetch? c id) := by
  obtain ⟨found, ran⟩ := Target.fetch?_total agree.reliable c id
  obtain ⟨found', ran'⟩ := Target.fetch?_total agree.reliable' c id
  have objects (target : Target) (inside : target.serverId = s) :
      found = some target ↔ found' = some target := by
    have stored : (Target.fetch? c id).run σ = .ok (some target) ↔ target.Stored σ c id :=
      Target.fetch?_eq_some_iff
    have stored' : (Target.fetch? c id).run τ = .ok (some target) ↔ target.Stored τ c id :=
      Target.fetch?_eq_some_iff
    rw [ran, Except.ok.injEq] at stored
    rw [ran', Except.ok.injEq] at stored'
    rw [stored, stored']
    exact agree.objects c id target checked inside
  obtain ⟨q, next, shape, said⟩ := Target.fetch?_shape c id
  rw [shape] at ran ran' ⊢
  refine .ask fun reply reply' told => ?_
  rcases told with ⟨rfl, rfl⟩ | ⟨failure, rfl, rfl⟩
  · obtain ⟨result, leaf⟩ := said (σ q)
    obtain ⟨result', leaf'⟩ := said (τ q)
    rw [Inquiry.run, leaf, Inquiry.run_ofExcept] at ran
    rw [Inquiry.run, leaf', Inquiry.run_ofExcept] at ran'
    rw [leaf, leaf', ran, ran']
    exact .decided objects
  · obtain ⟨result, leaf⟩ := said (.error failure)
    rw [leaf]
    cases result with
    | ok a => exact .decided fun target _ => Iff.rfl
    | error r => exact .refused rfl

/-- An object that lives elsewhere is refused as one that does not exist. -/
theorem Storage.AgreeOn.load (agree : Storage.AgreeOn s σ τ) {c : ObjectClass}
    (checked : c.scopeChecked = true) (id : Uuid) :
    Inquiry.Twin σ τ (fun a b => a = b ∧ a.serverId = s) (Target.load c id (some s))
      (Target.load c id (some s)) := by
  refine (agree.fetch? checked id).bind fun found found' same => ?_
  by_cases inside : ∃ target, found = some target ∧ target.serverId = s
  · obtain ⟨target, rfl, inside⟩ := inside
    obtain rfl := (same target inside).mp rfl
    simp only [if_pos inside]
    exact .decided ⟨rfl, inside⟩
  · have away (target : Target) (there : found = some target) : target.serverId ≠ s :=
      fun inside' => inside ⟨target, there, inside'⟩
    have away' (target : Target) (there : found' = some target) : target.serverId ≠ s :=
      fun inside' => inside ⟨target, (same target inside').mpr there, inside'⟩
    cases found with
    | none =>
      cases found' with
      | none => exact .refused rfl
      | some target' =>
        simp only [if_neg (away' target' rfl)]
        exact .refused rfl
    | some target =>
      simp only [if_neg (away target rfl)]
      cases found' with
      | none => exact .refused rfl
      | some target' =>
        simp only [if_neg (away' target' rfl)]
        exact .refused rfl

/-- The scope names the server, or a channel that lives in it. -/
def Scope.Within (storage : Storage) (s : Uuid) : Scope → Prop
  | .unscoped => False
  | .server id => id = s
  | .channel id => ∃ row, storage (.channel id) = .ok row ∧ row.serverId = s

theorem Storage.AgreeOn.loadServer (agree : Storage.AgreeOn s σ τ) :
    Inquiry.Twin σ τ (fun a b => a = b ∧ a.id = s) (loadServer s) (loadServer s) := by
  have twin := ((loadServer_akin Refusal.SameStatus.refl s).twin (loadServer_confined s s)
    (agree.supports s)).reached
  refine twin.mono fun a b ends => ?_
  obtain ⟨same, reached, -⟩ := ends
  exact ⟨same, agree.named a (loadServer_eq_ok_iff.mp (loadServer_exact s a reached))⟩

theorem Storage.AgreeOn.resolve (agree : Storage.AgreeOn s σ τ) {scope : Scope}
    (within : scope.Within σ s) :
    Inquiry.Twin σ τ (fun a b => a = b ∧ ∃ resolved, a = some resolved ∧ resolved.server.id = s)
      scope.resolve scope.resolve := by
  have located (channelId : Option Uuid) :
      Inquiry.Twin σ τ (fun a b => a = b ∧ ∃ resolved, a = some resolved ∧ resolved.server.id = s)
        (do return some (ResolvedScope.mk (← Gatehouse.loadServer s) channelId))
        (do return some (ResolvedScope.mk (← Gatehouse.loadServer s) channelId)) := by
    refine agree.loadServer.bind fun server _ same => ?_
    obtain ⟨rfl, named⟩ := same
    exact .decided ⟨rfl, _, rfl, named⟩
  cases scope with
  | unscoped => exact within.elim
  | server id =>
    obtain rfl : id = s := within
    exact located none
  | channel id =>
    obtain ⟨row, found, inside⟩ := within
    have found' : τ (.channel id) = .ok row :=
      ((agree.objects .channel id (.channel row) rfl inside).mp ⟨rfl, found⟩).2
    have confined : (Target.load .channel id none).Confined (· = .channel id) := by
      refine ⟨rfl, fun reply => ?_⟩
      obtain ⟨⟨⟩ | _⟩ | found := reply <;> trivial
    have same : ∀ q, q = .channel id → σ q = τ q := by
      rintro q rfl
      rw [found, found']
    refine (confined.twin same).reached.bind fun channel _ same => ?_
    obtain ⟨rfl, reached, -⟩ := same
    obtain ⟨stored, -⟩ := Target.load_eq_ok_iff.mp (Target.load_exact _ _ _ _ reached)
    have lives : channel.serverId = s := by
      cases channel with
      | channel row' =>
        obtain rfl : row = row' := Except.ok.inj (found.symm.trans stored.2)
        exact inside
      | _ => exact nomatch stored.1
    rw [lives]
    exact located (some id)

/-- Every entry for a checked class uses the scope. -/
theorem Policy.scope_ne_ignored {c : ObjectClass} {operation : Operation} {entry : PolicyEntry}
    (checked : c.scopeChecked = true) (listed : entry ∈ entry? c operation) :
    entry.scope ≠ .ignored := by
  cases c <;> cases checked <;>
    simp only [ entry?, role, assignment, channel, override] at listed <;>
    split at listed <;> cases listed <;> simp

theorem Storage.AgreeOn.select (agree : Storage.AgreeOn s σ τ) {scope : Scope}
    (within : scope.Within σ s) {use : ScopeUse} (used : use ≠ .ignored) :
    Inquiry.Twin σ τ (fun a b => a = b ∧ ∃ resolved, a = some resolved ∧ resolved.server.id = s)
      (use.select scope) (use.select scope) := by
  cases use with
  | ignored => exact (used rfl).elim
  | ifPresent => exact agree.resolve within
  | required =>
    refine (agree.resolve within).bind fun found _ same => ?_
    obtain ⟨rfl, resolved, rfl, named⟩ := same
    exact .decided ⟨rfl, resolved, rfl, named⟩

theorem Storage.AgreeOn.loadTarget (agree : Storage.AgreeOn s σ τ) {c : ObjectClass}
    (checked : c.scopeChecked = true) (id : Option Uuid) {scope : ResolvedScope}
    (named : scope.server.id = s) :
    Inquiry.Twin σ τ (fun a b => a = b ∧ ∀ target ∈ a, target.serverId = s)
      (loadTarget c id (some scope)) (loadTarget c id (some scope)) := by
  cases id with
  | none =>
    refine .decided ⟨rfl, fun target there => ?_⟩
    cases there
  | some id =>
    unfold Gatehouse.loadTarget
    simp only [if_pos checked, Option.map_some, named]
    refine (agree.load checked id).bind fun target _ same => ?_
    obtain ⟨rfl, inside⟩ := same
    have kept : Inquiry.Twin σ τ (fun a b => a = b ∧ ∀ target ∈ a, target.serverId = s)
        (pure (some target)) (pure (some target)) := by
      refine .decided ⟨rfl, fun other there => ?_⟩
      cases there
      exact inside
    split
    · split
      · exact kept
      · exact .refused rfl
    · exact kept

/-- Requests for objects of checked classes within a server cannot tell storages apart that agree on
the server. -/
theorem Storage.AgreeOn.authorize (agree : Storage.AgreeOn s σ τ) {scope : Scope}
    (within : scope.Within σ s) {request : Request}
    (checked : request.objectClass.scopeChecked = true) (now : Time) (claims : Option Claims) :
    Inquiry.Twin σ τ Eq (authorize now claims scope request)
      (authorize now claims scope request) := by
  refine .ofExcept_bind Refusal.SameStatus.refl _ fun caller _ => ?_
  refine .ofExcept_bind Refusal.SameStatus.refl _ fun objectId _ => ?_
  refine .ofExcept_bind Refusal.SameStatus.refl _ fun (operation, entry) listed => ?_
  refine .ofExcept_bind Refusal.SameStatus.refl _ fun targetId _ => ?_
  have listed := (Request.entry_eq_ok listed).2
  have used := Policy.scope_ne_ignored checked listed
  refine (agree.select within used).bind fun found _ same => ?_
  obtain ⟨rfl, resolved, rfl, named⟩ := same
  refine (agree.loadTarget checked targetId named).bind fun found _ same => ?_
  obtain ⟨rfl, inside⟩ := same
  have server : (Facts.ofParts caller operation (some resolved) found).server = some s := by
    cases found with
    | none => exact congrArg some named
    | some target => exact congrArg some (inside target rfl)
  have asked (q : Lookup) (supports : ∃ s' ∈ (Facts.ofParts caller operation (some resolved)
      found).server, q.Supports s' caller) : q.Agree (σ q) (τ q) := by
    obtain ⟨s', there, supports⟩ := supports
    rw [server] at there
    cases there
    exact agree.supports _ q supports
  refine Inquiry.Alike.bind_eq ?rule fun allowed => ?verdict
  case rule =>
    exact (Rule.allows_akin Refusal.SameStatus.refl (Policy.usual listed)).twin
      entry.rule.allows_confined asked
  case verdict =>
    cases allowed with
    | true => exact .decided rfl
    | false => exact .refused rfl

end Gatehouse
