import Gatehouse.Proofs.Calm

/-! # Results within reach

The answers to the lookups of a decision need not come from one storage in one state: the rows may
change between two lookups, and each lookup may fail, or find nothing where there is something. What
an inquiry can come to is said here for any set of storages that may give an answer, lookup by
lookup, with any failure in the place of any answer.

Most inquiries of a decision take no failure for an answer: they refuse when nothing is found. Such
an inquiry with one lookup comes to what a plain run over one of the storages comes to.
-/

namespace Gatehouse

namespace Inquiry

variable {α β : Type} {sources : Storage → Prop}

/-- The inquiry can end with this result if each answer comes from one of the storages or is a
failure. -/
inductive Reaches (sources : Storage → Prop) : Inquiry α → α → Prop
  | decided (a : α) : Reaches sources (.decided a) a
  | told {q : Lookup} {next : q.Reply → Inquiry α} {a : α} {storage : Storage}
      (source : sources storage) (later : Reaches sources (next (storage q)) a) :
      Reaches sources (.ask q next) a
  | failed {q : Lookup} {next : q.Reply → Inquiry α} {a : α} (failure : LookupFailure)
      (later : Reaches sources (next (.error failure)) a) : Reaches sources (.ask q next) a

@[simp] theorem reaches_decided_iff {a b : α} : (decided a).Reaches sources b ↔ a = b := by
  constructor
  · intro reached
    cases reached
    rfl
  · rintro rfl
    exact .decided a

@[simp] theorem reaches_pure_iff {a b : α} : (pure a : Inquiry α).Reaches sources b ↔ a = b :=
  reaches_decided_iff

@[simp] theorem not_reaches_refused {r : Refusal} {a : α} : ¬ (refused r).Reaches sources a :=
  fun reached => nomatch reached

private theorem reaches_ofExcept_iff {result : Except Refusal α} {a : α} :
    (ofExcept result).Reaches sources a ↔ result = .ok a := by
  cases result <;> simp [ofExcept]

/-- To reach the end is to reach a result in the middle and go on from there. -/
theorem reaches_bind_iff {i : Inquiry α} {f : α → Inquiry β} {b : β} :
    (i >>= f).Reaches sources b ↔ ∃ a, i.Reaches sources a ∧ (f a).Reaches sources b := by
  change (i.bind f).Reaches sources b ↔ _
  induction i with
  | decided a => simp [bind]
  | refused r => simp [bind]
  | ask q next ih =>
    constructor
    · intro reached
      cases reached with
      | told source later =>
        obtain ⟨a, first, second⟩ := (ih _).mp later
        exact ⟨a, .told source first, second⟩
      | failed failure later =>
        obtain ⟨a, first, second⟩ := (ih _).mp later
        exact ⟨a, .failed failure first, second⟩
    · rintro ⟨a, first, second⟩
      cases first with
      | told source later => exact .told source ((ih _).mpr ⟨a, later, second⟩)
      | failed failure later => exact .failed failure ((ih _).mpr ⟨a, later, second⟩)

/-- What is found was found in one of the storages. -/
theorem Reaches.found {origin : String} {q : Lookup} {found : q.Found}
    (reached : (find? origin q).Reaches sources (some found)) :
    ∃ storage, sources storage ∧ storage q = .ok found := by
  cases reached with
  | @told _ _ _ storage source later =>
    cases answer : storage q with
    | ok row =>
      rw [answer] at later
      cases later
      exact ⟨storage, source, answer⟩
    | error failure =>
      rw [answer] at later
      cases failure <;> cases later
  | failed failure later => cases failure <;> cases later

end Inquiry

section OneLookup

variable {sources : Storage → Prop}

theorem loadServer_reaches {serverId : Uuid} {row : Server}
    (reached : (loadServer serverId).Reaches sources row) :
    ∃ storage, sources storage ∧ (loadServer serverId).run storage = .ok row := by
  obtain ⟨found, asked, kept⟩ := Inquiry.reaches_bind_iff.mp reached
  cases found with
  | none => cases kept
  | some server =>
    cases kept
    obtain ⟨storage, source, answer⟩ := asked.found
    refine ⟨storage, source, Inquiry.run_bind_eq_ok_iff.mpr ⟨some row, ?_, rfl⟩⟩
    exact Inquiry.run_find?_eq_some_iff.mpr answer

theorem ownsServer_reaches {serverId userId : Uuid} {owns : Bool}
    (reached : (ownsServer serverId userId).Reaches sources owns) :
    ∃ storage, sources storage ∧ (ownsServer serverId userId).run storage = .ok owns := by
  obtain ⟨row, loaded, kept⟩ := Inquiry.reaches_bind_iff.mp reached
  cases kept
  obtain ⟨storage, source, loaded⟩ := loadServer_reaches loaded
  exact ⟨storage, source, Inquiry.run_bind_eq_ok_iff.mpr ⟨row, loaded, rfl⟩⟩

namespace Target

private theorem fetch?_reaches {c : ObjectClass} {id : Uuid} {target : Target}
    (reached : (fetch? c id).Reaches sources (some target)) :
    ∃ storage, sources storage ∧ (fetch? c id).run storage = .ok (some target) := by
  have mapped {q : Lookup} {wrap : q.Found → Target}
      (reached : (do return (← Inquiry.find? origin q).map wrap : Inquiry (Option Target)).Reaches
        sources (some target)) :
      ∃ storage, sources storage ∧
        (do return (← Inquiry.find? origin q).map wrap : Inquiry (Option Target)).run storage =
          .ok (some target) := by
    obtain ⟨found, asked, kept⟩ := Inquiry.reaches_bind_iff.mp reached
    obtain ⟨row, rfl, same⟩ := Option.map_eq_some_iff.mp (Inquiry.reaches_pure_iff.mp kept)
    obtain ⟨storage, source, answer⟩ := asked.found
    refine ⟨storage, source, Inquiry.run_bind_eq_ok_iff.mpr ⟨some row, ?_, ?_⟩⟩
    · exact Inquiry.run_find?_eq_some_iff.mpr answer
    · exact congrArg (Except.ok ∘ some) same
  cases c <;> exact mapped reached

theorem load_reaches {c : ObjectClass} {id : Uuid} {within : Option Uuid} {target : Target}
    (reached : (load c id within).Reaches sources target) :
    ∃ storage, sources storage ∧ (load c id within).run storage = .ok target := by
  obtain ⟨found, fetched, kept⟩ := Inquiry.reaches_bind_iff.mp reached
  cases found with
  | none => cases kept
  | some object =>
    obtain ⟨storage, source, fetched⟩ := fetch?_reaches fetched
    refine ⟨storage, source, Inquiry.run_bind_eq_ok_iff.mpr ⟨some object, fetched, ?_⟩⟩
    -- what is left asks nothing
    cases within with
    | none =>
      cases kept
      rfl
    | some s =>
      by_cases same : object.serverId = s
      · simp only [if_pos same] at kept ⊢
        cases kept
        rfl
      · simp only [if_neg same] at kept
        cases kept

end Target

/-- The target is the one that a plain run over one of the storages finds. -/
theorem loadTarget_reaches {c : ObjectClass} {id : Uuid} {scope : Option ResolvedScope}
    {found : Option Target} (reached : (loadTarget c (some id) scope).Reaches sources found) :
    ∃ storage, sources storage ∧ (loadTarget c (some id) scope).run storage = .ok found := by
  obtain ⟨target, loaded, kept⟩ := Inquiry.reaches_bind_iff.mp reached
  obtain ⟨storage, source, loaded⟩ := Target.load_reaches loaded
  refine ⟨storage, source, Inquiry.run_bind_eq_ok_iff.mpr ⟨target, loaded, ?_⟩⟩
  split at kept
  · split at kept
    · cases kept
      simp_all
    · cases kept
  · cases kept
    rfl

end OneLookup

/-- A decision can allow only if each of its stages goes through. -/
theorem reaches_authorize_iff {sources : Storage → Prop} {now : Time} {claims : Option Claims}
    {scope : Scope} {request : Request} :
    (authorize now claims scope request).Reaches sources () ↔
      ∃ caller, Claims.caller now claims = .ok caller ∧
      ∃ objectId, readObjectId request.objectId = .ok objectId ∧
      ∃ operation entry, request.entry = .ok (operation, entry) ∧
      ∃ targetId, entry.target.select objectId = .ok targetId ∧
      ∃ resolved, (entry.scope.select scope).Reaches sources resolved ∧
      ∃ found, (loadTarget request.objectClass targetId resolved).Reaches sources found ∧
        (entry.rule.allows (.ofParts caller operation resolved found)).Reaches sources true := by
  simp only [authorize, Inquiry.reaches_bind_iff, Inquiry.reaches_ofExcept_iff, Prod.exists]
  constructor
  · rintro ⟨caller, known, objectId, read, operation, entry, listed, targetId, chosen, resolved,
      selected, found, loaded, allowed, asked, kept⟩
    cases allowed with
    | false => cases kept
    | true => exact ⟨caller, known, objectId, read, operation, entry, listed, targetId, chosen,
        resolved, selected, found, loaded, asked⟩
  · rintro ⟨caller, known, objectId, read, operation, entry, listed, targetId, chosen, resolved,
      selected, found, loaded, asked⟩
    exact ⟨caller, known, objectId, read, operation, entry, listed, targetId, chosen, resolved,
      selected, found, loaded, true, asked, .decided ()⟩

end Gatehouse
