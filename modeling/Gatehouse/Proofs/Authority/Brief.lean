import Gatehouse.Proofs.Authority.Decision
import Gatehouse.Proofs.Service.Fields

/-! # What is known before anything is looked up

A decision first makes up its brief: who asks, what operation is meant, which entry of the tables is
for it, and which object is addressed. This is read off the claims and the words of the request, and
nothing is looked up for it. With a brief there are three stages left, the scope, the target and the
rule.
-/

namespace Gatehouse

open Text (Says Silent)

theorem Inquiry.decided_bind {α β : Type} (a : α) (f : α → Inquiry β) :
    (decided a >>= f) = f a := rfl

/-- The request addresses this object, or none: a silent field and the nil id address none. -/
def Request.Addresses (request : Request) : Option Uuid → Prop
  | none => Silent request.objectId ∨
      ∃ word, Says request.objectId word ∧ Uuid.ofText? word = some .nil
  | some id => id ≠ .nil ∧ ∃ word, Says request.objectId word ∧ Uuid.ofText? word = some id

/-- The object id says something that is no id. -/
def Request.Misaddressed (request : Request) : Prop :=
  ∃ word, Says request.objectId word ∧ Uuid.ofText? word = none

section Addresses

variable {request : Request}

private theorem readObjectId_of_said {word : String} (said : Says request.objectId word) :
    readObjectId request.objectId =
      match Uuid.ofText? word with
      | some id => .ok (if id = .nil then none else some id)
      | none => .error (.invalidUuid "resolve.object_id") := by
  rw [readObjectId, Text.says_iff.mp said]
  simp only [readId, said.ofPadded?_eq]
  cases Uuid.ofText? word <;> rfl

theorem Request.Misaddressed.readObjectId_eq (misaddressed : request.Misaddressed) :
    readObjectId request.objectId = .error (.invalidUuid "resolve.object_id") := by
  obtain ⟨word, said, unread⟩ := misaddressed
  rw [readObjectId_of_said said, unread]

theorem Request.Addresses.readObjectId_eq {objectId : Option Uuid}
    (addresses : request.Addresses objectId) : readObjectId request.objectId = .ok objectId := by
  cases objectId with
  | none =>
    rcases addresses with silent | ⟨word, said, read⟩
    · rw [readObjectId, Text.silent_iff.mp silent]
    · rw [readObjectId_of_said said, read]
      rfl
  | some id =>
    obtain ⟨real, word, said, read⟩ := addresses
    rw [readObjectId_of_said said, read]
    exact congrArg Except.ok (if_neg real)

/-- A request addresses an object or none, unless its object id is wrong. -/
theorem Request.misaddressed_or_addresses (request : Request) :
    request.Misaddressed ∨ ∃ objectId, request.Addresses objectId := by
  cases field : request.objectId.bind Text.trimmed? with
  | none => exact .inr ⟨none, .inl (Text.silent_iff.mpr field)⟩
  | some word =>
    have said := Text.says_iff.mpr field
    cases read : Uuid.ofText? word with
    | none => exact .inl ⟨word, said, read⟩
    | some id =>
      by_cases void : id = .nil
      · exact .inr ⟨none, .inr ⟨word, said, void ▸ read⟩⟩
      · exact .inr ⟨some id, void, word, said, read⟩

/-- An object id is read as what it addresses. -/
theorem Request.addresses_iff {objectId : Option Uuid} :
    request.Addresses objectId ↔ readObjectId request.objectId = .ok objectId := by
  refine ⟨Addresses.readObjectId_eq, fun read => ?_⟩
  rcases request.misaddressed_or_addresses with wrong | ⟨objectId', addresses⟩
  · cases read.symm.trans wrong.readObjectId_eq
  · obtain rfl := Except.ok.inj (read.symm.trans addresses.readObjectId_eq)
    exact addresses

end Addresses

/-- What a decision knows before it looks anything up. -/
structure Brief where
  caller : Uuid
  operation : Operation
  entry : PolicyEntry
  objectId : Option Uuid
deriving DecidableEq, Repr

namespace Brief

/-- The claims and the request come to this brief. -/
structure Of (now : Time) (claims : Option Claims) (request : Request) (b : Brief) : Prop where
  identified : ∃ c ∈ claims, c.Identify now b.caller
  words : Operation.ofWords? request.action request.subAction = some b.operation
  listed : b.entry ∈ Policy.entry? request.objectClass b.operation
  addressed : request.Addresses b.objectId

/-- The object that has to be loaded. -/
def targetId (b : Brief) : Option Uuid :=
  match b.entry.target with
  | .ignored => none
  | .optional | .required => b.objectId

/-- The scope and the target are found as the entry wants them, and its rule is to be judged on
these facts. -/
def ComesTo (storage : Storage) (scope : Scope) (c : ObjectClass) (b : Brief) (facts : Facts) :
    Prop :=
  ∃ resolved, b.entry.scope.Chooses storage scope resolved ∧
    ∃ found, b.entry.target.Finds storage c b.objectId resolved found ∧
      facts = .ofParts b.caller b.operation resolved found

end Brief

/-- Approve if the answer is yes. -/
def conclude (answer : Inquiry Bool) : Inquiry Unit := do
  if ← answer then return () else .refused (.denied "policy.rule")

/-- The stages that are left with a brief. -/
def Brief.judge (scope : Scope) (c : ObjectClass) (b : Brief) : Inquiry Unit := do
  let resolved ← b.entry.scope.select scope
  let found ← loadTarget c b.targetId resolved
  conclude (b.entry.rule.allows (.ofParts b.caller b.operation resolved found))

namespace Brief

variable {now : Time} {claims : Option Claims} {request : Request} {b b' : Brief}

theorem Of.unique (made : b.Of now claims request) (made' : b'.Of now claims request) : b = b' := by
  obtain ⟨caller, operation, entry, objectId⟩ := b
  obtain ⟨caller', operation', entry', objectId'⟩ := b'
  obtain ⟨⟨c, there, identify⟩, words, listed, addressed⟩ := made
  obtain ⟨⟨c', there', identify'⟩, words', listed', addressed'⟩ := made'
  obtain rfl := Option.some.inj (there.symm.trans there')
  obtain rfl : caller = caller' :=
    Option.some.inj (identify.readable.symm.trans identify'.readable)
  obtain rfl : operation = operation' := Option.some.inj (words.symm.trans words')
  obtain rfl : entry = entry' := Option.some.inj (listed.symm.trans listed')
  obtain rfl : objectId = objectId' := Except.ok.inj
    ((Request.addresses_iff.mp addressed).symm.trans (Request.addresses_iff.mp addressed'))
  rfl

theorem select_eq (sent : b.entry.target = .required → b.objectId ≠ none) :
    b.entry.target.select b.objectId = .ok b.targetId := by
  unfold targetId TargetUse.select
  cases use : b.entry.target with
  | ignored | optional => rfl
  | required =>
    cases object : b.objectId with
    | none => exact (sent use object).elim
    | some id => rfl

/-- A decision that has its brief goes on by it. -/
theorem Of.authorize_eq (made : b.Of now claims request)
    (sent : b.entry.target = .required → b.objectId ≠ none) (scope : Scope) :
    authorize now claims scope request = b.judge scope request.objectClass := by
  obtain ⟨⟨c, there, identify⟩, words, listed, addressed⟩ := made
  obtain rfl := there
  simp only [authorize, Claims.caller_eq_ok_iff.mpr identify, Request.addresses_iff.mp addressed,
    Request.entry, words, Option.mem_def.mp listed, Inquiry.ofExcept, Inquiry.decided_bind,
    select_eq sent]
  rfl

/-- A decision goes on by a brief, unless it is refused at once. -/
theorem refused_or_made (now : Time) (claims : Option Claims) (scope : Scope) (request : Request) :
    (∃ r, authorize now claims scope request = .refused r) ∨
      ∃ b : Brief, b.Of now claims request ∧ (b.entry.target = .required → b.objectId ≠ none) := by
  cases known : Claims.caller now claims with
  | error r =>
    refine .inl ⟨r, ?_⟩
    simp only [authorize, known]
    rfl
  | ok caller =>
    cases read : readObjectId request.objectId with
    | error r =>
      refine .inl ⟨r, ?_⟩
      simp only [authorize, known, read]
      rfl
    | ok objectId =>
      cases governed : request.entry with
      | error r =>
        refine .inl ⟨r, ?_⟩
        simp only [authorize, known, read, governed]
        rfl
      | ok governing =>
        obtain ⟨operation, entry⟩ := governing
        by_cases missing : entry.target = .required ∧ objectId = none
        · refine .inl ⟨.denied "dispatch.missing_target", ?_⟩
          simp only [authorize, known, read, governed, Inquiry.ofExcept, Inquiry.decided_bind,
            missing.1, missing.2, TargetUse.select]
          rfl
        · obtain ⟨words, listed⟩ := Request.entry_eq_ok governed
          cases claims with
          | none => cases known
          | some c =>
            have identify := Claims.caller_eq_ok_iff.mp known
            exact .inr ⟨⟨caller, operation, entry, objectId⟩,
              ⟨⟨c, rfl, identify⟩, words, listed, Request.addresses_iff.mpr read⟩,
              fun required none_sent => missing ⟨required, none_sent⟩⟩

end Brief

end Gatehouse
