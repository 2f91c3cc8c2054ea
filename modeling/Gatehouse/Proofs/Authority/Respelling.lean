import Gatehouse.Proofs.Authority.Brief
import Gatehouse.Proofs.Authority.Verdict
import Gatehouse.Proofs.Spelling
import Mathlib.Logic.Relation

/-! # Respelled requests

A caller can write the same request in many ways: words and ids may stand between blanks, some pairs
of words mean one operation, an id has several spellings, and a field that is left out may be blank
as well. Each of these is read in a place of its own. Whatever is respelled, and however often, the
decision asks the same lookups and ends the same.
-/

namespace Gatehouse

open Relation (EqvGen)
open Text (Padded)

namespace Operation

/-- The words for a creation. -/
def creations : List (String × Option String) :=
  [("create", none), ("create", some "create"), ("write", some "create")]

/-- Other words for the same: an action and perhaps a sub-action, and what may stand for them. -/
inductive Reworded : String → Option String → String → Option String → Prop
  | action {word padded : String} {sub : Option String}
      (padding : Padded word.toList padded.toList) : Reworded word sub padded sub
  | subAction {action word padded : String} (padding : Padded word.toList padded.toList) :
      Reworded action (some word) action (some padded)
  | blank {action blank : String} (nothing : ∀ c ∈ blank.toList, Text.isBlank c = true) :
      Reworded action none action (some blank)
  | creation {action action' : String} {sub sub' : Option String}
      (creates : (action, sub) ∈ creations) (creates' : (action', sub') ∈ creations) :
      Reworded action sub action' sub'
  | deletion (known : SubAction) : Reworded "delete" none "delete" (some known.name)
  | oldName {action : String} :
      Reworded action (some "list-server-user-permissions")
        action (some "list-appserver-user-permissions")

private theorem ofWords?_of_creates {action : String} {sub : Option String}
    (creates : (action, sub) ∈ creations) : ofWords? action sub = some .create := by
  simp only [creations, List.mem_cons, Prod.mk.injEq, List.not_mem_nil, or_false] at creates
  rcases creates with ⟨rfl, rfl⟩ | ⟨rfl, rfl⟩ | ⟨rfl, rfl⟩ <;> decide

private theorem ofWords?_delete (known : SubAction) :
    ofWords? "delete" (some known.name) = some .delete := by
  cases known <;> decide

/-- Other words for the same are read as the same operation, if they are read at all. -/
theorem Reworded.ofWords?_eq {action action' : String} {sub sub' : Option String}
    (reworded : Reworded action sub action' sub') :
    ofWords? action sub = ofWords? action' sub' := by
  cases reworded with
  | action padding => simp only [ofWords?, Action.ofWord?, padding.trim_eq]
  | subAction padding => simp only [ofWords?, Option.bind_some, padding.trimmed?_eq]
  | blank nothing =>
    simp only [ofWords?, Option.bind_none, Option.bind_some, Text.trimmed?_eq_none_iff.mpr nothing]
  | creation creates creates' => rw [ofWords?_of_creates creates, ofWords?_of_creates creates']
  | deletion known =>
    rw [ofWords?_delete known]
    decide
  | oldName =>
    have name : Text.trimmed? "list-server-user-permissions" =
        some "list-server-user-permissions" := by decide
    have oldName : Text.trimmed? "list-appserver-user-permissions" =
        some "list-appserver-user-permissions" := by decide
    have same : SubAction.ofWord? "list-server-user-permissions" =
        SubAction.ofWord? "list-appserver-user-permissions" := by decide
    simp only [ofWords?, Option.bind_some, name, oldName, same]

end Operation

namespace Uuid

/-- Two ways to write an optional id: two spellings of it, or a blank text and none at all. -/
inductive Rewritten : Option String → Option String → Prop
  | id {id : Uuid} {text text' : String} (written : id.Written text) (written' : id.Written text') :
      Rewritten (some text) (some text')
  | blank {blank : String} (nothing : ∀ c ∈ blank.toList, Text.isBlank c = true) :
      Rewritten none (some blank)

theorem Spelled.ne_nil {id : Uuid} {text : List Char} (spelled : id.Spelled text) : text ≠ [] := by
  rintro rfl
  have read : ofText? "" = some id := ofText?_eq_some_iff.mpr spelled
  have unread : ofText? "" = none := by decide
  cases unread.symm.trans read

private theorem Written.readId_eq {id : Uuid} {text : String} (written : id.Written text)
    (origin : String) : readId origin text = .ok id := by
  rw [readId, ofPadded?_eq_some_iff.mpr written]

/-- What is written between blanks is a word that is the id. -/
theorem Written.trimmed {id : Uuid} {text : String} (written : id.Written text) :
    ∃ word, Text.trimmed? text = some word ∧ id.Written word := by
  obtain ⟨core, spelled, padding⟩ := written
  have there : String.ofList core ≠ "" := fun empty =>
    spelled.ne_nil (by simpa using congrArg String.toList empty)
  refine ⟨String.ofList core, Text.trimmed?_eq_some_iff.mpr ⟨there, ?_⟩, core, spelled, ?_⟩
  · rw [String.toList_ofList]
    exact ⟨spelled.tight, padding⟩
  · rw [String.toList_ofList]
    exact spelled.tight.framed.2

/-- What an optional id is read as: nothing if it is blank, and otherwise an id or a refusal. -/
def readField (origin : String) (field : Option String) : Option (Except Refusal Uuid) :=
  (field.bind Text.trimmed?).map (readId origin)

private theorem Written.readField_eq {id : Uuid} {text : String} (written : id.Written text)
    (origin : String) : readField origin (some text) = some (.ok id) := by
  obtain ⟨word, said, read⟩ := written.trimmed
  rw [readField, Option.bind_some, said, Option.map_some, read.readId_eq]

private theorem Rewritten.readField_eq {field field' : Option String}
    (rewritten : Rewritten field field')
    (origin : String) : readField origin field = readField origin field' := by
  cases rewritten with
  | id written written' => rw [written.readField_eq, written'.readField_eq]
  | blank nothing =>
    rw [readField, readField, Option.bind_none, Option.bind_some,
      Text.trimmed?_eq_none_iff.mpr nothing]

end Uuid

/-- For the addressed object the nil id is one more way to write none. -/
inductive Request.ObjectRewritten : Option String → Option String → Prop
  | field {field field' : Option String} (rewritten : Uuid.Rewritten field field') :
      ObjectRewritten field field'
  | nil {text : String} (written : Uuid.nil.Written text) : ObjectRewritten none (some text)

theorem readObjectId_eq (field : Option String) :
    readObjectId field =
      match Uuid.readField "resolve.object_id" field with
      | none => .ok none
      | some read => read.map fun id => if id = .nil then none else some id := by
  rw [readObjectId, Uuid.readField]
  cases field.bind Text.trimmed? with
  | none => rfl
  | some word =>
    simp only [Option.map_some]
    cases readId "resolve.object_id" word <;> rfl

theorem Request.ObjectRewritten.readObjectId_eq {field field' : Option String}
    (rewritten : ObjectRewritten field field') : readObjectId field = readObjectId field' := by
  rw [Gatehouse.readObjectId_eq, Gatehouse.readObjectId_eq]
  cases rewritten with
  | field rewritten => rw [rewritten.readField_eq]
  | nil written =>
    rw [written.readField_eq]
    rfl

theorem Scope.ofParts_eq (server channel : Option String) :
    ofParts server channel =
      match Uuid.readField "scope.server_id" server, Uuid.readField "scope.channel_id" channel with
      | none, none => .ok .unscoped
      | some read, none => read.map .server
      | none, some read => read.map .channel
      | some _, some _ =>
        .error (.invalidArgument "scope.conflict" "conflicting scope") := by
  rw [ofParts, Uuid.readField, Uuid.readField]
  cases server.bind Text.trimmed? <;> cases channel.bind Text.trimmed? <;> rfl

/-- One change in the writing of claims and a request: in the words, in the id of the caller or in
that of the object. -/
inductive Respelling : Option Claims × Request → Option Claims × Request → Prop
  | words {claims : Option Claims} {request : Request} {action : String} {sub : Option String}
      (reworded : Operation.Reworded request.action request.subAction action sub) :
      Respelling (claims, request) (claims, { request with action, subAction := sub })
  | caller {claims : Claims} {request : Request} {id : Uuid} {text : String}
      (written : id.Written claims.userId) (written' : id.Written text) :
      Respelling (some claims, request) (some { claims with userId := text }, request)
  | object {claims : Option Claims} {request : Request} {field : Option String}
      (rewritten : Request.ObjectRewritten request.objectId field) :
      Respelling (claims, request) (claims, { request with objectId := field })

/-- After one change the same is inquired. -/
theorem Respelling.authorize_eq (now : Time) (scope : Scope)
    {asked asked' : Option Claims × Request} (respelling : Respelling asked asked') :
    authorize now asked.1 scope asked.2 = authorize now asked'.1 scope asked'.2 := by
  cases respelling with
  | words reworded => simp only [authorize, Request.entry, reworded.ofWords?_eq]
  | caller written written' =>
    simp only [authorize, Claims.caller, written.readId_eq, written'.readId_eq]
  | object rewritten => simp only [authorize, Request.entry, rewritten.readObjectId_eq]

/-- What one change keeps, any number of changes there and back keeps. -/
theorem eq_of_eqvGen {α β : Type} {change : α → α → Prop} {f : α → β}
    (kept : ∀ a b, change a b → f a = f b) {a b : α} (changes : EqvGen change a b) : f a = f b := by
  induction changes with
  | rel a b changed => exact kept a b changed
  | refl a => rfl
  | symm a b changes ih => exact ih.symm
  | trans a b c changes changes' ih ih' => exact ih.trans ih'

/-- However a request is respelled, its decision asks the same lookups and ends the same, whatever
the storage answers and when. A scope whose ids are respelled is the same scope, or it is wrong in
the same way. -/
theorem respelling_changes_nothing {claims claims' : Option Claims} {request request' : Request}
    (respelled : EqvGen Respelling (claims, request) (claims', request'))
    {server server' channel channel' : Option String}
    (rewrittenServer : EqvGen Uuid.Rewritten server server')
    (rewrittenChannel : EqvGen Uuid.Rewritten channel channel') :
    (∀ (c : Conditions) (now : Time) (scope : Scope) (p : Progress),
      c.run (authorize now claims scope request) p =
        c.run (authorize now claims' scope request') p) ∧
    Scope.ofParts server channel = Scope.ofParts server' channel' := by
  constructor
  · intro c now scope p
    have same : authorize now claims scope request = authorize now claims' scope request' :=
      eq_of_eqvGen (f := fun asked => authorize now asked.1 scope asked.2)
        (fun _ _ respelling => respelling.authorize_eq now scope) respelled
    rw [same]
  · have sameServer : Uuid.readField "scope.server_id" server = Uuid.readField _ server' :=
      eq_of_eqvGen (fun _ _ rewritten => rewritten.readField_eq _) rewrittenServer
    have sameChannel : Uuid.readField "scope.channel_id" channel = Uuid.readField _ channel' :=
      eq_of_eqvGen (fun _ _ rewritten => rewritten.readField_eq _) rewrittenChannel
    rw [Scope.ofParts_eq, Scope.ofParts_eq, sameServer, sameChannel]

namespace Sample

/-- To delete the role, said in a roundabout way. -/
def roundaboutDeletion : Request :=
  ⟨.role, some "\t\x7b00000000-0000-0000-0000-000000000008\x7d", " delete\n",
    some "list-appserver-user-permissions\u3000"⟩

/-- The claims of user 2, who gives the id with its scheme. -/
def roundaboutClaims : Claims :=
  { claimsOf ⟨2⟩ with userId := "URN:UUID:00000000-0000-0000-0000-000000000002 " }

private theorem roundabout_respelled :
    EqvGen Respelling (some (claimsOf ⟨2⟩), deletion)
      (some roundaboutClaims, roundaboutDeletion) := by
  have spaced : Padded "delete".toList " delete\n".toList :=
    ⟨[' '], ['\n'], by decide, List.forall_mem_singleton.mpr rfl, List.forall_mem_singleton.mpr rfl⟩
  have trailing : Padded "list-appserver-user-permissions".toList
      "list-appserver-user-permissions\u3000".toList :=
    ⟨[], ['\u3000'], by decide, List.forall_mem_nil _, List.forall_mem_singleton.mpr rfl⟩
  have known : Operation.Reworded "delete" none "delete" (some "list-server-user-permissions") :=
    .deletion .listServerUserPermissions
  have caller : Uuid.Written ⟨2⟩ (claimsOf ⟨2⟩).userId :=
    Uuid.ofPadded?_eq_some_iff.mp (by decide +kernel)
  have caller' : Uuid.Written ⟨2⟩ roundaboutClaims.userId :=
    Uuid.ofPadded?_eq_some_iff.mp (by decide +kernel)
  have object : Uuid.Written ⟨8⟩ "00000000-0000-0000-0000-000000000008" :=
    Uuid.ofPadded?_eq_some_iff.mp (by decide +kernel)
  have object' : Uuid.Written ⟨8⟩ "\t\x7b00000000-0000-0000-0000-000000000008\x7d" :=
    Uuid.ofPadded?_eq_some_iff.mp (by decide +kernel)
  refine .trans _ _ _ (.rel _ _ (.words known)) ?_
  refine .trans _ _ _ (.rel _ _ (.words .oldName)) ?_
  refine .trans _ _ _ (.rel _ _ (.words (.subAction trailing))) ?_
  refine .trans _ _ _ (.rel _ _ (.words (.action spaced))) ?_
  refine .trans _ _ _ (.rel _ _ (.caller caller caller')) ?_
  exact .rel _ _ (.object (.field (.id object object')))

end Sample

/-- The holder of the role may delete it in a roundabout way just the same, and a server named with
its scheme is the server. -/
theorem roundaboutDeletion_decides :
    verdict Sample.house.storage none .epoch (some Sample.roundaboutClaims) .unscoped
        Sample.roundaboutDeletion = .decided () ∧
      Scope.ofParts (some " urn:uuid:00000000-0000-0000-0000-000000000007") (some "\t") =
        .ok (.server ⟨7⟩) := by
  have server : Uuid.Written ⟨7⟩ "00000000000000000000000000000007" :=
    Uuid.ofPadded?_eq_some_iff.mp (by decide +kernel)
  have server' : Uuid.Written ⟨7⟩ " urn:uuid:00000000-0000-0000-0000-000000000007" :=
    Uuid.ofPadded?_eq_some_iff.mp (by decide +kernel)
  have nothing : ∀ c ∈ "\t".toList, Text.isBlank c = true :=
    List.all_eq_true.mp (by decide)
  obtain ⟨runs, scopes⟩ := respelling_changes_nothing Sample.roundabout_respelled
    (.rel _ _ (.id server server')) (.rel _ _ (.blank nothing))
  have allowed : verdict Sample.house.storage none .epoch (some (Sample.claimsOf ⟨2⟩)) .unscoped
      Sample.deletion = .decided () := by decide +kernel
  have named : Scope.ofParts (some "00000000000000000000000000000007") none =
      .ok (.server ⟨7⟩) := by decide +kernel
  constructor
  · rw [← allowed]
    exact congrArg Prod.fst (runs ..).symm
  · rw [← scopes, named]

end Gatehouse
