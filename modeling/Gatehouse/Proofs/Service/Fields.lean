import Gatehouse.Proofs.Trim
import Gatehouse.Service.Endpoint

/-! # What a call says

A field of a call says a word if it has that word between blanks, and it is silent if it is not
there or has nothing but blanks. What a call is asked for, and under which id, depends on the words
of its fields only.
-/

namespace Gatehouse

namespace Text

/-- The field has this word, with nothing but blanks around it. -/
def Says (field : Option String) (word : String) : Prop :=
  word ≠ "" ∧ ∃ text ∈ field, Framed text.toList word.toList

/-- The field is not there, or has nothing but blanks. -/
def Silent (field : Option String) : Prop := ∀ text ∈ field, ∀ c ∈ text.toList, isBlank c = true

theorem trimmed?_eq_none_iff {text : String} :
    trimmed? text = none ↔ ∀ c ∈ text.toList, isBlank c = true := by
  rw [← trimChars_eq_nil_iff, trimmed?]
  split
  · next blank => simp [blank]
  · next there => simpa using there

theorem trimmed?_eq_some_iff {text word : String} :
    trimmed? text = some word ↔ word ≠ "" ∧ Framed text.toList word.toList := by
  rw [← trimChars_eq_iff, trimmed?]
  split
  · next blank =>
    rw [blank]
    constructor
    · nofun
    · rintro ⟨there, none_left⟩
      exact (there (String.toList_eq_nil_iff.mp none_left.symm)).elim
  · next there =>
    rw [Option.some.injEq]
    constructor
    · rintro rfl
      rw [String.toList_ofList]
      exact ⟨fun empty => there (by simpa using congrArg String.toList empty), rfl⟩
    · rintro ⟨-, same⟩
      rw [same, String.ofList_toList]

theorem silent_iff {field : Option String} : Silent field ↔ field.bind trimmed? = none := by
  simp only [Silent, Option.bind_eq_none_iff, trimmed?_eq_none_iff, Option.mem_def]

theorem says_iff {field : Option String} {word : String} :
    Says field word ↔ field.bind trimmed? = some word := by
  simp only [Says, Option.bind_eq_some_iff, trimmed?_eq_some_iff, Option.mem_def]
  constructor
  · rintro ⟨there, text, given, framed⟩
    exact ⟨text, given, there, framed⟩
  · rintro ⟨text, given, there, framed⟩
    exact ⟨there, text, given, framed⟩

/-- A word is read as an id as it stands. -/
theorem Says.ofPadded?_eq {field : Option String} {word : String} (said : Says field word) :
    Uuid.ofPadded? word = Uuid.ofText? word := by
  obtain ⟨-, text, -, tight, -⟩ := said
  rw [Uuid.ofPadded?, trim, tight.trimChars, String.ofList_toList]

end Text

open Text (Says Silent)

/-- What two fields ask for: at most one of them may say something, and what it says is an id. -/
inductive Scope.Asked (serverId channelId : Option String) : Except Refusal Scope → Prop
  | unscoped (noServer : Silent serverId) (noChannel : Silent channelId) :
      Asked serverId channelId (.ok .unscoped)
  | server {word : String} {id : Uuid} (said : Says serverId word) (noChannel : Silent channelId)
      (read : Uuid.ofText? word = some id) : Asked serverId channelId (.ok (.server id))
  | channel {word : String} {id : Uuid} (noServer : Silent serverId) (said : Says channelId word)
      (read : Uuid.ofText? word = some id) : Asked serverId channelId (.ok (.channel id))
  | conflict {word word' : String} (said : Says serverId word) (said' : Says channelId word') :
      Asked serverId channelId (.error (.invalidArgument "scope.conflict" "conflicting scope"))
  | noServerId {word : String} (said : Says serverId word) (noChannel : Silent channelId)
      (unread : Uuid.ofText? word = none) :
      Asked serverId channelId (.error (.invalidUuid "scope.server_id"))
  | noChannelId {word : String} (noServer : Silent serverId) (said : Says channelId word)
      (unread : Uuid.ofText? word = none) :
      Asked serverId channelId (.error (.invalidUuid "scope.channel_id"))

theorem Scope.asked_iff {serverId channelId : Option String} {result : Except Refusal Scope} :
    Asked serverId channelId result ↔ ofParts serverId channelId = result := by
  constructor
  · intro asked
    unfold ofParts
    cases asked with
    | unscoped noServer noChannel =>
      rw [Text.silent_iff.mp noServer, Text.silent_iff.mp noChannel]
    | server said noChannel read | noServerId said noChannel read =>
      rw [Text.says_iff.mp said, Text.silent_iff.mp noChannel]
      simp only [readId, said.ofPadded?_eq, read]
      rfl
    | channel noServer said read | noChannelId noServer said read =>
      rw [Text.silent_iff.mp noServer, Text.says_iff.mp said]
      simp only [readId, said.ofPadded?_eq, read]
      rfl
    | conflict said said' => rw [Text.says_iff.mp said, Text.says_iff.mp said']
  · rintro rfl
    unfold ofParts
    cases server : serverId.bind Text.trimmed? with
    | none =>
      have noServer := Text.silent_iff.mpr server
      cases channel : channelId.bind Text.trimmed? with
      | none => exact .unscoped noServer (Text.silent_iff.mpr channel)
      | some word =>
        have said := Text.says_iff.mpr channel
        simp only [readId, said.ofPadded?_eq]
        cases read : Uuid.ofText? word with
        | none => exact .noChannelId noServer said read
        | some id => exact .channel noServer said read
    | some word =>
      have said := Text.says_iff.mpr server
      cases channel : channelId.bind Text.trimmed? with
      | none =>
        have noChannel := Text.silent_iff.mpr channel
        simp only [readId, said.ofPadded?_eq]
        cases read : Uuid.ofText? word with
        | none => exact .noServerId said noChannel read
        | some id => exact .server said noChannel read
      | some word' => exact .conflict said (Text.says_iff.mpr channel)

/-- The scope that a submission asks for, or what is wrong with it. -/
def Submission.Asks (submission : Submission) (result : Except Refusal Scope) : Prop :=
  Scope.Asked (submission.scope.bind (·.serverId)) (submission.scope.bind (·.channelId)) result

namespace Service

/-- The id of a call is what its header says, and if that is silent the fresh one. -/
def Call.Identified (call : Call) (fresh : Uuid) (id : String) : Prop :=
  Says (call.header? "x-request-id") id ∨
    Silent (call.header? "x-request-id") ∧ id = fresh.text

theorem Call.identified_iff {call : Call} {fresh : Uuid} {id : String} :
    call.Identified fresh id ↔
      id = (RequestId.choose (call.header? "x-request-id") fresh).text := by
  rw [Identified, Text.says_iff, Text.silent_iff, RequestId.choose]
  cases (call.header? "x-request-id").bind Text.trimmed? with
  | none => simp [RequestId.text]
  | some word => simp [RequestId.text, eq_comm]

end Service

end Gatehouse
