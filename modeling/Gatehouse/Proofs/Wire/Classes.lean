import Gatehouse.ObjectClass
import Gatehouse.Wire.Request
import Gatehouse.Proofs.Wire.RoundTrip

/-! # Two readers of class names

A class is named by a command word, which may stand between blanks, or by a token in a message, which
may not. The words are listed twice, once for each reader. The lists have the same words with the same
classes, and no word in them begins or ends with a blank. So a command word names a class exactly if
the word without the blanks is a token of that class.
-/

namespace Gatehouse

namespace ObjectClass

/-- A token is one of the two names of its class. -/
theorem ofToken?_eq_some_iff {token : String} {c : ObjectClass} :
    ofToken? token = some c ↔ token = c.name ∨ c.formerName? = some token := by
  constructor
  · intro known
    have named := List.find?_some known
    rw [Bool.or_eq_true, beq_iff_eq, beq_iff_eq] at named
    exact named.imp_right Eq.symm
  · rintro (rfl | former)
    · cases c <;> decide
    · cases c <;> cases former <;> decide

/-- No token begins or ends with a blank. -/
theorem trim_token {token : String} {c : ObjectClass} (known : ofToken? token = some c) :
    Text.trim token = token := by
  rcases ofToken?_eq_some_iff.mp known with rfl | former
  · cases c <;> decide
  · cases c <;> cases former <;> decide

/-- A command word is read as the token that is left without the blanks around it. -/
theorem ofWord_eq (t : String) :
    ofWord t = (ofToken? (Text.trim t)).elim (.error ⟨Text.trim t⟩) .ok := by
  unfold ofWord
  generalize Text.trim t = word
  cases known : ofToken? word with
  | some c =>
    rcases ofToken?_eq_some_iff.mp known with rfl | former
    · cases c <;> rfl
    · cases c <;> cases former <;> rfl
  | none =>
    split
    case h_12 => rfl
    all_goals exact absurd known (by decide)

open Json (Decoder Fragment)

/-- A class is read from its token, which stands alone or is the name of a member that says nothing. -/
theorem decode_eq_ok_iff {f : Fragment} {c : ObjectClass} :
    decode f = .ok c ↔ ∃ token, ofToken? token = some c ∧
      (f = .str (some token) ∨ f = .obj [(some token, .null)] true) := by
  constructor
  · intro read
    unfold decode decodeWith at read
    split at read
    · next token value =>
      split at read
      · next known nothing =>
        obtain rfl := Except.ok.inj read
        refine ⟨token, known, .inr ?_⟩
        cases value <;> first | rfl | cases nothing
      · cases read
    · obtain ⟨token, rfl, known⟩ := Decoder.parsed_eq_ok_iff.mp read
      exact ⟨token, known, .inl rfl⟩
  · rintro ⟨token, known, rfl | rfl⟩
    · exact Decoder.parsed_eq_ok_iff.mpr ⟨token, rfl, known⟩
    · simp only [decode, decodeWith, known]

end ObjectClass

namespace Wire

def objectClass : Codec ObjectClass := ⟨fun c => .str c.name, ObjectClass.decode⟩

def text : Codec String := ⟨.str, Json.Decoder.string⟩

/-- A text that spells a string is read as the class of that token. -/
theorem decode_objectClass {s token : String} (spelled : text.decode s = some token) :
    objectClass.decode s = ObjectClass.ofToken? token := by
  obtain ⟨string, blank⟩ := Json.decodeText?_eq_some_iff.mp spelled
  have value := Json.Decoder.string_eq_ok_iff.mp string
  refine Option.ext fun c => ?_
  rw [objectClass, Codec.decode, Json.decodeText?_eq_some_iff, value, ObjectClass.decode_eq_ok_iff]
  simp [blank]

private theorem decode_encode_text (t : String) : text.decode (text.encode t) = some t :=
  (Json.Decoder.reads_string t).decodeText?

/-- The readers of command words and of messages know the same words. Whatever JSON text spells what is
left of a word without the blanks around it, it is read as the class that the word is read as, or
refused as the word is. No message is read whose token has blanks around it, whether the token stands
alone or in an object. The refusal of a word tells what is left of it. -/
theorem vocabularies_agree (t : String) :
    text.decode (text.encode t) = some t ∧
    (∀ s, text.decode s = some (Text.trim t) →
      objectClass.decode s = (ObjectClass.ofWord t).toOption) ∧
    (∀ s, text.decode s = some t → Text.trim t ≠ t → objectClass.decode s = none) ∧
    (∀ f c, ObjectClass.decode f = .ok c → ∃ token, Text.trim token = token ∧
      ObjectClass.ofWord token = .ok c ∧
        (f = .str (some token) ∨ f = .obj [(some token, .null)] true)) ∧
    ∀ e, ObjectClass.ofWord t = .error e →
      e.word = Text.trim t ∧ e.message = "unknown object class: " ++ Text.trim t := by
  refine ⟨decode_encode_text t, fun s spelled => ?_, fun s spelled padded => ?_,
    fun f c read => ?_, fun e refused => ?_⟩
  · rw [decode_objectClass spelled, ObjectClass.ofWord_eq]
    cases ObjectClass.ofToken? (Text.trim t) <;> rfl
  · rw [decode_objectClass spelled, Option.eq_none_iff_forall_ne_some]
    exact fun c known => padded (ObjectClass.trim_token known)
  · obtain ⟨token, known, form⟩ := ObjectClass.decode_eq_ok_iff.mp read
    have tight := ObjectClass.trim_token known
    refine ⟨token, tight, ?_, form⟩
    rw [ObjectClass.ofWord_eq, tight, known]
    rfl
  · rw [ObjectClass.ofWord_eq] at refused
    cases known : ObjectClass.ofToken? (Text.trim t) with
    | some c =>
      rw [known] at refused
      cases refused
    | none =>
      rw [known] at refused
      obtain rfl := Except.error.inj refused
      exact ⟨rfl, rfl⟩

end Wire

end Gatehouse
