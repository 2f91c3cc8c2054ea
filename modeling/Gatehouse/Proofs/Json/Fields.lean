import Gatehouse.Json.Shape
import Gatehouse.Proofs.Json.Reading
import Mathlib.Data.List.Forall2

/-! # Written records are read by their shapes

A shape is put together from its fields, and so is the proof that it reads a record: each field reads the
value under its name, and what the fields have read makes the record. An object with these members in the
order of the fields is then read as the record, as long as no two fields have one name. If it is not read
so, some field refuses its value.
-/

namespace Gatehouse.Json

/-- Strings are read from string values only. -/
theorem Decoder.string_eq_ok_iff {f : Fragment} {s : String} :
    Decoder.string f = .ok s ↔ f = .str (some s) := by
  constructor
  · intro read
    unfold Decoder.string at read
    split at read
    · rw [Except.ok.inj read]
    · cases read
  · rintro rfl
    rfl

theorem Decoder.parsed_eq_ok_iff {α : Type} {read : String → Option α} {f : Fragment} {a : α} :
    Decoder.parsed read f = .ok a ↔ ∃ s, f = .str (some s) ∧ read s = some a := by
  constructor
  · intro known
    cases value : Decoder.string f with
    | error fault => simp [Decoder.parsed, value, bind, Except.bind] at known
    | ok s =>
      refine ⟨s, Decoder.string_eq_ok_iff.mp value, ?_⟩
      cases accepted : read s <;>
        simp [Decoder.parsed, value, accepted, bind, Except.bind, pure, Except.pure, throw, throwThe,
          MonadExceptOf.throw] at known
      rw [known]
  · rintro ⟨s, rfl, accepted⟩
    simp [Decoder.parsed, Decoder.string, accepted, bind, Except.bind, pure, Except.pure]

/-- A text is read if the value at its front is and nothing but blanks follows it. -/
theorem decodeText?_eq_some_iff {α : Type} {decode : Decoder α} {s : String} {a : α} :
    decodeText? decode s = some a ↔
      decode (Fragment.ofText s).1 = .ok a ∧ Fragment.skipBlanks (Fragment.ofText s).2 = [] := by
  cases value : decode (Fragment.ofText s).1 <;> simp [decodeText?, value, and_comm]

/-- The decoder reads what is written of a value as `a`. -/
structure Decoder.Reads {α : Type} (decode : Decoder α) (j : Json) (a : α) : Prop where
  exact : j.Exact
  read : decode j.fragment = .ok a

/-- To read a text that was written is to read its fragment. -/
theorem decodeText?_text {α : Type} (decode : Decoder α) {j : Json} (exact : j.Exact) :
    decodeText? decode j.text = (decode j.fragment).toOption := by
  simp only [decodeText?, ofText_text j exact]
  cases decode j.fragment <;> rfl

theorem Decoder.Reads.decodeText? {α : Type} {decode : Decoder α} {j : Json} {a : α}
    (reads : decode.Reads j a) : decodeText? decode j.text = some a := by
  rw [decodeText?_text decode reads.exact, reads.read]
  rfl

namespace Shape

variable {α β : Type} {fields : List Field} {other : Fragment → Except Fault Unit}
  {members : List (String × Json)}

/-- A member, as it is found in a text. -/
def entry (member : String × Json) : String × Fragment := (member.1, member.2.fragment)

/-- The field has the name of the member and nothing to say against its value. -/
def Accepts (field : Field) (member : String × Json) : Prop :=
  field.name = member.1 ∧ field.check member.2.fragment = .ok ()

private theorem names_eq (accepted : List.Forall₂ Accepts fields members) :
    fields.map (·.name) = members.map (·.1) := by
  induction accepted with
  | nil => rfl
  | cons accepts _ ih => rw [List.map_cons, List.map_cons, accepts.1, ih]

/-- Where the names of the members differ, a member is checked by the field in its place. -/
theorem find?_of_accepted (accepted : List.Forall₂ Accepts fields members)
    (distinct : (members.map (·.1)).Nodup) {member : String × Json} (there : member ∈ members) :
    ∃ field, fields.find? (·.name == member.1) = some field ∧ Accepts field member := by
  induction accepted with
  | nil => cases there
  | @cons field first fields rest first_accepts accepted ih =>
    obtain ⟨fresh, distinct⟩ := List.nodup_cons.mp distinct
    obtain rfl | there := List.mem_cons.mp there
    · exact ⟨field, by simp [first_accepts.1], first_accepts⟩
    · obtain ⟨later, found, accepts⟩ := ih distinct there
      have apart : field.name ≠ member.1 := by
        rw [first_accepts.1]
        exact fun same => fresh (List.mem_map.mpr ⟨member, there, same.symm⟩)
      exact ⟨later, by rw [List.find?_cons_of_neg (by simpa using apart), found], accepts⟩

private theorem lookup_eq_none {found : List (String × Fragment)} {key : String}
    (fresh : key ∉ found.map (·.1)) : found.lookup key = none := by
  rw [List.lookup_eq_none_iff]
  intro entry listed
  simpa using fun same : key = entry.1 => fresh (same ▸ List.mem_map_of_mem listed)

private theorem lookup_entry (distinct : (members.map (·.1)).Nodup) {member : String × Json}
    (there : member ∈ members) :
    (members.map entry).lookup member.1 = some member.2.fragment := by
  induction members with
  | nil => cases there
  | cons first rest ih =>
    obtain ⟨fresh, distinct⟩ := List.nodup_cons.mp distinct
    rw [List.map_cons, List.lookup_cons]
    obtain rfl | there := List.mem_cons.mp there
    · simp [entry]
    · have apart : (member.1 == first.1) = false :=
        beq_false_of_ne fun same => fresh (List.mem_map.mpr ⟨member, there, same⟩)
      simp only [entry, apart, ← ih distinct there]

/-- Members that are known, new and accepted are all found. -/
theorem walkMembers_accepted
    (accepted : ∀ member ∈ members,
      ∃ field, fields.find? (·.name == member.1) = some field ∧ Accepts field member)
    (seen : List (String × Fragment)) (distinct : (seen.map (·.1) ++ members.map (·.1)).Nodup) :
    walkMembers fields other seen (memberFragments members) = .ok (seen ++ members.map entry) := by
  induction members generalizing seen with
  | nil => rw [memberFragments, walkMembers, List.map_nil, List.append_nil]
  | cons member rest ih =>
    obtain ⟨⟨field, known, -, passed⟩, accepted⟩ := List.forall_mem_cons.mp accepted
    have fresh : member.1 ∉ seen.map (·.1) := fun there =>
      (List.nodup_append.mp distinct).2.2 _ there _ List.mem_cons_self rfl
    have later := ih accepted (seen ++ [entry member]) (by simpa [entry] using distinct)
    simp only [memberFragments, walkMembers, known, lookup_eq_none fresh, Option.isSome_none,
      Bool.false_eq_true, if_false, passed]
    rw [List.append_assoc] at later
    exact later

/-- Members that were walked over have passed the checks of their fields. -/
theorem check_of_walkMembers {members : List (Option String × Fragment)}
    {seen found : List (String × Fragment)}
    (walked : walkMembers fields other seen members = .ok found) {key : String} {f : Fragment}
    (there : (some key, f) ∈ members) {field : Field}
    (known : fields.find? (·.name == key) = some field) : field.check f = .ok () := by
  induction members generalizing seen with
  | nil => cases there
  | cons member rest ih =>
    obtain ⟨name, g⟩ := member
    cases name with
    | none => cases walked
    | some name =>
      rw [walkMembers] at walked
      split at walked
      · next first firstKnown =>
        split at walked
        · cases walked
        · cases checked : first.check g with
          | error fault => simp [checked, bind, Except.bind] at walked
          | ok =>
            rw [checked] at walked
            obtain same | there := List.mem_cons.mp there
            · cases same
              rwa [Option.some.inj (known.symm.trans firstKnown)]
            · exact ih walked there
      · next unknown =>
        obtain same | there := List.mem_cons.mp there
        · cases same
          rw [known] at unknown
          cases unknown
        · cases skipped : other g with
          | error fault => simp [skipped, bind, Except.bind] at walked
          | ok =>
            rw [skipped] at walked
            exact ih walked there

/-- The shape reads these members, in the order of its fields, as the record. -/
structure Reads (s : Shape α) (members : List (String × Json)) (a : α) : Prop where
  exact : ExactMembers members
  accepted : List.Forall₂ Accepts s.fields members
  built : ∀ found : String → Option Fragment,
    (∀ member ∈ members, found member.1 = some member.2.fragment) → s.build found = .ok a

theorem reads_required (name : String) {decode : Decoder α} {j : Json} {a : α}
    (reads : decode.Reads j a) : (required name decode).Reads [(name, j)] a where
  exact := ⟨reads.exact, trivial⟩
  accepted := by
    refine .cons ⟨rfl, ?_⟩ .nil
    simp [reads.read, Except.map]
  built found there := by
    have here : found name = some j.fragment := there (name, j) List.mem_cons_self
    simp only [required, here, reads.read]

theorem Reads.map {s : Shape α} {a : α} (reads : s.Reads members a) (g : α → β) :
    (g <$> s).Reads members (g a) where
  exact := reads.exact
  accepted := reads.accepted
  built found there := by
    have built := reads.built found there
    simp [Functor.map, built, Except.map]

private theorem exactMembers_append {members members' : List (String × Json)}
    (exact : ExactMembers members) (exact' : ExactMembers members') :
    ExactMembers (members ++ members') := by
  induction members with
  | nil => exact exact'
  | cons member rest ih => exact ⟨exact.1, ih exact.2⟩

theorem Reads.seq {s : Shape (α → β)} {t : Shape α} {g : α → β} {a : α}
    {members' : List (String × Json)} (reads : s.Reads members g) (reads' : t.Reads members' a) :
    (s <*> t).Reads (members ++ members') (g a) where
  exact := exactMembers_append reads.exact reads'.exact
  accepted := List.rel_append reads.accepted reads'.accepted
  built found there := by
    have built := reads.built found fun member listed => there member (List.mem_append_left _ listed)
    have built' :=
      reads'.built found fun member listed => there member (List.mem_append_right _ listed)
    simp only [Seq.seq, built, built']
    rfl

/-- A record is read from the object of its members. -/
theorem Reads.decode {s : Shape α} {a : α} (reads : s.Reads members a)
    (distinct : (s.fields.map (·.name)).Nodup) : s.decode.Reads (.obj members) a where
  exact := reads.exact
  read := by
    rw [names_eq reads.accepted] at distinct
    have walked : walkMembers s.fields Decoder.skim [] (memberFragments members) =
        .ok (members.map entry) :=
      walkMembers_accepted (fun member => find?_of_accepted reads.accepted distinct) [] distinct
    simp only [fragment, Shape.decode, ofObject, walked]
    exact reads.built _ fun member => lookup_entry distinct

private theorem mem_memberFragments {member : String × Json} (there : member ∈ members) :
    (some member.1, member.2.fragment) ∈ memberFragments members := by
  induction members with
  | nil => cases there
  | cons first rest ih =>
    obtain rfl | there := List.mem_cons.mp there
    · exact List.mem_cons_self
    · exact List.mem_cons_of_mem _ (ih there)

/-- Each required field of a record that was read from an object was read from its member. -/
theorem read_of_decode {s : Shape α} {a : α} (read : s.decode (Json.obj members).fragment = .ok a)
    {name : String} {j : Json} (there : (name, j) ∈ members) {decode : Decoder β}
    (known : s.fields.find? (·.name == name) = some ⟨name, fun f => (decode f).map fun _ => ()⟩) :
    ∃ b, decode j.fragment = .ok b := by
  rw [fragment, Shape.decode, ofObject] at read
  · cases walked : walkMembers s.fields Decoder.skim [] (memberFragments members) with
    | error fault => simp [walked, bind, Except.bind] at read
    | ok found =>
      have passed := check_of_walkMembers walked (mem_memberFragments there) known
      cases value : decode j.fragment with
      | ok b => exact ⟨b, rfl⟩
      | error fault => simp [value, Except.map] at passed
  · exact fun _ _ array => nomatch array

end Shape

end Gatehouse.Json
