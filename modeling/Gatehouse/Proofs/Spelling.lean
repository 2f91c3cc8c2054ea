import Gatehouse.Proofs.Identifier
import Gatehouse.Proofs.Trim
import Mathlib.Data.List.Basic
import Mathlib.Data.List.Induction

/-! # Spellings of an id

An id is spelled by its 32 digits in one of four layouts, with its letters in either case, and there
may be blanks around it. Every spelling is read as the id, and no other text is.
-/

namespace Gatehouse

namespace Text

/-- Characters below a bound can be gone through. -/
theorem forall_char_lt {bound : Nat} {P : Char → Prop} (each : ∀ n < bound, P (Char.ofNat n))
    (c : Char) (small : c.toNat < bound) : P c := by
  have holds := each c.toNat small
  rwa [Char.ofNat_toNat] at holds

/-- What makes no difference between the cases of the letters from A to Z makes none at all. -/
theorem toLower_congr {α : Type} {f : Char → α}
    (letters : ∀ n < 91, f (Char.ofNat n).toLower = f (Char.ofNat n)) (c : Char) :
    f c.toLower = f c := by
  by_cases small : c.toNat < 91
  · exact forall_char_lt (P := fun c => f c.toLower = f c) letters c small
  · have kept : c.toLower = c := dif_neg fun upper => small (Nat.lt_succ_of_le upper.2)
    rw [kept]

private theorem digitValue_toLower (c : Char) : digitValue c.toLower = digitValue c :=
  toLower_congr (by decide) c

private theorem isBlank_toLower (c : Char) : isBlank c.toLower = isBlank c :=
  toLower_congr (by decide) c

/-- A digit is written in lower case. -/
theorem digitChar_digitValue {c : Char} (digit : digitValue c < 16) :
    Nat.digitChar (digitValue c) = c.toLower := by
  have small : c.toNat < 103 := by
    by_contra large
    have above {d : Char} (least : d.toNat < 103) : ¬c ≤ d := fun most =>
      large (Nat.lt_of_le_of_lt most least)
    simp [digitValue, above (d := '9') (by decide), above (d := 'f') (by decide),
      above (d := 'F') (by decide)] at digit
  exact forall_char_lt (P := fun c => digitValue c < 16 → Nat.digitChar (digitValue c) = c.toLower)
    (by decide) c small digit

/-- A digit is not blank. -/
theorem isBlank_of_digit {c : Char} (digit : digitValue c < 16) : isBlank c = false := by
  have digits : ∀ d < 16, isBlank (Nat.digitChar d) = false := by decide
  rw [← isBlank_toLower, ← digitChar_digitValue digit]
  exact digits _ digit

variable {ds : List Char}

private theorem value_map_toLower (base : Nat) (ds : List Char) :
    value base (ds.map Char.toLower) = value base ds := by
  simp only [value, List.foldl_map, digitValue_toLower]

private theorem value?_map_toLower (base : Nat) (ds : List Char) :
    value? base (ds.map Char.toLower) = value? base ds := by
  have same : isDigitIn base ∘ Char.toLower = isDigitIn base := by
    funext c
    simp only [Function.comp_apply, isDigitIn, digitValue_toLower]
  simp only [value?, value_map_toLower, List.all_map, same, ne_eq, List.map_eq_nil_iff]

private theorem all_isDigitIn_append {d : Char} (digits : (ds ++ [d]).all (isDigitIn 16) = true) :
    ds.all (isDigitIn 16) = true ∧ digitValue d < 16 := by
  simpa [isDigitIn] using digits

/-- The digits of a number that digits stand for are these digits. -/
theorem fixed_value (digits : ds.all (isDigitIn 16) = true) :
    fixed 16 ds.length (value 16 ds) = ds.map Char.toLower := by
  induction ds using List.reverseRecOn with
  | nil => rfl
  | append_singleton ds d ih =>
    obtain ⟨first, last⟩ := all_isDigitIn_append digits
    have quotient : (value 16 ds * 16 + digitValue d) / 16 = value 16 ds := by omega
    have remainder : (value 16 ds * 16 + digitValue d) % 16 = digitValue d := by omega
    rw [value_append_singleton, List.length_append, List.length_singleton, fixed, quotient,
      remainder, ih first, digitChar_digitValue last, List.map_append, List.map_singleton]

private theorem value_lt (digits : ds.all (isDigitIn 16) = true) :
    value 16 ds < Nat.pow 16 ds.length := by
  induction ds using List.reverseRecOn with
  | nil => decide
  | append_singleton ds d ih =>
    obtain ⟨first, last⟩ := all_isDigitIn_append digits
    have less := ih first
    have longer : Nat.pow 16 (ds.length + 1) = Nat.pow 16 ds.length * 16 := Nat.pow_succ 16 _
    rw [value_append_singleton, List.length_append, List.length_singleton, longer]
    omega

private theorem isBlank_of_mem_fixed {width n : Nat} {c : Char} (there : c ∈ fixed 16 width n) :
    isBlank c = false := by
  induction width generalizing n with
  | zero => cases there
  | succ width ih =>
    rcases List.mem_append.mp there with there | there
    · exact ih there
    · have digits : ∀ d < 16, isBlank (Nat.digitChar d) = false := by decide
      rw [List.mem_singleton.mp there]
      exact digits _ (Nat.mod_lt n (by decide))

/-- Nothing but blanks was put before and after the text. -/
def Padded (cs padded : List Char) : Prop :=
  ∃ before after, padded = before ++ cs ++ after ∧
    (∀ c ∈ before, isBlank c = true) ∧ ∀ c ∈ after, isBlank c = true

theorem Padded.framed {cs padded core : List Char} (padding : Padded cs padded)
    (framed : Framed cs core) : Framed padded core := by
  obtain ⟨before, after, rfl, blankBefore, blankAfter⟩ := padding
  obtain ⟨tight, before', after', rfl, blankBefore', blankAfter'⟩ := framed
  refine ⟨tight, before ++ before', after' ++ after, by simp only [List.append_assoc], ?_, ?_⟩
  · simpa [or_imp, forall_and] using ⟨blankBefore, blankBefore'⟩
  · simpa [or_imp, forall_and] using ⟨blankAfter', blankAfter⟩

/-- Blanks around a text are cut from it with its own. -/
theorem Padded.trimChars_eq {cs padded : List Char} (padding : Padded cs padded) :
    trimChars padded = trimChars cs :=
  trimChars_eq_of_framed (padding.framed (framed_trimChars cs))

theorem Padded.trim_eq {word padded : String} (padding : Padded word.toList padded.toList) :
    trim padded = trim word := by
  rw [trim, trim, padding.trimChars_eq]

theorem Padded.trimmed?_eq {word padded : String} (padding : Padded word.toList padded.toList) :
    trimmed? padded = trimmed? word := by
  rw [trimmed?, trimmed?, padding.trimChars_eq]

theorem padded_trimChars (cs : List Char) : Padded (trimChars cs) cs := (framed_trimChars cs).2

end Text

open Text (Padded Tight)

namespace Uuid

/-- The four layouts of 32 digits. -/
inductive Layout (ds : List Char) : List Char → Prop
  | bare : Layout ds ds
  | grouped : Layout ds (grouped ds)
  | braced : Layout ds ('{' :: (Uuid.grouped ds ++ ['}']))
  /-- The name of the scheme may be in either case, too. -/
  | urn {scheme : List Char} (named : scheme.map Char.toLower = "urn:uuid:".toList) :
      Layout ds (scheme ++ Uuid.grouped ds)

/-- The text spells the id. -/
def Spelled (id : Uuid) (text : List Char) : Prop :=
  ∃ ds, ds.map Char.toLower = id.digits ∧ Layout ds text

/-- The text spells the id between blanks. -/
def Written (id : Uuid) (text : String) : Prop :=
  ∃ core, id.Spelled core ∧ Padded core text.toList

private theorem length_of_digits {id : Uuid} {ds : List Char}
    (same : ds.map Char.toLower = id.digits) :
    ds.length = 32 := by
  rw [← List.length_map Char.toLower, same, digits, Text.length_fixed]

private theorem length_of_named {scheme : List Char}
    (named : scheme.map Char.toLower = "urn:uuid:".toList) : scheme.length = 9 := by
  rw [← List.length_map Char.toLower, named]
  rfl

private theorem ofDigits?_map_toLower (cs : List Char) :
    ofDigits? (cs.map Char.toLower) = ofDigits? cs := by
  simp only [ofDigits?, List.length_map, Text.value?_map_toLower]

/-- Digits are read as the id whose digits they are, in either case. -/
theorem ofDigits?_eq_some_iff {cs : List Char} {id : Uuid} :
    ofDigits? cs = some id ↔ cs.map Char.toLower = id.digits := by
  constructor
  · intro read
    unfold ofDigits? Text.value? at read
    split at read <;> rename_i full
    · split at read <;> rename_i valid
      · obtain rfl := Option.some.inj read
        have bound := Text.value_lt valid.2
        have fits := Text.fixed_value valid.2
        rw [full] at bound fits
        have kept : (BitVec.ofNat 128 (Text.value 16 cs)).toNat = Text.value 16 cs :=
          Nat.mod_eq_of_lt bound
        rw [digits, kept, fits]
      · cases read
    · cases read
  · intro same
    rw [← ofDigits?_map_toLower, same, ofDigits?_digits]

private theorem grouped_parts {a b c d e : List Char} (as : a.length = 8) (bs : b.length = 4)
    (cs : c.length = 4) (ds : d.length = 4) :
    grouped (a ++ b ++ c ++ d ++ e) =
      a ++ '-' :: (b ++ '-' :: (c ++ '-' :: (d ++ '-' :: e))) := by
  simp [grouped, as, bs, cs, ds, List.drop_append, List.drop_eq_nil_of_le]

/-- A list from some place on, cut at a later place whose entry is known. -/
theorem drop_eq_take_append {α : Type} {l : List α} {i k : Nat} {a : α}
    (there : l[i + k]? = some a) : l.drop i = (l.drop i).take k ++ a :: l.drop (i + k + 1) := by
  obtain ⟨inside, entry⟩ := List.getElem?_eq_some_iff.mp there
  have rest : (l.drop i).drop k = a :: l.drop (i + k + 1) := by
    rw [List.drop_drop, List.drop_eq_getElem_cons inside, entry]
  rw [← rest, List.take_append_drop]

/-- The grouped texts are those that the hyphens can be taken out of. -/
theorem ungrouped?_eq_some_iff {cs ds : List Char} :
    ungrouped? cs = some ds ↔ ds.length = 32 ∧ cs = grouped ds := by
  constructor
  · intro taken
    unfold ungrouped? at taken
    split at taken <;> rename_i form
    · obtain ⟨full, hyphens⟩ := form
      obtain ⟨first, second, third, fourth⟩ :
          cs[0 + 8]? = some '-' ∧ cs[9 + 4]? = some '-' ∧ cs[14 + 4]? = some '-' ∧
            cs[19 + 4]? = some '-' := by simpa using hyphens
      obtain rfl := Option.some.inj taken
      refine ⟨by simp [full], ?_⟩
      rw [grouped_parts (by simp [full]) (by simp [full]) (by simp [full]) (by simp [full])]
      rw [← drop_eq_take_append fourth, ← drop_eq_take_append third, ← drop_eq_take_append second]
      exact drop_eq_take_append first
    · cases taken
  · rintro ⟨full, rfl⟩
    exact ungrouped?_grouped full

private theorem ofGrouped?_eq_some_iff {cs : List Char} {id : Uuid} :
    ofGrouped? cs = some id ↔ ∃ ds, ds.map Char.toLower = id.digits ∧ cs = grouped ds := by
  simp only [ofGrouped?, Option.bind_eq_some_iff, ungrouped?_eq_some_iff, ofDigits?_eq_some_iff]
  constructor
  · rintro ⟨ds, ⟨-, laid⟩, same⟩
    exact ⟨ds, same, laid⟩
  · rintro ⟨ds, same, laid⟩
    exact ⟨ds, ⟨length_of_digits same, laid⟩, same⟩

private theorem unbraced?_eq_some_iff {cs inner : List Char} :
    unbraced? cs = some inner ↔ cs = '{' :: (inner ++ ['}']) := by
  constructor
  · intro taken
    unfold unbraced? at taken
    split at taken
    · next rest =>
      split at taken <;> rename_i closed
      · obtain rfl := Option.some.inj taken
        rw [List.dropLast_append_getLast? '}' closed]
      · cases taken
    · cases taken
  · rintro rfl
    simp [unbraced?]

private theorem afterUrn?_eq_some_iff {cs rest : List Char} :
    afterUrn? cs = some rest ↔
      ∃ scheme, scheme.map Char.toLower = "urn:uuid:".toList ∧ cs = scheme ++ rest := by
  constructor
  · intro taken
    unfold afterUrn? at taken
    split at taken <;> rename_i named
    · obtain rfl := Option.some.inj taken
      exact ⟨cs.take 9, named, (List.take_append_drop 9 cs).symm⟩
    · cases taken
  · rintro ⟨scheme, named, rfl⟩
    have nine := length_of_named named
    rw [afterUrn?, List.take_left' nine, List.drop_left' nine, if_pos named]

/-- The lengths tell the layouts apart, and so does what they begin with. -/
theorem ofDigits?_eq_none {cs : List Char} (other : cs.length ≠ 32) : ofDigits? cs = none :=
  if_neg other

private theorem ofGrouped?_eq_none {cs : List Char} (other : cs.length ≠ 36) :
    ofGrouped? cs = none := by
  rw [ofGrouped?, ungrouped?, if_neg fun form => other form.1, Option.bind_none]

private theorem unbraced?_urn {scheme : List Char}
    (named : scheme.map Char.toLower = "urn:uuid:".toList) (rest : List Char) :
    unbraced? (scheme ++ rest) = none := by
  rw [Option.eq_none_iff_forall_ne_some]
  intro inner braced
  cases scheme with
  | nil => cases named
  | cons c scheme =>
    obtain rfl := (List.cons.inj (unbraced?_eq_some_iff.mp braced)).1
    exact absurd (List.cons.inj named).1 (by decide)

/-- What is read as an id is what spells it. -/
theorem ofText?_eq_some_iff {s : String} {id : Uuid} :
    ofText? s = some id ↔ id.Spelled s.toList := by
  simp only [ofText?]
  generalize s.toList = cs
  constructor
  · intro read
    simp only [Option.or_eq_some_iff, Option.bind_eq_some_iff, ofDigits?_eq_some_iff,
      ofGrouped?_eq_some_iff, unbraced?_eq_some_iff, afterUrn?_eq_some_iff] at read
    rcases read with same | ⟨-, ⟨ds, same, rfl⟩ | ⟨-, ⟨_, rfl, ds, same, rfl⟩ |
      ⟨-, _, ⟨scheme, named, rfl⟩, ds, same, rfl⟩⟩⟩
    · exact ⟨cs, same, .bare⟩
    · exact ⟨ds, same, .grouped⟩
    · exact ⟨ds, same, .braced⟩
    · exact ⟨ds, same, .urn named⟩
  · rintro ⟨ds, same, layout⟩
    have size := length_grouped (length_of_digits same)
    have read := ofGrouped?_eq_some_iff.mpr ⟨ds, same, rfl⟩
    cases layout with
    | bare => rw [ofDigits?_eq_some_iff.mpr same, Option.some_or]
    | grouped => rw [ofDigits?_eq_none (by simp [size]), read, Option.none_or, Option.some_or]
    | braced =>
      have inner : unbraced? ('{' :: (grouped ds ++ ['}'])) = some (grouped ds) :=
        unbraced?_eq_some_iff.mpr rfl
      rw [ofDigits?_eq_none (by simp [size]), ofGrouped?_eq_none (by simp [size]), inner,
        Option.bind_some, read, Option.none_or, Option.none_or, Option.some_or]
    | @urn scheme named =>
      have nine := length_of_named named
      have rest : afterUrn? (scheme ++ grouped ds) = some (grouped ds) :=
        afterUrn?_eq_some_iff.mpr ⟨scheme, named, rfl⟩
      rw [ofDigits?_eq_none (by simp [size, nine]), ofGrouped?_eq_none (by simp [size, nine]),
        unbraced?_urn named, rest, Option.bind_none, Option.bind_some, read, Option.none_or,
        Option.none_or, Option.none_or]

private theorem mem_grouped {ds : List Char} {c : Char} (there : c ∈ grouped ds) :
    c = '-' ∨ c ∈ ds := by
  simp only [grouped, List.mem_append, List.mem_cons] at there
  have taken {n k : Nat} (there : c ∈ (ds.drop n).take k) : c ∈ ds :=
    List.mem_of_mem_drop (List.mem_of_mem_take there)
  rcases there with there | rfl | there | rfl | there | rfl | there | rfl | there
  · exact .inr (List.mem_of_mem_take there)
  · exact .inl rfl
  · exact .inr (taken there)
  · exact .inl rfl
  · exact .inr (taken there)
  · exact .inl rfl
  · exact .inr (taken there)
  · exact .inl rfl
  · exact .inr (List.mem_of_mem_drop there)

/-- A spelling has no blanks. -/
theorem Spelled.inked {id : Uuid} {text : List Char} (spelled : id.Spelled text) {c : Char}
    (there : c ∈ text) : Text.isBlank c = false := by
  obtain ⟨ds, same, layout⟩ := spelled
  have digits {c : Char} (there : c ∈ ds) : Text.isBlank c = false := by
    rw [← Text.isBlank_toLower]
    exact Text.isBlank_of_mem_fixed (same ▸ List.mem_map_of_mem there)
  have groups {c : Char} (there : c ∈ grouped ds) : Text.isBlank c = false := by
    rcases mem_grouped there with rfl | there
    · rfl
    · exact digits there
  cases layout with
  | bare => exact digits there
  | grouped => exact groups there
  | braced =>
    rw [List.mem_cons, List.mem_append, List.mem_singleton] at there
    rcases there with rfl | there | rfl
    · rfl
    · exact groups there
    · rfl
  | urn named =>
    rcases List.mem_append.mp there with there | there
    · have letters : "urn:uuid:".toList.all (fun d => Text.isBlank d = false) = true := by decide
      rw [← Text.isBlank_toLower]
      exact of_decide_eq_true
        (List.all_eq_true.mp letters _ (named ▸ List.mem_map_of_mem there))
    · exact groups there

theorem Spelled.tight {id : Uuid} {text : List Char} (spelled : id.Spelled text) : Tight text where
  head _ first := spelled.inked (List.mem_of_head? first)
  last _ last := spelled.inked (List.mem_of_getLast? last)

/-- What is read as an id between blanks is what spells it between blanks. -/
theorem ofPadded?_eq_some_iff {s : String} {id : Uuid} :
    ofPadded? s = some id ↔ id.Written s := by
  rw [ofPadded?, ofText?_eq_some_iff, Text.toList_trim]
  constructor
  · intro spelled
    exact ⟨_, spelled, Text.padded_trimChars s.toList⟩
  · rintro ⟨core, spelled, padding⟩
    rwa [padding.trimChars_eq, spelled.tight.trimChars]

end Uuid

end Gatehouse
