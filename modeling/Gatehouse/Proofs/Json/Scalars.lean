import Gatehouse.Json.Fragment
import Gatehouse.Json.Value
import Gatehouse.Proofs.Numerals

/-! # Strings and numbers in JSON

A string is read back from between its quotes, character by character: each escape stands for the one
character that is escaped. An integer is read back, in front of anything that is no part of a number, if
it has 64 bits with a sign or without one; other integers are read as floats.
-/

namespace Gatehouse.Json

namespace Fragment

/-- The unit of a character in front of a string that is read. -/
def charBefore (c : Char) (body : List Piece × List Char) : List Piece × List Char :=
  (.char c :: body.1, body.2)

private theorem stringBody?_plain {c : Char} (noQuote : c ≠ '"') (noBackslash : c ≠ '\\')
    (visible : 32 ≤ c.toNat) (rest : List Char) :
    stringBody? (c :: rest) = (stringBody? rest).map (charBefore c) := by
  rw [stringBody?.eq_def]
  split
  · simp_all
  · simp_all
  · simp_all
  · simp_all
  · next d more _ _ _ same =>
    obtain ⟨rfl, rfl⟩ := List.cons.inj same
    rw [if_neg (by simp [noBackslash, visible])]
    cases stringBody? rest <;> rfl

private theorem stringBody?_simple {e c : Char} (simple : simpleEscape? e = some c)
    (rest : List Char) :
    stringBody? ('\\' :: e :: rest) = (stringBody? rest).map (charBefore c) := by
  rw [stringBody?.eq_def]
  split
  · simp_all
  · simp_all
  · next same =>
    obtain ⟨-, same⟩ := List.cons.inj same
    obtain ⟨rfl, -⟩ := List.cons.inj same
    cases simple
  · next d more _ same =>
    obtain ⟨-, same⟩ := List.cons.inj same
    obtain ⟨rfl, rfl⟩ := List.cons.inj same
    rw [simple]
    cases stringBody? rest <;> rfl
  · next other same =>
    obtain ⟨rfl, rfl⟩ := List.cons.inj same
    exact absurd rfl (other e rest rfl)

private theorem stringBody?_unit {c : Char} (small : c.toNat < 32) (rest : List Char) :
    stringBody? ('\\' :: 'u' :: (Text.fixed 16 4 c.toNat ++ rest)) =
      (stringBody? rest).map (charBefore c) := by
  have read : Text.value? 16 (Text.fixed 16 4 c.toNat) = some (c.toNat % Nat.pow 16 4) :=
    Text.value?_fixed (by decide) (by decide) (by decide) c.toNat
  have fits : c.toNat % Nat.pow 16 4 = c.toNat := Nat.mod_eq_of_lt (Nat.lt_trans small (by decide))
  have unit : Piece.ofUnit c.toNat = .char c := by
    rw [Piece.ofUnit, if_neg (by omega), if_neg (by omega), Char.ofNat_toNat]
  rw [fits] at read
  -- The width is a literal, so the four digits can be named.
  obtain ⟨p, q, r, s, digits⟩ : ∃ p q r s, Text.fixed 16 4 c.toNat = [p, q, r, s] :=
    ⟨_, _, _, _, rfl⟩
  rw [digits] at read ⊢
  simp only [List.cons_append, List.nil_append, stringBody?, read, Option.bind_eq_bind,
    Option.bind_some, unit]
  cases stringBody? rest <;> rfl

/-- A character is read back from how it stands in a string. -/
theorem stringBody?_escaped (c : Char) (rest : List Char) :
    stringBody? (escaped c ++ rest) = (stringBody? rest).map (charBefore c) := by
  have simple {e : Char} (simple : simpleEscape? e = some c) :
      stringBody? (['\\', e] ++ rest) = (stringBody? rest).map (charBefore c) :=
    stringBody?_simple simple rest
  unfold escaped
  split
  · next quote => exact simple (by rw [quote]; rfl)
  split
  · next backslash => exact simple (by rw [backslash]; rfl)
  split
  · next newline => exact simple (by rw [newline]; rfl)
  split
  · next feed => exact simple (by rw [feed]; rfl)
  split
  · next tab => exact simple (by rw [tab]; rfl)
  split
  · next eight => exact simple (by rw [← Char.ofNat_toNat c, eight]; rfl)
  split
  · next twelve => exact simple (by rw [← Char.ofNat_toNat c, twelve]; rfl)
  split
  · next small => exact stringBody?_unit small rest
  · next noQuote noBackslash _ _ _ _ _ visible =>
    exact stringBody?_plain noQuote noBackslash (Nat.not_lt.mp visible) rest

/-- What stands between quotes is read back, up to the closing one. -/
theorem stringBody?_quoted (cs rest : List Char) :
    stringBody? (cs.flatMap escaped ++ '"' :: rest) = some (cs.map .char, rest) := by
  induction cs with
  | nil => rfl
  | cons c cs ih =>
    rw [List.flatMap_cons, List.append_assoc, stringBody?_escaped, ih]
    rfl

private theorem join?_chars (cs : List Char) : join? (cs.map .char) = some cs := by
  induction cs with
  | nil => rfl
  | cons c cs ih => rw [List.map_cons, join?, ih, Option.map_some]

theorem string?_quoted (s : String) (rest : List Char) :
    string? (s.toList.flatMap escaped ++ '"' :: rest) = some (some s, rest) := by
  simp only [string?, stringBody?_quoted, Option.map_some, join?_chars, String.ofList_toList]

/-- No number goes on with this text. -/
def Stops (rest : List Char) : Prop :=
  ∀ c ∈ rest.head?, Text.isDigitIn 10 c = false ∧ c ≠ '.' ∧ c ≠ 'e' ∧ c ≠ 'E'

variable {rest : List Char}

theorem Stops.digitSpan (stops : Stops rest) {ds : List Char}
    (digits : ds.all (Text.isDigitIn 10) = true) : digitSpan (ds ++ rest) = (ds, rest) := by
  have each := List.all_eq_true.mp digits
  have front : rest.takeWhile (Text.isDigitIn 10) = [] ∧
      rest.dropWhile (Text.isDigitIn 10) = rest := by
    cases rest with
    | nil => exact ⟨rfl, rfl⟩
    | cons c more => simp [(stops c rfl).1]
  rw [Fragment.digitSpan, List.takeWhile_append_of_pos each, List.dropWhile_append_of_pos each,
    front.1, front.2, List.append_nil]

theorem Stops.fractionPart? (stops : Stops rest) : fractionPart? rest = some (none, rest) := by
  cases rest with
  | nil => rfl
  | cons c more =>
    rw [Fragment.fractionPart?.eq_def]
    split
    · next same => exact absurd (List.cons.inj same).1 (stops c rfl).2.1
    · rfl

theorem Stops.exponentPart? (stops : Stops rest) : exponentPart? rest = some (none, rest) := by
  cases rest with
  | nil => rfl
  | cons c more =>
    obtain ⟨-, -, small, large⟩ := stops c rfl
    simp only [Fragment.exponentPart?, small, large, or_self, if_false]

private theorem le_foldl_digits (ds : List Char) (n : Nat) :
    n ≤ ds.foldl (fun n c => n * 10 + Text.digitValue c) n := by
  induction ds generalizing n with
  | nil => exact Nat.le_refl n
  | cons d ds ih => exact Nat.le_trans (by omega) (ih (n * 10 + Text.digitValue d))

/-- There is room for further digits if there is room for the number that they make. -/
theorem append_room (ds : List Char) {n : Nat}
    (fits : ds.foldl (fun n c => n * 10 + Text.digitValue c) n < UInt64.size) :
    Decimal.append room n ds = (ds.foldl (fun n c => n * 10 + Text.digitValue c) n, 0) := by
  induction ds generalizing n with
  | nil => rfl
  | cons d ds ih =>
    have here : room n (Text.digitValue d) = true :=
      decide_eq_true (Nat.lt_of_le_of_lt (le_foldl_digits ds _) fits)
    rw [Decimal.append, if_pos here, ih fits, List.foldl_cons]

private theorem wholePart?_numeral (stops : Stops rest) (n : Nat) :
    wholePart? (Text.numeral 10 n ++ rest) = some (Text.numeral 10 n, rest) := by
  have digits : (Text.numeral 10 n).all (Text.isDigitIn 10) = true :=
    Text.all_isDigitIn_numeral (by decide) (by decide) n
  rw [wholePart?, stops.digitSpan digits]
  split
  · next nothing => exact absurd (Prod.mk.inj nothing).1 (Text.numeral_ne_nil 10 n)
  · next zero =>
    obtain ⟨-, alone⟩ := Text.eq_zero_of_numeral (by decide) (by decide) (Prod.mk.inj zero).1
    cases alone
  · rfl

private theorem ne_of_digit {c d : Char} (digit : Text.isDigitIn 10 c = true)
    (other : Text.isDigitIn 10 d = false) : c ≠ d := by
  rintro rfl
  rw [digit] at other
  cases other

/-- A numeral starts with a digit. -/
theorem exists_numeral (n : Nat) :
    ∃ d ds, Text.numeral 10 n = d :: ds ∧ Text.isDigitIn 10 d = true :=
  Text.exists_digit_cons (Text.numeral_ne_nil 10 n)
    (Text.all_isDigitIn_numeral (by decide) (by decide) n)

private theorem append_numeral {n : Nat} (fits : n < UInt64.size) :
    Decimal.append room 0 (Text.numeral 10 n) = (n, 0) := by
  have value : Text.value 10 (Text.numeral 10 n) = n :=
    Text.value_numeral (by decide) (by decide) n
  have taken := append_room (Text.numeral 10 n) (n := 0)
  rw [← Text.value, value] at taken
  exact taken fits

private theorem number?_natural (stops : Stops rest) {n : Nat} (fits : n < UInt64.size) :
    number? (Text.numeral 10 n ++ rest) = some (.int n, rest) := by
  have taken := append_numeral fits
  have whole := wholePart?_numeral stops n
  obtain ⟨d, ds, form, digit⟩ := exists_numeral n
  have unsigned : d ≠ '-' := ne_of_digit digit (by decide)
  rw [form] at taken whole ⊢
  rw [List.cons_append] at whole ⊢
  simp [number?, unsigned, whole, stops.fractionPart?, stops.exponentPart?, taken]

private theorem number?_negative (stops : Stops rest) {n : Nat} (positive : 0 < n)
    (fits : n ≤ UInt64.size / 2) :
    number? ('-' :: (Text.numeral 10 n ++ rest)) = some (.int (-n), rest) := by
  have taken := append_numeral (n := n) (Nat.lt_of_le_of_lt fits (by decide))
  have whole := wholePart?_numeral stops n
  have inside : ¬ (n = 0 ∨ UInt64.size / 2 < n) := by omega
  simp [number?, whole, stops.fractionPart?, stops.exponentPart?, taken, inside]

/-- The integers that are kept: those of 64 bits, with a sign or without one. -/
def Kept (n : Int) : Prop := -(UInt64.size / 2 : Nat) ≤ n ∧ n < UInt64.size

theorem number?_signedDecimal (stops : Stops rest) {n : Int} (kept : Kept n) :
    number? ((Text.signedDecimal n).toList ++ rest) = some (.int n, rest) := by
  cases n with
  | ofNat n =>
    rw [Text.signedDecimal, Text.decimal, String.toList_ofList]
    exact number?_natural stops (Int.ofNat_lt.mp kept.2)
  | negSucc n =>
    have fits : n + 1 ≤ UInt64.size / 2 := by
      have low : -((UInt64.size / 2 : Nat) : Int) ≤ -((n + 1 : Nat) : Int) := kept.1
      omega
    have negative := number?_negative stops (Nat.succ_pos n) fits
    rwa [Text.signedDecimal, Text.decimal, String.toList_append, String.toList_ofList,
      String.toList_ofList]

/-- A number starts with a digit or with a minus sign. -/
theorem exists_signedDecimal (n : Int) : ∃ c cs, (Text.signedDecimal n).toList = c :: cs ∧
    ∀ d, d ≠ '-' → Text.isDigitIn 10 d = false → c ≠ d := by
  cases n with
  | ofNat n =>
    obtain ⟨c, cs, form, digit⟩ := exists_numeral n
    refine ⟨c, cs, ?_, fun d _ other => ne_of_digit digit other⟩
    rw [Text.signedDecimal, Text.decimal, String.toList_ofList, form]
  | negSucc n =>
    refine ⟨'-', (Text.decimal (n + 1)).toList, ?_, fun d other _ => other.symm⟩
    rw [Text.signedDecimal, String.toList_append]
    rfl

end Fragment

end Gatehouse.Json
