import Gatehouse.Proofs.Numerals
import Gatehouse.Proofs.Spelling
import Gatehouse.Proofs.TimeText

/-! # Times read back from the wire

Every time of the calendar is read back from its text by the free reader, whatever its year. The free
reader passes over blanks in front of each part, of which there are none, and takes a year with a sign
as far as its digits go.
-/

namespace Gatehouse

namespace Text

/-- Leading zeros add nothing. -/
theorem value_replicate_append (base zeros : Nat) (ds : List Char) :
    value base (List.replicate zeros '0' ++ ds) = value base ds := by
  induction zeros with
  | zero => rfl
  | succ zeros ih =>
    rw [List.replicate_succ, List.cons_append]
    simpa [value, digitValue] using ih

private theorem isBlank_of_decimal {c : Char} (digit : isDigitIn 10 c = true) : isBlank c = false :=
  isBlank_of_digit (Nat.lt_trans (of_decide_eq_true digit) (by decide))

end Text

namespace Time

open Text (digitRun? fixed isBlank isDigitIn)

private theorem exists_fixed_cons {width : Nat} (some_width : width ≠ 0) (n : Nat) :
    ∃ d ds, fixed 10 width n = d :: ds ∧ isDigitIn 10 d = true := by
  refine Text.exists_digit_cons (fun none_left => some_width ?_)
    (Text.all_isDigitIn_fixed (by decide) (by decide) width n)
  rw [← Text.length_fixed 10 width n, none_left, List.length_nil]

private theorem freeYear?_digit {d : Char} (digit : isDigitIn 10 d = true) (rest : List Char) :
    freeYear? (d :: rest) = (digitRun? 1 4 (d :: rest)).map fun (n, rest) => ((n : Int), rest) := by
  unfold freeYear?
  split
  · next form => exact absurd ((List.cons.inj form).1 ▸ digit) (by decide)
  · next form => exact absurd ((List.cons.inj form).1 ▸ digit) (by decide)
  · rfl

/-- Digits after a sign are read to their end. -/
theorem digitRun?_signed (zeros n : Nat) (rest : List Char) :
    let cs := List.replicate zeros '0' ++ Text.numeral 10 n ++ '-' :: rest
    digitRun? 1 cs.length cs = some (n, '-' :: rest) := by
  intro cs
  have digits : (List.replicate zeros '0' ++ Text.numeral 10 n).all (isDigitIn 10) = true := by
    rw [List.all_append, Text.all_isDigitIn_numeral (by decide) (by decide), Bool.and_true,
      List.all_eq_true]
    intro c there
    rw [List.eq_of_mem_replicate there]
    rfl
  have value : Text.value 10 (List.replicate zeros '0' ++ Text.numeral 10 n) = n := by
    rw [Text.value_replicate_append, Text.value_numeral (by decide) (by decide)]
  have some_digit := List.length_pos_iff.mpr (Text.numeral_ne_nil 10 n)
  have run : digitRun? 1 cs.length cs = some (Text.value 10 _, '-' :: rest) :=
    Text.digitRun?_append digits (by simp; omega) (by simp [cs]) (.inr (by simp; rfl))
  rw [run, value]

/-- A year is read back, with or without a sign. -/
theorem freeYear?_yearText (year : Int) (rest : List Char) :
    freeYear? (yearText year ++ '-' :: rest) = some (year, '-' :: rest) := by
  unfold yearText
  split
  · next plain =>
    obtain ⟨d, ds, form, digit⟩ := exists_fixed_cons (by decide : 4 ≠ 0) year.toNat
    have four : year.toNat < Nat.pow 10 4 := by
      simp only [Nat.pow_eq, Nat.reducePow]
      omega
    have natural : (year.toNat : Int) = year := by omega
    have run := Text.digitRun?_fixed (by decide : 1 ≤ 4) four ('-' :: rest)
    rw [form, List.cons_append] at run ⊢
    simp only [freeYear?_digit digit, run, Option.map_some, natural]
  · next signed =>
    have run := digitRun?_signed (4 - (Text.numeral 10 year.natAbs).length) year.natAbs rest
    by_cases negative : year < 0
    · have sign : -(year.natAbs : Int) = year := by omega
      simp only [negative, if_true, List.cons_append, freeYear?, run, Option.map_some, sign]
    · have sign : (year.natAbs : Int) = year := by omega
      simp only [negative, if_false, List.cons_append, freeYear?, run, Option.map_some, sign]

private theorem dropWhile_digit {d : Char} (digit : isDigitIn 10 d = true) (rest : List Char) :
    (d :: rest).dropWhile isBlank = d :: rest :=
  List.dropWhile_cons_of_neg (by simp [Text.isBlank_of_decimal digit])

private theorem dropWhile_yearText (year : Int) (rest : List Char) :
    (yearText year ++ rest).dropWhile isBlank = yearText year ++ rest := by
  unfold yearText
  split
  · obtain ⟨d, ds, form, digit⟩ := exists_fixed_cons (by decide : 4 ≠ 0) year.toNat
    rw [form]
    exact dropWhile_digit digit _
  · refine List.dropWhile_cons_of_neg ?_
    split <;> decide

private theorem freeNumber?_fixed {n : Nat} (fits : n ≤ 99) (rest : List Char) :
    freeNumber? (fixed 10 2 n ++ rest) = some (n, rest) := by
  obtain ⟨d, ds, form, digit⟩ := exists_fixed_cons (by decide : 2 ≠ 0) n
  have run := Text.digitRun?_fixed (by decide : 1 ≤ 2) (Nat.lt_succ_of_le fits) rest
  rw [form, List.cons_append] at run ⊢
  rw [freeNumber?, dropWhile_digit digit, run]

private theorem freeMark?_cons {mark : Char} (inked : isBlank mark = false) (rest : List Char) :
    freeMark? mark (mark :: rest) = some rest := by
  rw [freeMark?, List.dropWhile_cons_of_neg (by simp [inked]), Text.after?, if_pos rfl]

/-- The form on the wire of some fields is read as these fields, whether they mean a time or not. -/
theorem ofFree?_yearText {year : Int} {month day hour minute second nanos : Nat}
    (monthFits : month ≤ 99) (dayFits : day ≤ 99) (hourFits : hour ≤ 99)
    (minuteFits : minute ≤ 99) (secondFits : second ≤ 99) (nanosFit : nanos < 1000000000) :
    ofFree? (String.ofList (yearText year ++ '-' :: (fixed 10 2 month ++ '-' ::
      (fixed 10 2 day ++ 'T' :: (fixed 10 2 hour ++ ':' :: (fixed 10 2 minute ++ ':' ::
        (fixed 10 2 second ++ (fractionText nanos ++ "Z".toList)))))))) =
      ofFields? ⟨⟨year, month, day⟩, hour, minute, second, nanos, 0⟩ := by
  have fraction : optionalFraction? (fractionText nanos ++ "Z".toList) =
      some (nanos, "Z".toList) := optionalFraction?_fractionText nanosFit (by decide) (by decide) []
  have offset : freeOffset? ("Z".toList.dropWhile isBlank) = some (0, []) := by decide
  have separator (rest : List Char) : afterSeparator? ('T' :: rest) = some rest := by
    rw [afterSeparator?, if_pos (Or.inl rfl)]
  have hyphen : isBlank '-' = false := by decide
  have colon : isBlank ':' = false := by decide
  simp only [ofFree?, String.toList_ofList, dropWhile_yearText, freeYear?_yearText,
    freeMark?_cons hyphen, freeMark?_cons colon, freeNumber?_fixed monthFits,
    freeNumber?_fixed dayFits, freeNumber?_fixed hourFits, freeNumber?_fixed minuteFits,
    freeNumber?_fixed secondFits, separator, Option.bind_eq_bind, Option.bind_some, fraction, offset,
    List.any_nil, Bool.false_eq_true, if_false]

/-- What crosses the wire of a time is read as that time. -/
theorem ofFree?_wireText (t : Time) : ofFree? t.wireText = some t := by
  obtain ⟨month, day, hour, minute, second, nanos⟩ := t.parts_fit
  rw [← ofFields?_parts t]
  simp only [wireText, textWith, List.append_assoc, List.cons_append]
  exact ofFree?_yearText month day hour minute second nanos

end Time

end Gatehouse
