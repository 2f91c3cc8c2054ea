import Gatehouse.Proofs.Calendar
import Gatehouse.Proofs.Identifier
import Gatehouse.Time.Text

/-! # Times read back

A time in the years 0 to 9999 is read back from the text that the store keeps of it, to the last
nanosecond, and so is a leap second. Each part of the text is read off its front: digits of a fixed
width, a mark, and for the fraction as many digits as there are.
-/

namespace Gatehouse

namespace Text

/-- Digits are read as far as they go, if they are enough and the reader stops behind them. -/
theorem digitRun?_append {least most : Nat} {digits rest : List Char}
    (digital : digits.all (isDigitIn 10) = true) (enough : least ≤ digits.length)
    (fits : digits.length ≤ most)
    (stops : digits.length = most ∨ ∀ c ∈ rest.head?, isDigitIn 10 c = false) :
    digitRun? least most (digits ++ rest) = some (value 10 digits, rest) := by
  have run : ((digits ++ rest).take most).takeWhile (isDigitIn 10) = digits := by
    rw [List.take_append, List.take_of_length_le fits,
      List.takeWhile_append_of_pos (List.all_eq_true.mp digital)]
    have none_more : (rest.take (most - digits.length)).takeWhile (isDigitIn 10) = [] := by
      rcases stops with full | stops
      · rw [full, Nat.sub_self, List.take_zero, List.takeWhile_nil]
      · cases rest with
        | nil => simp
        | cons c more =>
          cases most - digits.length with
          | zero => rfl
          | succ n => simp [stops c rfl]
    rw [none_more, List.append_nil]
  simp only [digitRun?, run, if_neg (Nat.not_lt.mpr enough), List.drop_left]

/-- A number is read back from digits of a width that it fits into and that the reader stops at. -/
theorem digitRun?_fixed {least width n : Nat} (enough : least ≤ width) (fits : n < Nat.pow 10 width)
    (rest : List Char) : digitRun? least width (fixed 10 width n ++ rest) = some (n, rest) := by
  have length := length_fixed 10 width n
  rw [digitRun?_append (all_isDigitIn_fixed (by decide) (by decide) width n)
    (length.symm ▸ enough) (Nat.le_of_eq length) (.inl length),
    value_fixed (by decide) (by decide), Nat.mod_eq_of_lt fits]

end Text

namespace Time

open Text (fixed)

/-- A fraction is read back, in front of something that is no digit. -/
theorem fraction?_fixed {width n : Nat} (some_width : 1 ≤ width) (most : width ≤ 9)
    (fits : n < Nat.pow 10 width) {c : Char} (mark : Text.isDigitIn 10 c = false)
    (rest : List Char) :
    fraction? (fixed 10 width n ++ c :: rest) = some (n * Nat.pow 10 (9 - width), c :: rest) := by
  have length := Text.length_fixed 10 width n
  have digits : Text.digitRun? 1 9 (fixed 10 width n ++ c :: rest) =
      some (Text.value 10 (fixed 10 width n), c :: rest) :=
    Text.digitRun?_append (Text.all_isDigitIn_fixed (by decide) (by decide) width n) (by omega)
      (by omega) (.inr (by simpa using mark))
  rw [Text.value_fixed (by decide) (by decide), Nat.mod_eq_of_lt fits] at digits
  simp only [fraction?, digits, Option.bind_some, bind, List.length_append, length,
    Nat.add_sub_cancel, List.dropWhile_cons, mark, Bool.false_eq_true, ↓reduceIte]

/-- However many digits a fraction is written with, it is read back, in front of something that is
neither a digit nor a point. -/
theorem optionalFraction?_fractionText {nanos : Nat} (fits : nanos < 1000000000) {c : Char}
    (mark : Text.isDigitIn 10 c = false) (noPoint : c ≠ '.') (rest : List Char) :
    optionalFraction? (fractionText nanos ++ c :: rest) = some (nanos, c :: rest) := by
  have read {width n : Nat} (some_width : 1 ≤ width) (most : width ≤ 9)
      (small : n < Nat.pow 10 width) (exact : n * Nat.pow 10 (9 - width) = nanos) :
      optionalFraction? ('.' :: fixed 10 width n ++ c :: rest) = some (nanos, c :: rest) := by
    rw [← exact]
    exact fraction?_fixed some_width most small mark _
  unfold fractionText
  split
  · next zero =>
    subst zero
    rw [List.nil_append, optionalFraction?]
    exact fun _ point => noPoint (List.cons.inj point).1
  · split
    · refine read (by decide) (by decide) ?_ ?_ <;> simp only [Nat.pow_eq, Nat.reducePow] <;> omega
    · split
      · refine read (by decide) (by decide) ?_ ?_ <;> simp only [Nat.pow_eq, Nat.reducePow] <;> omega
      · refine read (by decide) (by decide) ?_ ?_ <;> simp only [Nat.pow_eq, Nat.reducePow] <;> omega

/-- The year that a time falls into. -/
def year (t : Time) : Int := (Date.ofDay (t.seconds / 86400 + epochDay)).year

/-- The years of the exact form. -/
def Readable (t : Time) : Prop := 0 ≤ t.year ∧ t.year ≤ 9999

instance (t : Time) : Decidable t.Readable := inferInstanceAs (Decidable (_ ∧ _))

/-- The parts of a time mean that time; the second of a leap second is 60. -/
theorem ofFields?_parts (t : Time) :
    ofFields?
      { date := Date.ofDay (t.seconds / 86400 + epochDay)
        hour := (t.seconds % 86400).toNat / 3600
        minute := (t.seconds % 86400).toNat / 60 % 60
        second := (t.seconds % 86400).toNat % 60 + if t.inLeap then 1 else 0
        nanos := t.nanos - (if t.inLeap then 1 else 0) * 1000000000
        offset := 0 } = some t := by
  obtain ⟨valid, day⟩ := Date.ofDay_spec (t.seconds / 86400 + epochDay)
  obtain ⟨first, last, most, minuteEnd⟩ := t.within
  have inLeap : t.inLeap = true ↔ 1000000000 ≤ t.nanos := decide_eq_true_iff
  have ofDay : ((t.seconds % 86400).toNat : Int) = t.seconds % 86400 := by omega
  generalize (t.seconds % 86400).toNat = s at ofDay ⊢
  generalize extra : (if t.inLeap = true then 1 else 0 : Nat) = leap
  have leapSecond : leap = 0 ∧ t.nanos < 1000000000 ∨
      leap = 1 ∧ 1000000000 ≤ t.nanos ∧ s % 60 = 59 := by
    by_cases long : 1000000000 ≤ t.nanos
    · rw [if_pos (inLeap.mpr long)] at extra
      omega
    · rw [if_neg (mt inLeap.mp long)] at extra
      omega
  have sixty : (if s % 60 + leap = 60 then 1 else 0) = leap := by split <;> omega
  have seconds : (t.seconds / 86400 + epochDay - epochDay) * 86400 + (s / 3600 : Nat) * 3600 +
      (s / 60 % 60 : Nat) * 60 + ((s % 60 + leap - leap : Nat) : Int) = t.seconds := by
    omega
  have nanos : t.nanos - leap * 1000000000 + leap * 1000000000 = t.nanos := by omega
  have clock : s / 3600 < 24 ∧ s / 60 % 60 < 60 ∧ s % 60 + leap ≤ 60 := by omega
  have inside : firstSecond ≤ t.seconds ∧ t.seconds ≤ lastSecond := ⟨first, last⟩
  simp only [ofFields?, valid, day, clock, sixty, seconds, nanos, inside, and_self, Int.natAbs_zero,
    Nat.zero_lt_succ, if_true, Int.sub_zero]
  exact dif_pos t.within

/-- The parts of a time fit into the digits that they are written with. -/
theorem parts_fit (t : Time) :
    let date := Date.ofDay (t.seconds / 86400 + epochDay)
    let second := (t.seconds % 86400).toNat
    let leap := if t.inLeap then 1 else 0
    date.month ≤ 99 ∧ date.day ≤ 99 ∧ second / 3600 ≤ 99 ∧ second / 60 % 60 ≤ 99 ∧
      second % 60 + leap ≤ 99 ∧ t.nanos - leap * 1000000000 < 1000000000 := by
  intro date second leap
  obtain ⟨month, day⟩ :=
    Date.small_of_isValid (Date.ofDay_spec (t.seconds / 86400 + epochDay)).1
  obtain ⟨-, -, most, -⟩ := t.within
  have inLeap : t.inLeap = true ↔ 1000000000 ≤ t.nanos := decide_eq_true_iff
  have clock : second < 86400 := by omega
  have extra : leap ≤ 1 ∧ t.nanos - leap * 1000000000 < 1000000000 := by
    by_cases long : 1000000000 ≤ t.nanos
    · simp only [leap, inLeap, if_pos long]
      omega
    · simp only [leap, inLeap, if_neg long]
      omega
  exact ⟨Nat.le_trans month (by decide), Nat.le_trans day (by decide), by omega, by omega, by omega,
    extra.2⟩

/-- The exact form of some fields is read as these fields, whether they mean a time or not. -/
theorem ofExact?_fixed {year month day hour minute second nanos : Nat}
    (yearFits : year ≤ 9999) (monthFits : month ≤ 99) (dayFits : day ≤ 99) (hourFits : hour ≤ 99)
    (minuteFits : minute ≤ 99) (secondFits : second ≤ 99) (nanosFit : nanos < 1000000000) :
    ofExact? (String.ofList (fixed 10 4 year ++ '-' :: (fixed 10 2 month ++ '-' :: (fixed 10 2 day ++
      'T' :: (fixed 10 2 hour ++ ':' :: (fixed 10 2 minute ++ ':' :: (fixed 10 2 second ++
        (fractionText nanos ++ "+00:00".toList)))))))) =
      ofFields? ⟨⟨year, month, day⟩, hour, minute, second, nanos, 0⟩ := by
  have four {n : Nat} (fits : n ≤ 9999) (rest : List Char) :
      Text.digitRun? 4 4 (fixed 10 4 n ++ rest) = some (n, rest) :=
    Text.digitRun?_fixed (Nat.le_refl _) (Nat.lt_succ_of_le fits) rest
  have two {n : Nat} (fits : n ≤ 99) (rest : List Char) :
      Text.digitRun? 2 2 (fixed 10 2 n ++ rest) = some (n, rest) :=
    Text.digitRun?_fixed (Nat.le_refl _) (Nat.lt_succ_of_le fits) rest
  have fraction : optionalFraction? (fractionText nanos ++ "+00:00".toList) =
      some (nanos, "+00:00".toList) :=
    optionalFraction?_fractionText nanosFit (by decide) (by decide) "00:00".toList
  have offset : offset? (Text.after? ':') "+00:00".toList = some (0, []) := by decide
  have mark (c : Char) (rest : List Char) : Text.after? c (c :: rest) = some rest := by
    rw [Text.after?, if_pos rfl]
  have separator (rest : List Char) : afterSeparator? ('T' :: rest) = some rest := by
    rw [afterSeparator?, if_pos (Or.inl rfl)]
  simp only [ofExact?, String.toList_ofList, four yearFits, two monthFits, two dayFits,
    two hourFits, two minuteFits, two secondFits, mark, separator, Option.bind_eq_bind,
    Option.bind_some, fraction, offset, ne_eq,
    not_true_eq_false, if_false]

/-- What the store keeps of a time is read as that time. -/
theorem ofExact?_storedText {t : Time} (readable : t.Readable) :
    ofExact? t.storedText = some t := by
  obtain ⟨month, day, hour, minute, second, nanos⟩ := t.parts_fit
  unfold Readable year at readable
  rw [← ofFields?_parts t]
  simp only [storedText, textWith]
  generalize Date.ofDay (t.seconds / 86400 + epochDay) = date at *
  have natural : (date.year.toNat : Int) = date.year := by omega
  have yearFits : date.year.toNat ≤ 9999 := by omega
  have read := ofExact?_fixed yearFits month day hour minute second nanos
  rw [natural] at read
  simp only [yearText, if_pos readable, List.append_assoc, List.cons_append]
  exact read

/-- A year outside the exact form is written with a sign first. -/
theorem yearText_signed {year : Int} (outside : ¬ (0 ≤ year ∧ year ≤ 9999)) :
    ∃ sign digits, yearText year = sign :: digits ∧ Text.isDigitIn 10 sign = false := by
  refine ⟨if year < 0 then '-' else '+', _, if_neg outside, ?_⟩
  split <;> rfl

/-- What the store keeps of a time is read only if the year has the exact form. -/
theorem readable_of_ofExact? {t read : Time} (known : ofExact? t.storedText = some read) :
    t.Readable := by
  by_cases readable : t.Readable
  · exact readable
  · obtain ⟨sign, digits, year, mark⟩ := yearText_signed readable
    have unread : Text.digitRun? 4 4 t.storedText.toList = none := by
      unfold Time.year at year
      simp [storedText, textWith, year, Text.digitRun?, mark]
    rw [ofExact?, unread] at known
    exact nomatch known

end Time

end Gatehouse
