import Gatehouse.Proofs.ByteOrder
import Gatehouse.Proofs.TimeText

/-! # Times in order

The store orders times by their texts. In the years 0 to 9999 that is their order in time: the parts
of the exact form stand in the order of their weight and have fixed widths, and a leap second is
written as second 60. Only fractions have different widths, and where one of two ends before they
differ, a plus sign meets a digit or a point, both of which come after it.
-/

namespace Gatehouse

namespace Text

private theorem digitChar_lt_iff {m n : Nat} (small : m < 10) (small' : n < 10) :
    Nat.digitChar m < Nat.digitChar n ↔ m < n := by
  have all : ∀ m < 10, ∀ n < 10, (Nat.digitChar m < Nat.digitChar n ↔ m < n) := by decide
  exact all m small n small'

private theorem digitChar_inj {m n : Nat} (small : m < 10) (small' : n < 10) :
    Nat.digitChar m = Nat.digitChar n ↔ m = n := by
  have all : ∀ m < 10, ∀ n < 10, (Nat.digitChar m = Nat.digitChar n ↔ m = n) := by decide
  exact all m small n small'

/-- Digits of one width are ordered as their numbers; what follows decides between equal ones. -/
theorem fixed_append_lt_iff {width m n : Nat} (fits : m < Nat.pow 10 width)
    (fits' : n < Nat.pow 10 width) (x y : List Char) :
    fixed 10 width m ++ x < fixed 10 width n ++ y ↔ m < n ∨ m = n ∧ x < y := by
  induction width generalizing m n x y with
  | zero =>
    have zero : m = 0 := Nat.lt_one_iff.mp fits
    have zero' : n = 0 := Nat.lt_one_iff.mp fits'
    subst zero zero'
    simp [fixed]
  | succ width ih =>
    have longer : Nat.pow 10 (width + 1) = 10 * Nat.pow 10 width := Nat.pow_succ'
    have high : m / 10 < Nat.pow 10 width := by omega
    have high' : n / 10 < Nat.pow 10 width := by omega
    have low : m % 10 < 10 := Nat.mod_lt m (by decide)
    have low' : n % 10 < 10 := Nat.mod_lt n (by decide)
    simp only [fixed, List.append_assoc, List.singleton_append]
    rw [ih high high', List.cons_lt_cons_iff, digitChar_lt_iff low low', digitChar_inj low low']
    constructor
    · rintro (front | ⟨front, last | ⟨last, later⟩⟩)
      · left
        omega
      · left
        omega
      · exact .inr ⟨by omega, later⟩
    · rintro (less | ⟨rfl, later⟩)
      · by_cases front : m / 10 < n / 10
        · exact .inl front
        · exact .inr ⟨by omega, .inl (by omega)⟩
      · exact .inr ⟨rfl, .inr ⟨rfl, later⟩⟩

/-- Digits can be cut: the front ones are those of the number without the others. -/
theorem fixed_add (base width more n : Nat) :
    fixed base (width + more) n = fixed base width (n / Nat.pow base more) ++ fixed base more n := by
  induction more generalizing n with
  | zero => simp [fixed]
  | succ more ih =>
    have longer : Nat.pow base (more + 1) = base * Nat.pow base more := Nat.pow_succ'
    rw [← Nat.add_assoc, fixed, ih, fixed, List.append_assoc, longer, Nat.div_div_eq_div_mul]

end Text

namespace Calendar

private theorem daysBefore_le {year year' : Int} (le : year ≤ year') :
    daysBefore year ≤ daysBefore year' := by
  unfold daysBefore
  omega

private theorem daysOfMonths_le (leap : Bool) {m n : Nat} (le : m ≤ n) (most : n ≤ 12) :
    daysOfMonths leap m ≤ daysOfMonths leap n := by
  have all : ∀ leap, ∀ n < 13, ∀ m < 13, m ≤ n → daysOfMonths leap m ≤ daysOfMonths leap n := by
    decide
  exact all leap n (Nat.lt_succ_of_le most) m (Nat.lt_succ_of_le (Nat.le_trans le most)) le

private theorem daysOfMonths_succ {leap : Bool} {m length : Nat}
    (listed : (monthLengths leap)[m]? = some length) :
    daysOfMonths leap (m + 1) = daysOfMonths leap m + length := by
  have all : ∀ leap, ∀ m < 12,
      some (daysOfMonths leap (m + 1)) = (monthLengths leap)[m]?.map (daysOfMonths leap m + ·) := by
    decide
  obtain ⟨early, -⟩ := List.getElem?_eq_some_iff.mp listed
  have step := all leap m early
  rw [listed] at step
  exact Option.some.inj step

private theorem daysBefore_of_months (year : Int) :
    daysBefore (year + 1) = daysBefore year + daysOfMonths (isLeap year) 12 := by
  have total : ∀ leap, daysOfMonths leap 12 = if leap then 366 else 365 := by decide
  rw [daysBefore_succ, total]
  split <;> rfl

end Calendar

open Calendar

namespace Date

/-- One date comes before another: by the year, in a year by the month, in a month by the day. -/
def Before (a b : Date) : Prop :=
  a.year < b.year ∨ a.year = b.year ∧ (a.month < b.month ∨ a.month = b.month ∧ a.day < b.day)

/-- The day of a date lies in its month. -/
theorem toDay_bounds {d : Date} (valid : d.isValid = true) : ∃ m, d.month = m + 1 ∧ m < 12 ∧
    1 ≤ d.day ∧ d.toDay = daysBefore d.year + daysOfMonths (isLeap d.year) m + (d.day - 1) ∧
    d.toDay < daysBefore d.year + daysOfMonths (isLeap d.year) (m + 1) := by
  unfold isValid at valid
  split at valid
  · cases valid
  · next m named =>
    split at valid
    · next length listed =>
      obtain ⟨early, -⟩ := List.getElem?_eq_some_iff.mp listed
      simp only [Bool.and_eq_true, decide_eq_true_eq] at valid
      have day : d.toDay = daysBefore d.year + daysOfMonths (isLeap d.year) m + (d.day - 1) := by
        rw [toDay, named, Nat.succ_sub_one]
        omega
      refine ⟨m, named, early, valid.1, day, ?_⟩
      rw [day, daysOfMonths_succ listed]
      omega
    · cases valid

private theorem toDay_lt {a b : Date} (valid : a.isValid = true) (valid' : b.isValid = true)
    (before : a.Before b) : a.toDay < b.toDay := by
  obtain ⟨m, month, early, positive, day, last⟩ := toDay_bounds valid
  obtain ⟨n, month', early', positive', day', -⟩ := toDay_bounds valid'
  rcases before with year | ⟨year, less | ⟨same, less⟩⟩
  · have whole : daysOfMonths (isLeap a.year) (m + 1) ≤ daysOfMonths (isLeap a.year) 12 :=
      daysOfMonths_le _ early (Nat.le_refl 12)
    have next := daysBefore_le year
    have total := daysBefore_of_months a.year
    change daysBefore (a.year + 1) ≤ _ at next
    omega
  · have months := daysOfMonths_le (isLeap b.year) (m := m + 1) (n := n) (by omega) (by omega)
    rw [year] at last
    omega
  · obtain rfl : m = n := by omega
    rw [year] at day
    omega

/-- Dates of different days stand in the order of the days. -/
theorem before_of_toDay_lt {a b : Date} (valid : a.isValid = true) (valid' : b.isValid = true)
    (less : a.toDay < b.toDay) : a.Before b := by
  have order : a.Before b ∨ b.Before a ∨ a = b := by
    obtain ⟨year, month, day⟩ := a
    obtain ⟨year', month', day'⟩ := b
    simp only [Before, Date.mk.injEq]
    omega
  rcases order with earlier | later | rfl
  · exact earlier
  · have more := toDay_lt valid' valid later
    omega
  · omega

private theorem ofDay_before {day day' : Int} (less : day < day') :
    (ofDay day).Before (ofDay day') := by
  obtain ⟨valid, same⟩ := ofDay_spec day
  obtain ⟨valid', same'⟩ := ofDay_spec day'
  exact before_of_toDay_lt valid valid' (by rwa [same, same'])

end Date

namespace Time

open Text (fixed)

/-- A fraction is nothing, for zero, or a point and digits that stand for it. -/
theorem fractionText_cases (nanos : Nat) :
    nanos = 0 ∧ fractionText nanos = [] ∨
      ∃ width n, width ≤ 9 ∧ nanos = n * Nat.pow 10 (9 - width) ∧
        fractionText nanos = '.' :: fixed 10 width n := by
  unfold fractionText
  split
  · next zero => exact .inl ⟨zero, rfl⟩
  · split
    · refine .inr ⟨3, nanos / 1000000, by decide, ?_, rfl⟩
      simp only [Nat.pow_eq, Nat.reduceSub, Nat.reducePow]
      omega
    · split
      · refine .inr ⟨6, nanos / 1000, by decide, ?_, rfl⟩
        simp only [Nat.pow_eq, Nat.reduceSub, Nat.reducePow]
        omega
      · exact .inr ⟨9, nanos, by decide, (Nat.mul_one nanos).symm, rfl⟩

/-- Where a number ends that goes on in another one, a plus sign stands before a digit. -/
theorem shorter_lt {width more m n : Nat} (fits : m < Nat.pow 10 width)
    (fits' : n < Nat.pow 10 (width + more)) (less : m * Nat.pow 10 more < n) (x y : List Char) :
    fixed 10 width m ++ '+' :: x < fixed 10 (width + more) n ++ '+' :: y := by
  have split : Nat.pow 10 (width + more) = Nat.pow 10 width * Nat.pow 10 more := Nat.pow_add ..
  have positive : 0 < Nat.pow 10 more := Nat.pow_pos (by decide)
  have high : n / Nat.pow 10 more < Nat.pow 10 width :=
    (Nat.div_lt_iff_lt_mul positive).mpr (split ▸ fits')
  have most : m ≤ n / Nat.pow 10 more := (Nat.le_div_iff_mul_le positive).mpr (Nat.le_of_lt less)
  rw [Text.fixed_add, List.append_assoc, Text.fixed_append_lt_iff fits high]
  rcases Nat.lt_or_eq_of_le most with front | front
  · exact .inl front
  · refine .inr ⟨front, ?_⟩
    cases more with
    | zero =>
      simp only [Nat.pow_eq, Nat.pow_zero, Nat.div_one, Nat.mul_one] at front less
      omega
    | succ more =>
      have before : ∀ d < 10, '+' < Nat.digitChar d := by decide
      rw [Nat.add_comm more 1, Text.fixed_add, List.append_assoc]
      exact List.cons_lt_cons_iff.mpr (.inl (before _ (Nat.mod_lt _ (by decide))))

/-- A number that goes on where another one ends is smaller only if it is already before. -/
theorem longer_lt {width more m n : Nat} (fits : n < Nat.pow 10 width) (less : m < n * Nat.pow 10 more)
    (x y : List Char) :
    fixed 10 (width + more) m ++ '+' :: x < fixed 10 width n ++ '+' :: y := by
  have positive : 0 < Nat.pow 10 more := Nat.pow_pos (by decide)
  have front : m / Nat.pow 10 more < n := (Nat.div_lt_iff_lt_mul positive).mpr less
  rw [Text.fixed_add, List.append_assoc,
    Text.fixed_append_lt_iff (Nat.lt_trans front fits) fits]
  exact .inl front

/-- Of two fractions with points the smaller one comes first, whatever their widths. -/
theorem digits_lt {width width' m n : Nat} (most : width ≤ 9) (most' : width' ≤ 9)
    (fits : n * Nat.pow 10 (9 - width') < 1000000000)
    (less : m * Nat.pow 10 (9 - width) < n * Nat.pow 10 (9 - width')) (x y : List Char) :
    fixed 10 width m ++ '+' :: x < fixed 10 width' n ++ '+' :: y := by
  have bound {width n : Nat} (most : width ≤ 9) (fits : n * Nat.pow 10 (9 - width) < 1000000000) :
      n < Nat.pow 10 width := by
    have whole : Nat.pow 10 width * Nat.pow 10 (9 - width) = 1000000000 := by
      rw [Nat.pow_eq, Nat.pow_eq, ← Nat.pow_add, Nat.add_sub_cancel' most]
    exact Nat.lt_of_mul_lt_mul_right (whole ▸ fits)
  have small' := bound most' fits
  rcases Nat.le_total width width' with narrow | wide
  · obtain ⟨more, rfl⟩ := Nat.exists_eq_add_of_le narrow
    have less' := less
    have places : 9 - width = more + (9 - (width + more)) := by omega
    rw [places, Nat.pow_eq, Nat.pow_add, ← Nat.mul_assoc] at less
    exact shorter_lt (bound most (Nat.lt_trans less' fits)) small' (Nat.lt_of_mul_lt_mul_right less) x y
  · obtain ⟨more, rfl⟩ := Nat.exists_eq_add_of_le wide
    have places : 9 - width' = more + (9 - (width' + more)) := by omega
    rw [places, Nat.pow_eq, Nat.pow_eq, Nat.pow_add, ← Nat.mul_assoc] at less
    exact longer_lt small' (Nat.lt_of_mul_lt_mul_right less) x y

private theorem fractionText_lt {m n : Nat} (fits : n < 1000000000) (less : m < n)
    (x y : List Char) :
    fractionText m ++ '+' :: x < fractionText n ++ '+' :: y := by
  rcases fractionText_cases n with ⟨zero, -⟩ | ⟨width', n', most', exact', written'⟩
  · omega
  rw [written', List.cons_append]
  rcases fractionText_cases m with ⟨-, nothing⟩ | ⟨width, m', most, exact, written⟩
  · rw [nothing, List.nil_append, List.cons_lt_cons_iff]
    left
    decide
  · rw [written, List.cons_append, List.cons_lt_cons_self]
    exact digits_lt most most' (exact' ▸ fits) (exact ▸ exact' ▸ less) x y

/-- One time comes before another. A leap second comes after the second before it and before the next
one, as it has the count of the one and at least 10⁹ nanoseconds. -/
def Before (a b : Time) : Prop := a.seconds < b.seconds ∨ a.seconds = b.seconds ∧ a.nanos < b.nanos

instance (a b : Time) : Decidable (a.Before b) := inferInstanceAs (Decidable (_ ∨ _))

private theorem before_trichotomy (a b : Time) : a.Before b ∨ a = b ∨ b.Before a := by
  obtain ⟨seconds, nanos, within⟩ := a
  obtain ⟨seconds', nanos', within'⟩ := b
  simp only [Before, Time.mk.injEq]
  omega

/-- The date on which a time falls. -/
def date (t : Time) : Date := Date.ofDay (t.seconds / 86400 + epochDay)

/-- The seconds of the day before a time, and the nanoseconds after that, where the second of a leap
second counts as a second. -/
def secondOfDay (t : Time) : Nat := (t.seconds % 86400).toNat

def leap (t : Time) : Nat := if t.inLeap then 1 else 0

private theorem leap_cases (t : Time) :
    t.leap = 0 ∧ t.nanos < 1000000000 ∨
      t.leap = 1 ∧ 1000000000 ≤ t.nanos ∧ t.nanos < 2000000000 ∧ t.secondOfDay % 60 = 59 := by
  obtain ⟨-, -, most, minuteEnd⟩ := t.within
  have inLeap : t.inLeap = true ↔ 1000000000 ≤ t.nanos := decide_eq_true_iff
  unfold leap secondOfDay
  by_cases long : 1000000000 ≤ t.nanos
  · rw [if_pos (inLeap.mpr long)]
    omega
  · rw [if_neg (mt inLeap.mp long)]
    omega

private theorem secondOfDay_lt (t : Time) : t.secondOfDay < 86400 := by
  unfold secondOfDay
  omega

/-- What follows the date in a stored text. -/
def clockText (t : Time) : List Char :=
  fixed 10 2 (t.secondOfDay / 3600) ++ ':' :: (fixed 10 2 (t.secondOfDay / 60 % 60) ++
    ':' :: (fixed 10 2 (t.secondOfDay % 60 + t.leap) ++
      (fractionText (t.nanos - t.leap * 1000000000) ++ '+' :: "00:00".toList)))

/-- The stored text of a time that can be read, part by part. -/
theorem toList_storedText {t : Time} (readable : t.Readable) :
    t.storedText.toList = fixed 10 4 t.date.year.toNat ++
      '-' :: (fixed 10 2 t.date.month ++ '-' :: (fixed 10 2 t.date.day ++ 'T' :: t.clockText)) := by
  have year : yearText t.date.year = fixed 10 4 t.date.year.toNat := if_pos readable
  unfold date at year
  simp only [storedText, textWith, String.toList_ofList, year, List.append_assoc, List.cons_append]
  rfl

/-- In one day the texts of the clock stand in the order of hours, minutes, seconds and fractions. -/
theorem clockText_lt {a b : Time}
    (before : a.secondOfDay < b.secondOfDay ∨ a.secondOfDay = b.secondOfDay ∧ a.nanos < b.nanos) :
    a.clockText < b.clockText := by
  have most := a.secondOfDay_lt
  have most' := b.secondOfDay_lt
  have cases := a.leap_cases
  have cases' := b.leap_cases
  have width : Nat.pow 10 2 = 100 := rfl
  unfold clockText
  rw [Text.fixed_append_lt_iff (by omega) (by omega), List.cons_lt_cons_self,
    Text.fixed_append_lt_iff (by omega) (by omega), List.cons_lt_cons_self,
    Text.fixed_append_lt_iff (by omega) (by omega)]
  -- A leap second is second 60 of its minute: it follows second 59 and comes before the next minute.
  have order : a.secondOfDay / 3600 < b.secondOfDay / 3600 ∨
      a.secondOfDay / 3600 = b.secondOfDay / 3600 ∧
        (a.secondOfDay / 60 % 60 < b.secondOfDay / 60 % 60 ∨
          a.secondOfDay / 60 % 60 = b.secondOfDay / 60 % 60 ∧
            (a.secondOfDay % 60 + a.leap < b.secondOfDay % 60 + b.leap ∨
              a.secondOfDay % 60 + a.leap = b.secondOfDay % 60 + b.leap ∧
                a.nanos - a.leap * 1000000000 < b.nanos - b.leap * 1000000000)) := by
    omega
  exact order.imp_right <| And.imp_right <| Or.imp_right <| And.imp_right <| Or.imp_right <|
    And.imp_right fun less => fractionText_lt (by omega) less _ _

private theorem storedText_lt_of_before {a b : Time} (readable : a.Readable)
    (readable' : b.Readable) (before : a.Before b) : a.storedText < b.storedText := by
  have clock : a.seconds / 86400 = b.seconds / 86400 → a.clockText < b.clockText := fun same =>
    clockText_lt (by unfold Before at before; unfold secondOfDay; omega)
  obtain ⟨month, day⟩ := Date.small_of_isValid (Date.ofDay_spec (a.seconds / 86400 + epochDay)).1
  obtain ⟨month', day'⟩ := Date.small_of_isValid (Date.ofDay_spec (b.seconds / 86400 + epochDay)).1
  have years : 0 ≤ a.date.year ∧ a.date.year ≤ 9999 := readable
  have years' : 0 ≤ b.date.year ∧ b.date.year ≤ 9999 := readable'
  change a.date.month ≤ 12 at month
  change a.date.day ≤ 31 at day
  change b.date.month ≤ 12 at month'
  change b.date.day ≤ 31 at day'
  have width : Nat.pow 10 2 = 100 := rfl
  have width' : Nat.pow 10 4 = 10000 := rfl
  rw [String.lt_iff, toList_storedText readable, toList_storedText readable',
    Text.fixed_append_lt_iff (by omega) (by omega), List.cons_lt_cons_self,
    Text.fixed_append_lt_iff (by omega) (by omega), List.cons_lt_cons_self,
    Text.fixed_append_lt_iff (by omega) (by omega), List.cons_lt_cons_self]
  -- On one day the clock decides, on two days the date.
  by_cases same : a.seconds / 86400 = b.seconds / 86400
  · have date : a.date = b.date := by unfold Time.date; rw [same]
    rw [date]
    exact .inr ⟨rfl, .inr ⟨rfl, .inr ⟨rfl, clock same⟩⟩⟩
  · have earlier : a.date.Before b.date :=
      Date.ofDay_before (by unfold Before at before; omega)
    rcases earlier with year | ⟨year, rest⟩
    · left
      omega
    · exact .inr ⟨by rw [year], rest.imp_right (And.imp_right .inl)⟩

/-- Texts of readable times are those of one time only. -/
theorem storedText_inj {a b : Time} (readable : a.Readable) (readable' : b.Readable) :
    a.storedText = b.storedText ↔ a = b := by
  constructor
  · intro same
    have known := ofExact?_storedText readable
    rw [same, ofExact?_storedText readable'] at known
    exact (Option.some.inj known).symm
  · rintro rfl
    rfl

/-- The texts of readable times are in the order of the times. -/
theorem storedText_lt_iff {a b : Time} (readable : a.Readable) (readable' : b.Readable) :
    a.storedText < b.storedText ↔ a.Before b := by
  constructor
  · intro less
    rcases before_trichotomy a b with before | rfl | after
    · exact before
    · exact absurd less (String.lt_irrefl _)
    · exact absurd less (String.lt_asymm (storedText_lt_of_before readable' readable after))
  · exact storedText_lt_of_before readable readable'

end Time

end Gatehouse
