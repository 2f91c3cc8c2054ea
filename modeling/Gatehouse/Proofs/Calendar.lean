import Gatehouse.Time.Calendar

/-! # Dates and days

The date of a day is one that the calendar has, and its day is the day again. The estimate of the year
is off by at most one year, and months are taken off the day of the year until one is left that it
falls into.
-/

namespace Gatehouse

namespace Calendar

/-- Leap years have a day more than others. -/
theorem daysBefore_succ (year : Int) :
    daysBefore (year + 1) = daysBefore year + if isLeap year then 366 else 365 := by
  unfold daysBefore isLeap
  by_cases four : year % 4 = 0 <;> by_cases century : year % 100 = 0 <;>
    by_cases era : year % 400 = 0 <;> simp [four, century, era] <;> omega

/-- The year of a day is the one that it falls into. -/
theorem yearOf_spec (day : Int) :
    daysBefore (yearOf day) ≤ day ∧ day < daysBefore (yearOf day + 1) := by
  unfold yearOf
  dsimp only
  generalize guessed : 400 * day / 146097 = guess
  -- the estimate is off by at most one
  have above : daysBefore (guess - 1) ≤ day := by
    unfold daysBefore
    omega
  have below : day < daysBefore (guess + 2) := by
    unfold daysBefore
    omega
  split
  · next early =>
    exact ⟨above, by simpa only [Int.sub_add_cancel] using early⟩
  · split
    · next late =>
      have next : guess + 1 + 1 = guess + 2 := Int.add_assoc guess 1 1
      exact ⟨late, next ▸ below⟩
    · next reached unreached => exact ⟨Int.not_lt.mp reached, Int.not_le.mp unreached⟩

private theorem foldl_add_cons (n : Nat) (ns : List Nat) :
    (n :: ns).foldl (· + ·) 0 = n + ns.foldl (· + ·) 0 := by
  have start (m : Nat) : ns.foldl (· + ·) m = m + ns.foldl (· + ·) 0 := by
    induction ns generalizing m with
    | nil => rfl
    | cons k rest ih =>
      rw [List.foldl_cons, List.foldl_cons, ih (m + k), ih (0 + k)]
      omega
  rw [List.foldl_cons, start (0 + n), Nat.zero_add]

/-- What is left when whole months are taken off is a day of the next month. -/
theorem splitMonths_spec (lengths : List Nat) (month rest : Nat)
    (within : rest < lengths.foldl (· + ·) 0) :
    ∃ passed length, lengths[passed]? = some length ∧
      (splitMonths lengths month rest).1 = month + passed ∧
      1 ≤ (splitMonths lengths month rest).2 ∧ (splitMonths lengths month rest).2 ≤ length ∧
      (lengths.take passed).foldl (· + ·) 0 + ((splitMonths lengths month rest).2 - 1) = rest := by
  induction lengths generalizing month rest with
  | nil => exact absurd within (Nat.not_lt_zero rest)
  | cons length more ih =>
    rw [foldl_add_cons] at within
    by_cases here : rest < length
    · refine ⟨0, length, rfl, ?_⟩
      rw [splitMonths, if_pos here]
      exact ⟨rfl, Nat.le_add_left 1 rest, here, by simp⟩
    · have later : rest - length < more.foldl (· + ·) 0 := by omega
      obtain ⟨passed, days, listed, named, positive, most, sum⟩ :=
        ih (month + 1) (rest - length) later
      refine ⟨passed + 1, days, listed, ?_⟩
      rw [splitMonths, if_neg here]
      refine ⟨by omega, positive, most, ?_⟩
      have front : ((length :: more).take (passed + 1)).foldl (· + ·) 0 =
          length + (more.take passed).foldl (· + ·) 0 := by
        rw [List.take_succ_cons, foldl_add_cons]
      omega

private theorem monthLengths_total (leap : Bool) :
    (monthLengths leap).foldl (· + ·) 0 = if leap then 366 else 365 := by
  cases leap <;> rfl

end Calendar

open Calendar

/-- The day of the date of a day is that day, and the calendar has the date. -/
theorem Date.ofDay_spec (day : Int) :
    (ofDay day).isValid = true ∧ (ofDay day).toDay = day := by
  obtain ⟨above, below⟩ := yearOf_spec day
  have length := daysBefore_succ (yearOf day)
  have within : (day - daysBefore (yearOf day)).toNat <
      (monthLengths (isLeap (yearOf day))).foldl (· + ·) 0 := by
    rw [monthLengths_total]
    split at length <;> simp_all <;> omega
  obtain ⟨passed, days, listed, named, positive, most, sum⟩ := splitMonths_spec _ 1 _ within
  generalize months : splitMonths (monthLengths (isLeap (yearOf day))) 1
    (day - daysBefore (yearOf day)).toNat = split at named positive most sum
  obtain ⟨month, dayOfMonth⟩ := split
  have date : ofDay day = ⟨yearOf day, month, dayOfMonth⟩ := by
    simp only [ofDay, months]
  dsimp only at named positive most sum
  obtain rfl : month = passed + 1 := by omega
  rw [date]
  constructor
  · simp [isValid, listed, positive, most]
  · simp only [toDay, daysOfMonths, Nat.add_sub_cancel]
    omega

/-- Months and days of the calendar have at most two digits. -/
theorem Date.small_of_isValid {d : Date} (valid : d.isValid = true) : d.month ≤ 12 ∧ d.day ≤ 31 := by
  unfold isValid at valid
  split at valid
  · cases valid
  · next m named =>
    split at valid
    · next length listed =>
      obtain ⟨early, -⟩ := List.getElem?_eq_some_iff.mp listed
      have most : ∀ leap, ∀ days ∈ monthLengths leap, days ≤ 31 := by decide
      have days := most _ length (List.mem_of_getElem? listed)
      simp only [Bool.and_eq_true, decide_eq_true_eq] at valid
      simp only [monthLengths, List.length_cons, List.length_nil] at early
      omega
    · cases valid

end Gatehouse
