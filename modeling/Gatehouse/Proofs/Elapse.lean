import Gatehouse.Proofs.TimeText

/-! # The end of the calendar

A time some milliseconds later is in the calendar unless the calendar ends before. Counted in
nanoseconds this is one comparison: a leap second, which is written as more nanoseconds of the
second before it, counts as that second there.
-/

namespace Gatehouse.Time

/-- The nanoseconds since the start of 1970, where a leap second counts as the second before it. -/
def sinceEpoch (t : Time) : Int := t.seconds * 1000000000 + t.nanos % 1000000000

/-- The first nanosecond after the calendar. -/
def calendarEnd : Int := (lastSecond + 1) * 1000000000

private theorem exists_ofParts?_iff {seconds : Int} {nanos : Nat} (started : firstSecond ≤ seconds)
    (plain : nanos < 1000000000) :
    (∃ t, ofParts? seconds nanos = some t) ↔ seconds ≤ lastSecond := by
  unfold ofParts?
  constructor
  · rintro ⟨t, there⟩
    split at there
    · next within => exact within.2.1
    · cases there
  · intro early
    exact ⟨⟨seconds, nanos, started, early, by omega, .inl plain⟩, dif_pos _⟩

/-- A time some milliseconds later is in the calendar unless the calendar has ended by then. -/
theorem exists_addMillis?_iff (t : Time) (millis : Nat) :
    (∃ later, t.addMillis? millis = some later) ↔
      t.sinceEpoch + millis * 1000000 < calendarEnd := by
  obtain ⟨seconds, nanos, within⟩ := t
  obtain ⟨first, last, short, leaps⟩ := id within
  have wholes : (millis : Int).tdiv 1000 = millis / 1000 := Int.tdiv_eq_ediv_of_nonneg (by omega)
  have rest : (millis : Int).tmod 1000 = millis % 1000 := Int.tmod_eq_emod_of_nonneg (by omega)
  simp only [addMillis?, wholes, rest, sinceEpoch, calendarEnd, inLeap]
  by_cases leap : 1000000000 ≤ nanos
  · by_cases out : 0 < (millis : Int) / 1000 ∨
        0 < (millis : Int) % 1000 * 1000000 ∧
          2000000000 ≤ (nanos : Int) + (millis : Int) % 1000 * 1000000
    · -- the sum leaves the leap second, and goes on as from the second before it
      have differ : ¬ ((nanos : Int) - 1000000000 = nanos) := by omega
      simp only [leap, decide_true, if_true, true_and, out, differ, if_false]
      rw [exists_ofParts?_iff (by unfold firstSecond at *; omega) (by omega)]
      omega
    · have forward : ¬ (millis : Int) / 1000 < 0 := by omega
      simp only [leap, decide_true, if_true, true_and, out, forward, if_false]
      have inside : Within seconds ((nanos : Int) + (millis : Int) % 1000 * 1000000).toNat :=
        ⟨first, last, by omega, by omega⟩
      refine iff_of_true ⟨⟨_, _, inside⟩, dif_pos inside⟩ ?_
      omega
  · simp only [leap, decide_false, Bool.false_eq_true, false_and, if_false]
    rw [exists_ofParts?_iff (by unfold firstSecond at *; omega) (by omega)]
    omega

/-- A second behind the years that can be read. -/
theorem Readable.lt {t : Time} (readable : t.Readable) : t.seconds < 253402300800 := by
  have day := (Calendar.yearOf_spec (t.seconds / 86400 + epochDay)).2
  have year : Calendar.yearOf (t.seconds / 86400 + epochDay) ≤ 9999 := readable.2
  unfold Calendar.daysBefore epochDay at *
  omega

end Gatehouse.Time
