/-! # The Gregorian calendar

Days are counted from 1 January of the year 0, in both directions, and the present rules of leap
years hold for all years. A year is found by estimate and one correction: 400 years have 146097
days.
-/

namespace Gatehouse

structure Date where
  year : Int
  month : Nat
  day : Nat
deriving DecidableEq, Repr

namespace Calendar

def isLeap (year : Int) : Bool :=
  year % 4 == 0 && (year % 100 != 0 || year % 400 == 0)

/-- Days before 1 January of a year. -/
def daysBefore (year : Int) : Int :=
  365 * year + (year + 3) / 4 - (year + 99) / 100 + (year + 399) / 400

/-- The year that a day falls in. -/
def yearOf (day : Int) : Int :=
  let guess := 400 * day / 146097
  if day < daysBefore guess then guess - 1
  else if daysBefore (guess + 1) ≤ day then guess + 1
  else guess

def monthLengths (leap : Bool) : List Nat :=
  [31, if leap then 29 else 28, 31, 30, 31, 30, 31, 31, 30, 31, 30, 31]

/-- The days of so many months from the front of a year. -/
def daysOfMonths (leap : Bool) (months : Nat) : Nat :=
  ((monthLengths leap).take months).foldl (· + ·) 0

/-- Number of the month and day in it, both from 1, after skipping whole months. -/
def splitMonths : List Nat → (month dayOfYear : Nat) → Nat × Nat
  | [], month, rest => (month, rest + 1)
  | length :: more, month, rest =>
    if rest < length then (month, rest + 1) else splitMonths more (month + 1) (rest - length)

end Calendar

open Calendar

/-- The date of a day. -/
def Date.ofDay (day : Int) : Date :=
  let year := yearOf day
  let ofYear := (day - daysBefore year).toNat
  let (month, dayOfMonth) := splitMonths (monthLengths (isLeap year)) 1 ofYear
  ⟨year, month, dayOfMonth⟩

/-- Whether the calendar has this date. -/
def Date.isValid (d : Date) : Bool :=
  match d.month with
  | 0 => false
  | m + 1 =>
    match (monthLengths (isLeap d.year))[m]? with
    | some length => 1 ≤ d.day && d.day ≤ length
    | none => false

/-- The day of a date. -/
def Date.toDay (d : Date) : Int :=
  daysBefore d.year + daysOfMonths (isLeap d.year) (d.month - 1) + (d.day - 1 : Nat)

end Gatehouse
