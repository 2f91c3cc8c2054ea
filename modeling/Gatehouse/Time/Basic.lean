import Gatehouse.Time.Calendar

/-! # Points in time

A point in time is a count of seconds since the start of 1970 (UTC) and the nanoseconds since that
second began. A leap second is the second after one that ends in :59 and is written as the same
count with at least 10⁹ nanoseconds. The calendar covers the years -262143 to 262142.

Sums and differences count a leap second only where a point lies in it: all other minutes have sixty
seconds. A sum that leaves the calendar is `none`.
-/

namespace Gatehouse

namespace Time

def firstSecond : Int := -8334601228800

def lastSecond : Int := 8210266876799

/-- The counts of a point in time that the calendar has. Leap nanoseconds, which by hand may be set
in any second, are in it only where a leap second can be, after a second that ends in :59: no clock
shows and no text says others. -/
def Within (seconds : Int) (nanos : Nat) : Prop :=
  firstSecond ≤ seconds ∧ seconds ≤ lastSecond ∧ nanos < 2000000000 ∧
    (nanos < 1000000000 ∨ seconds % 60 = 59)

instance (seconds : Int) (nanos : Nat) : Decidable (Within seconds nanos) :=
  inferInstanceAs (Decidable (_ ∧ _ ∧ _ ∧ _))

end Time

structure Time where
  seconds : Int
  nanos : Nat
  within : Time.Within seconds nanos
deriving DecidableEq, Repr

namespace Time

def ofParts? (seconds : Int) (nanos : Nat) : Option Time :=
  if within : Within seconds nanos then some ⟨seconds, nanos, within⟩ else none

/-- The start of 1970. -/
def epoch : Time := ⟨0, 0, by decide⟩

instance : Inhabited Time := ⟨epoch⟩

/-- Whether the point lies in a leap second. -/
def inLeap (t : Time) : Bool := 1000000000 ≤ t.nanos

/-- The point a number of milliseconds later, or earlier if it is negative. -/
def addMillis? (t : Time) (millis : Int) : Option Time :=
  let wholes := millis.tdiv 1000
  let rest := millis.tmod 1000 * 1000000
  let (seconds, nanos) : Int × Int :=
    if t.inLeap then
      if 0 < wholes ∨ 0 < rest ∧ 2000000000 ≤ t.nanos + rest then
        (t.seconds, t.nanos - 1000000000)
      else if wholes < 0 then (t.seconds + 1, t.nanos - 1000000000)
      else (t.seconds, t.nanos)
    else (t.seconds, t.nanos)
  if t.inLeap ∧ nanos = t.nanos then ofParts? seconds (nanos + rest).toNat
  else
    let total := nanos + rest
    ofParts? (seconds + wholes + total / 1000000000) (total % 1000000000).toNat

/-- The nanoseconds from `earlier` to `later`; negative if they are in the other order. -/
def nanosBetween (later earlier : Time) : Int :=
  let l := later.seconds % 86400
  let e := earlier.seconds % 86400
  let leap : Int :=
    if e < l ∧ earlier.inLeap then 1 else if l < e ∧ later.inLeap then -1 else 0
  (later.seconds - earlier.seconds + leap) * 1000000000 + (later.nanos - earlier.nanos)

end Time

end Gatehouse
