import Gatehouse.Text.Numeral

/-! # Decimal numbers

A numeral has digits before and after a point and an exponent. Only so many digits are taken as
there is room for; a digit that is left out before the point makes the rest ten times as large, one
after the point is forgotten.
-/

namespace Gatehouse

/-- The number `significand · 10 ^ exponent`. -/
structure Decimal where
  significand : Nat
  exponent : Int
deriving DecidableEq, Repr

namespace Decimal

/-- Append digits to a number as long as there is room for the next one: the number, and how many
digits are left out. -/
def append (room : Nat → Nat → Bool) (n : Nat) : List Char → Nat × Nat
  | [] => (n, 0)
  | d :: ds =>
    let digit := Text.digitValue d
    if room n digit then append room (n * 10 + digit) ds else (n, ds.length + 1)

/-- The number of the digits before and after the point, as far as there is room for them. -/
def ofDigits (room : Nat → Nat → Bool) (whole fraction : List Char) (exponent : Int) : Decimal :=
  let (n, left) := append room 0 whole
  let (n, unread) := append room n fraction
  ⟨n, exponent + left + unread - fraction.length⟩

end Decimal

end Gatehouse
