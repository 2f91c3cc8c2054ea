import Gatehouse.Text.Blank

/-! # Numerals

Natural numbers as digits in a base up to sixteen, of the length they need or of a fixed width, and
the way back. Digits above nine are written in lower case and read in either case.
-/

namespace Gatehouse.Text

/-- The value of a digit character, whatever the base. -/
def digitValue (c : Char) : Nat :=
  if '0' ≤ c ∧ c ≤ '9' then c.toNat - '0'.toNat
  else if 'a' ≤ c ∧ c ≤ 'f' then c.toNat - 'a'.toNat + 10
  else if 'A' ≤ c ∧ c ≤ 'F' then c.toNat - 'A'.toNat + 10
  else 16

/-- Whether a character is a digit of the base. -/
def isDigitIn (base : Nat) (c : Char) : Bool := digitValue c < base

/-- The number that a run of digits stands for, most significant digit first. -/
def value (base : Nat) (digits : List Char) : Nat :=
  digits.foldl (fun n c => n * base + digitValue c) 0

/-- The number of a nonempty run of digits; any other character refuses it. -/
def value? (base : Nat) (cs : List Char) : Option Nat :=
  if cs ≠ [] ∧ cs.all (isDigitIn base) then some (value base cs) else none

/-- The last `width` digits of a number. -/
def fixed (base : Nat) : (width : Nat) → Nat → List Char
  | 0, _ => []
  | width + 1, n => fixed base width (n / base) ++ [Nat.digitChar (n % base)]

/-- The digits of a number, without leading zeros. -/
def numeral (base : Nat) (n : Nat) : List Char :=
  if _ : base ≤ 1 ∨ n < base then [Nat.digitChar n]
  else numeral base (n / base) ++ [Nat.digitChar (n % base)]
termination_by n
decreasing_by
  have big : 1 < base ∧ base ≤ n := by omega
  exact Nat.div_lt_self (by omega) big.1

/-- Decimal text. -/
def decimal (n : Nat) : String := String.ofList (numeral 10 n)

/-- Decimal text with a minus sign in front of negative numbers. -/
def signedDecimal : Int → String
  | .ofNat n => decimal n
  | .negSucc n => "-" ++ decimal (n + 1)

/-- At least `least` and at most `most` decimal digits from the front of a text, and what follows.
-/
def digitRun? (least most : Nat) (cs : List Char) : Option (Nat × List Char) :=
  let digits := (cs.take most).takeWhile (isDigitIn 10)
  if digits.length < least then none else some (value 10 digits, cs.drop digits.length)

/-- What follows the given character at the front of a text. -/
def after? (c : Char) : List Char → Option (List Char)
  | d :: rest => if d = c then some rest else none
  | [] => none

theorem length_fixed (base width n : Nat) : (fixed base width n).length = width := by
  induction width generalizing n with
  | zero => rfl
  | succ width ih => simp [fixed, ih]

end Gatehouse.Text
