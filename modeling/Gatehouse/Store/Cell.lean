import Gatehouse.Binary
import Gatehouse.Decimal
import Gatehouse.Word

/-! # Values in columns

A column of texts holds texts only: a number that is put there becomes its decimal text. A column of
numbers holds what it is given, but a text that is a numeral becomes the number. Digits alone stand
for a whole number, if it fits into 64 bits. Any other numeral stands for a double, which is kept as
a whole number if it is one and lies between the least and the largest 64-bit word. Any other text
stays a text.
-/

namespace Gatehouse.Store

/-- A value in a column of numbers. -/
inductive Cell where
  | int (word : Int64)
  /-- A double that is not kept as a whole number. -/
  | real
  | text (s : String)
deriving DecidableEq, Repr

/-- A value that is put into a column of either kind. -/
inductive Value where
  | null
  | int (word : Int64)
  | text (s : String)
deriving DecidableEq, Repr

namespace Cell

def ofBool (b : Bool) : Cell := .int (if b then 1 else 0)

/-- The blanks that may stand around a numeral. -/
def isSpace (c : Char) : Bool := c == ' ' || (9 ≤ c.toNat && c.toNat ≤ 13)

/-- A sign at the front of a text: whether it is a minus, and what follows. -/
def sign : List Char → Bool × List Char
  | '-' :: rest => (true, rest)
  | '+' :: rest => (false, rest)
  | cs => (false, cs)

/-- The size of an exponent: one of more than five digits counts as ten thousand. -/
def exponentSize (digits : List Char) : Nat :=
  digits.foldl (fun n c => if n < 10000 then n * 10 + Text.digitValue c else 10000) 0

/-- The exponent of a numeral: `e`, perhaps a sign, and digits. Nothing at all is zero. -/
def exponent? : List Char → Option Int
  | [] => some 0
  | c :: rest =>
    if c = 'e' ∨ c = 'E' then
      let (negative, digits) := sign rest
      if digits ≠ [] ∧ digits.all (Text.isDigitIn 10) then
        some (if negative then -exponentSize digits else exponentSize digits)
      else none
    else none

/-- A digit is taken if the digits before it are below a tenth of 64 bits. -/
def room (n _digit : Nat) : Bool := n < (UInt64.size - 10) / 10

/-- Take zeros off the end of a number, at most as many as there are places after the point: the
number and the places that are left. -/
def shorten : (places : Nat) → Nat → Nat × Nat
  | 0, n => (n, 0)
  | places + 1, n => if n % 10 = 0 then shorten places (n / 10) else (n, places + 1)

/-- The double that is nearest to a decimal number, if it is a whole number. Places after the point
are divided off in extended precision. -/
def whole? (d : Decimal) : Option Nat :=
  if d.significand = 0 ∨ d.exponent < -400 then some 0
  else if 20 < d.exponent then none
  else if 0 ≤ d.exponent then
    (Binary.ofNat Binary.doubleBits (d.significand * Nat.pow 10 d.exponent.toNat)).whole?
  else
    let (n, places) := shorten d.exponent.natAbs d.significand
    let x := Binary.scaleDown Binary.extendedBits places ⟨n, 0⟩
    if x.vanishes then some 0 else (x.round Binary.doubleBits).whole?

/-- The number of a decimal number that is read as a double. -/
def ofDecimal (negative : Bool) (d : Decimal) : Cell :=
  match whole? d with
  | some n =>
    if n < UInt64.size / 2 then .int (Int64.ofInt (if negative then -n else n)) else .real
  | none => .real

/-- The number of digits without a point and an exponent. -/
def ofWhole (negative : Bool) (n : Nat) : Cell :=
  ((Int64.ofInt? (if negative then -n else n)).map .int).getD .real

/-- The number of a numeral: blanks, a sign, digits with perhaps a point among them, an exponent. -/
def ofNumeral? (s : String) : Option Cell :=
  let cs := ((s.toList.dropWhile isSpace).reverse.dropWhile isSpace).reverse
  let (negative, cs) := sign cs
  let whole := cs.takeWhile (Text.isDigitIn 10)
  let rest := cs.drop whole.length
  let (fraction, exponent) := match rest with
    | '.' :: rest => (rest.takeWhile (Text.isDigitIn 10), rest.dropWhile (Text.isDigitIn 10))
    | rest => ([], rest)
  if whole = [] ∧ fraction = [] then none
  else if rest = [] then some (ofWhole negative (Text.value 10 whole))
  else
    (exponent? exponent).map fun exponent =>
      ofDecimal negative (Decimal.ofDigits room whole fraction exponent)

/-- What a column of numbers keeps of a text. -/
def ofText (s : String) : Cell := (ofNumeral? s).getD (.text s)

end Cell

namespace Value

/-- What a column of numbers keeps; it never keeps null. -/
def toCell? : Value → Option Cell
  | .null => none
  | .int word => some (.int word)
  | .text s => some (.ofText s)

/-- What a column of texts keeps; it never keeps null. -/
def toText? : Value → Option String
  | .null => none
  | .int word => some (Text.signedDecimal word.toInt)
  | .text s => some s

end Value

end Gatehouse.Store
