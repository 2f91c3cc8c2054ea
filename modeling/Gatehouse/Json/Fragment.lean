import Gatehouse.Binary
import Gatehouse.Decimal

/-! # JSON texts as far as they can be read

Readers of records go through a text from the left and stop at the first fault, whichever kind it
is: a break of the grammar, or a value that does not fit. To tell the two apart in the right order,
a text is first read into a fragment, which keeps everything up to the first break of the grammar
and marks the place of the break.

Some faults of a value matter only if the value is wanted: a string with half of a surrogate pair,
and a number too large for a float. They are kept as values of their own.
-/

namespace Gatehouse.Json

inductive Fragment where
  | null
  | bool (b : Bool)
  | int (n : Int)
  /-- A number with a fraction or an exponent, or minus zero; `finite` if it is read as a
  double. -/
  | real (finite : Bool)
  /-- A string, or `none` if half of a surrogate pair stands in it. -/
  | str (s : Option String)
  /-- The items up to the bracket, or up to the break if there is no bracket. -/
  | arr (items : List Fragment) (closed : Bool)
  | obj (members : List (Option String × Fragment)) (closed : Bool)
  /-- Where a value should be, the grammar breaks. -/
  | broken

namespace Fragment

/-- One unit of a string: a character or half of a surrogate pair. -/
inductive Piece where
  | char (c : Char)
  | high (bits : Nat)
  | low (bits : Nat)

/-- The unit that four hexadecimal digits stand for. -/
def Piece.ofUnit (unit : Nat) : Piece :=
  if 0xD800 ≤ unit ∧ unit < 0xDC00 then .high (unit - 0xD800)
  else if 0xDC00 ≤ unit ∧ unit < 0xE000 then .low (unit - 0xDC00)
  else .char (Char.ofNat unit)

/-- The character of a simple escape. -/
def simpleEscape? (c : Char) : Option Char :=
  if c = '"' ∨ c = '\\' ∨ c = '/' then some c
  else if c = 'b' then some (Char.ofNat 8)
  else if c = 'f' then some (Char.ofNat 12)
  else if c = 'n' then some '\n'
  else if c = 'r' then some '\r'
  else if c = 't' then some '\t'
  else none

/-- The units up to the closing quote, and what follows it. -/
def stringBody? : List Char → Option (List Piece × List Char)
  | [] => none
  | '"' :: rest => some ([], rest)
  | '\\' :: 'u' :: a :: b :: c :: d :: rest => do
    let unit ← Text.value? 16 [a, b, c, d]
    let (pieces, rest) ← stringBody? rest
    some (.ofUnit unit :: pieces, rest)
  | '\\' :: e :: rest => do
    let c ← simpleEscape? e
    let (pieces, rest) ← stringBody? rest
    some (.char c :: pieces, rest)
  | c :: rest =>
    if c = '\\' ∨ c.toNat < 32 then none
    else do
      let (pieces, rest) ← stringBody? rest
      some (.char c :: pieces, rest)

/-- Join the halves of surrogate pairs; a half on its own has no character. -/
def join? : List Piece → Option (List Char)
  | [] => some []
  | .char c :: rest => (join? rest).map (c :: ·)
  | .high h :: .low l :: rest => (join? rest).map (Char.ofNat (0x10000 + h * 0x400 + l) :: ·)
  | .high _ :: _ => none
  | .low _ :: _ => none

/-- A string after its opening quote, and what follows. -/
def string? (cs : List Char) : Option (Option String × List Char) :=
  (stringBody? cs).map fun (pieces, rest) => ((join? pieces).map String.ofList, rest)

/-- Digits from the front of a text. -/
def digitSpan (cs : List Char) : List Char × List Char :=
  (cs.takeWhile (Text.isDigitIn 10), cs.dropWhile (Text.isDigitIn 10))

/-- The digits before the point: a zero, or digits that do not start with one. -/
def wholePart? (cs : List Char) : Option (List Char × List Char) :=
  match digitSpan cs with
  | ([], _) => none
  | ('0' :: _ :: _, _) => none
  | parts => some parts

/-- The digits after the point, if there is one. -/
def fractionPart? : List Char → Option (Option (List Char) × List Char)
  | '.' :: cs =>
    match digitSpan cs with
    | ([], _) => none
    | (ds, rest) => some (some ds, rest)
  | cs => some (none, cs)

/-- The exponent, if there is one. -/
def exponentPart? : List Char → Option (Option Int × List Char)
  | c :: cs =>
    if c = 'e' ∨ c = 'E' then
      let (negative, cs) := match cs with
        | '-' :: cs => (true, cs)
        | '+' :: cs => (false, cs)
        | cs => (false, cs)
      match digitSpan cs with
      | ([], _) => none
      | (ds, rest) =>
        let size : Int := Text.value 10 ds
        some (some (if negative then -size else size), rest)
    else some (none, c :: cs)
  | [] => some (none, [])

/-- A digit is taken if the number that it makes has 64 bits. -/
def room (n digit : Nat) : Bool := n * 10 + digit < UInt64.size

/-- Whether a number can be read as a double: its digits and the power of ten are rounded, and then
their product. Powers of ten beyond the doubles are refused even if the product would be small. -/
def isFinite (d : Decimal) : Bool :=
  d.significand = 0 || d.exponent < 0 || d.exponent ≤ 308 &&
    let digits := Binary.ofNat Binary.doubleBits d.significand
    let power := Binary.ofNat Binary.doubleBits (Nat.pow 10 d.exponent.toNat)
    (digits.mul Binary.doubleBits power).isFinite

/-- A number, and what follows it. Integers of 64 bits, with or without sign, are kept. -/
def number? (cs : List Char) : Option (Fragment × List Char) := do
  let (negative, cs) := match cs with
    | '-' :: cs => (true, cs)
    | cs => (false, cs)
  let (whole, cs) ← wholePart? cs
  let (fraction, cs) ← fractionPart? cs
  let (exponent, cs) ← exponentPart? cs
  let real := Fragment.real
    (isFinite (Decimal.ofDigits room whole (fraction.getD []) (exponent.getD 0)))
  match fraction, exponent, Decimal.append room 0 whole with
  | none, none, (n, 0) =>
    if negative then
      if n = 0 ∨ UInt64.size / 2 < n then some (real, cs) else some (.int (-n), cs)
    else some (.int n, cs)
  | _, _, _ => some (real, cs)

/-- Skip the blanks that JSON knows. -/
def skipBlanks (cs : List Char) : List Char :=
  cs.dropWhile fun c => c == ' ' || c == '\n' || c == '\t' || c == '\r'

/-- A word at the front of a text stands for a value; any other text is a break. -/
def word (w : String) (value : Fragment) (cs : List Char) : Fragment × List Char :=
  if w.toList.isPrefixOf cs then (value, cs.drop w.length) else (.broken, cs)

mutual

/-- Read a value. The fuel bounds the depth of calls; two for each character are enough. -/
def value : (fuel : Nat) → List Char → Fragment × List Char
  | 0, cs => (.broken, cs)
  | fuel + 1, cs =>
    match skipBlanks cs with
    | [] => (.broken, [])
    | c :: rest =>
      if c = '"' then
        match string? rest with
        | some (s, rest) => (.str s, rest)
        | none => (.broken, rest)
      else if c = '[' then
        let (items, closed, rest) := items fuel true rest
        (.arr items closed, rest)
      else if c = '\x7b' then
        let (members, closed, rest) := members fuel true rest
        (.obj members closed, rest)
      else if c = 'n' then word "null" .null (c :: rest)
      else if c = 't' then word "true" (.bool true) (c :: rest)
      else if c = 'f' then word "false" (.bool false) (c :: rest)
      else (number? (c :: rest)).getD (.broken, c :: rest)

/-- Read items up to the bracket; `first` until one was read. -/
def items : (fuel : Nat) → (first : Bool) → List Char → List Fragment × Bool × List Char
  | 0, _, cs => ([], false, cs)
  | fuel + 1, first, cs =>
    match skipBlanks cs with
    | [] => ([], false, [])
    | c :: rest =>
      if c = ']' then ([], true, rest)
      else if first ∨ c = ',' then
        let start := if first then c :: rest else rest
        match skipBlanks start with
        | ']' :: _ => ([], false, start)
        | _ =>
          let (item, rest) := value fuel start
          let (more, closed, rest) := items fuel false rest
          (item :: more, closed, rest)
      else ([], false, c :: rest)

/-- Read members up to the brace; `first` until one was read. -/
def members : (fuel : Nat) → (first : Bool) → List Char →
    List (Option String × Fragment) × Bool × List Char
  | 0, _, cs => ([], false, cs)
  | fuel + 1, first, cs =>
    match skipBlanks cs with
    | [] => ([], false, [])
    | c :: rest =>
      if c = '\x7d' then ([], true, rest)
      else if first ∨ c = ',' then
        match skipBlanks (if first then c :: rest else rest) with
        | '"' :: start =>
          match string? start with
          | none => ([], false, start)
          | some (key, rest) =>
            match skipBlanks rest with
            | ':' :: rest =>
              let (item, rest) := value fuel rest
              let (more, closed, rest) := members fuel false rest
              ((key, item) :: more, closed, rest)
            | rest => ([(key, .broken)], false, rest)
        | rest => ([], false, rest)
      else ([], false, c :: rest)

end

/-- Read the value at the front of a text, and what follows it. -/
def ofText (s : String) : Fragment × List Char := value (2 * s.length + 2) s.toList

end Fragment

end Gatehouse.Json
