import Gatehouse.Text.Numeral
import Gatehouse.Time.Basic

/-! # Times as text

Times are written in RFC 3339 form, in UTC, with 0, 3, 6 or 9 digits of fraction: the fewest that
lose nothing. The second of a leap second is 60. Years outside 0 to 9999 carry a sign and at least
four digits.

There are two readers. The exact one takes RFC 3339 with its fixed numbers of digits, and so no year
outside 0 to 9999. The free one, for times in JSON, also takes signed years, shorter numbers, blanks
between the parts, `UTC`, and offsets without a colon. Both take any offset below a day, any number
of digits of fraction (those after the ninth are dropped) and second 60 in any minute.
-/

namespace Gatehouse

open Text (digitRun? after? fixed isBlank)

namespace Time

def yearText (year : Int) : List Char :=
  if 0 ≤ year ∧ year ≤ 9999 then fixed 10 4 year.toNat
  else
    let digits := Text.numeral 10 year.natAbs
    (if year < 0 then '-' else '+') :: (List.replicate (4 - digits.length) '0' ++ digits)

/-- The fraction of a second: milliseconds, microseconds or nanoseconds, or nothing for zero. -/
def fractionText (nanos : Nat) : List Char :=
  if nanos = 0 then []
  else if nanos % 1000000 = 0 then '.' :: fixed 10 3 (nanos / 1000000)
  else if nanos % 1000 = 0 then '.' :: fixed 10 6 (nanos / 1000)
  else '.' :: fixed 10 9 nanos

/-- The day since the start of the year 0 in which 1970 starts. -/
def epochDay : Int := 719528

/-- Date, time of day and the given spelling of the offset zero. -/
def textWith (zero : String) (t : Time) : String :=
  let date := Date.ofDay (t.seconds / 86400 + epochDay)
  let second := (t.seconds % 86400).toNat
  let leap := if t.inLeap then 1 else 0
  let day := yearText date.year ++ '-' :: fixed 10 2 date.month ++ '-' :: fixed 10 2 date.day
  let ofDay := fixed 10 2 (second / 3600) ++ ':' :: fixed 10 2 (second / 60 % 60) ++
    ':' :: fixed 10 2 (second % 60 + leap) ++ fractionText (t.nanos - leap * 1000000000)
  String.ofList (day ++ 'T' :: ofDay ++ zero.toList)

/-- The text that crosses the wire, with `Z`. -/
def wireText (t : Time) : String := t.textWith "Z"

/-- The text that the store keeps, with `+00:00`. -/
def storedText (t : Time) : String := t.textWith "+00:00"

/-- A local date and time of day as read, with the offset from UTC in seconds. -/
structure Fields where
  date : Date
  hour : Nat
  minute : Nat
  second : Nat
  nanos : Nat
  offset : Int

/-- The point in time that was meant; `none` if the calendar or the clock has no such fields. -/
def ofFields? (f : Fields) : Option Time :=
  if f.date.isValid ∧ f.hour < 24 ∧ f.minute < 60 ∧ f.second ≤ 60 ∧ f.offset.natAbs < 86400 then
    let leap := if f.second = 60 then 1 else 0
    let seconds := (f.date.toDay - epochDay) * 86400 + f.hour * 3600 + f.minute * 60 +
      (f.second - leap : Nat)
    if firstSecond ≤ seconds ∧ seconds ≤ lastSecond then
      ofParts? (seconds - f.offset) (f.nanos + leap * 1000000000)
    else none
  else none

/-- A fraction after its point: nine digits count, more are dropped. -/
def fraction? (cs : List Char) : Option (Nat × List Char) := do
  let (n, rest) ← digitRun? 1 9 cs
  let width := cs.length - rest.length
  some (n * Nat.pow 10 (9 - width), rest.dropWhile (Text.isDigitIn 10))

/-- An optional fraction. -/
def optionalFraction? : List Char → Option (Nat × List Char)
  | '.' :: cs => fraction? cs
  | cs => some (0, cs)

/-- The letter or blank between date and time of day. -/
def afterSeparator? : List Char → Option (List Char)
  | c :: rest => if c = 'T' ∨ c = 't' ∨ c = ' ' then some rest else none
  | [] => none

/-- An offset from UTC: `Z`, or a sign, two digits of hours, what `between` takes off, and two
digits of minutes. -/
def offset? (between : List Char → Option (List Char)) : List Char → Option (Int × List Char)
  | [] => none
  | c :: cs =>
    if c = 'Z' ∨ c = 'z' then some (0, cs)
    else if c = '+' ∨ c = '-' ∨ c = '−' then do
      let (hours, cs) ← digitRun? 2 2 cs
      let cs ← between cs
      let (minutes, cs) ← digitRun? 2 2 cs
      if 60 ≤ minutes then none
      else
        let size : Int := hours * 3600 + minutes * 60
        some (if c = '+' then size else -size, cs)
    else none

/-- Read RFC 3339 text of exact widths. -/
def ofExact? (s : String) : Option Time := do
  let (year, cs) ← digitRun? 4 4 s.toList
  let cs ← after? '-' cs
  let (month, cs) ← digitRun? 2 2 cs
  let cs ← after? '-' cs
  let (day, cs) ← digitRun? 2 2 cs
  let cs ← afterSeparator? cs
  let (hour, cs) ← digitRun? 2 2 cs
  let cs ← after? ':' cs
  let (minute, cs) ← digitRun? 2 2 cs
  let cs ← after? ':' cs
  let (second, cs) ← digitRun? 2 2 cs
  let (nanos, cs) ← optionalFraction? cs
  let (offset, cs) ← offset? (after? ':') cs
  if cs ≠ [] then none
  else ofFields? ⟨⟨year, month, day⟩, hour, minute, second, nanos, offset⟩

/-- A year: up to four digits, or a sign and any number of them. -/
def freeYear? : List Char → Option (Int × List Char)
  | '-' :: cs => (digitRun? 1 cs.length cs).map fun (n, rest) => (-n, rest)
  | '+' :: cs => (digitRun? 1 cs.length cs).map fun (n, rest) => (n, rest)
  | cs => (digitRun? 1 4 cs).map fun (n, rest) => (n, rest)

/-- One or two digits after any blanks. -/
def freeNumber? (cs : List Char) : Option (Nat × List Char) := digitRun? 1 2 (cs.dropWhile isBlank)

/-- A mark after any blanks. -/
def freeMark? (mark : Char) (cs : List Char) : Option (List Char) :=
  after? mark (cs.dropWhile isBlank)

/-- An offset as in the exact form, or `UTC`, or one with blanks, colons or nothing between hours
and minutes. -/
def freeOffset? (cs : List Char) : Option (Int × List Char) :=
  if (cs.take 3).map Char.toUpper = ['U', 'T', 'C'] then some (0, cs.drop 3)
  else offset? (fun cs => some (cs.dropWhile fun c => c == ':' || isBlank c)) cs

/-- Read a time written freely. -/
def ofFree? (s : String) : Option Time := do
  let (year, cs) ← freeYear? (s.toList.dropWhile isBlank)
  let cs ← freeMark? '-' cs
  let (month, cs) ← freeNumber? cs
  let cs ← freeMark? '-' cs
  let (day, cs) ← freeNumber? cs
  let cs ← afterSeparator? cs
  let (hour, cs) ← freeNumber? cs
  let cs ← freeMark? ':' cs
  let (minute, cs) ← freeNumber? cs
  let cs ← freeMark? ':' cs
  let (second, cs) ← freeNumber? cs
  let (nanos, cs) ← optionalFraction? cs
  let (offset, cs) ← freeOffset? (cs.dropWhile isBlank)
  if cs.any (fun c => !isBlank c) then none
  else ofFields? ⟨⟨year, month, day⟩, hour, minute, second, nanos, offset⟩

end Time

end Gatehouse
