import Gatehouse.Text.Numeral

/-! # Socket addresses

An address to listen on: a host of 32 or 128 bits, and a number of 16 bits after a colon. Hosts of
32 bits are written as four decimal octets. Hosts of 128 bits are written in brackets as eight
hexadecimal groups, of which the first longest run of at least two zeros is left out, and as octets
at the end if they are mapped from a host of 32 bits; a zone follows after a percent sign unless it
is zero. The reader also takes octets in place of the last two groups of any such host, and runs of
zeros left out elsewhere.
-/

namespace Gatehouse.Service

inductive Host where
  | octets (bits : BitVec 32)
  | groups (bits : BitVec 128) (zone : UInt32)
deriving DecidableEq, Repr

structure SocketAddress where
  host : Host
  number : UInt16
deriving DecidableEq, Repr

namespace SocketAddress

open Text (after?)

/-- Equal parts of a word, the most significant first. -/
def parts (count width n : Nat) : List Nat :=
  (List.range count).map fun i => (n >>> (width * (count - 1 - i))) % (1 <<< width)

def octetText (n : Nat) : String := ".".intercalate ((parts 4 8 n).map Text.decimal)

def groupText (groups : List Nat) : String :=
  ":".intercalate (groups.map fun g => String.ofList (Text.numeral 16 g))

/-- The length of the longest run of zeros. -/
def longestRun : (current longest : Nat) → List Nat → Nat
  | _, longest, [] => longest
  | current, longest, g :: rest =>
    if g = 0 then longestRun (current + 1) (max longest (current + 1)) rest
    else longestRun 0 longest rest

/-- What stands before and after the first run of zeros of a length. -/
def splitRun (length : Nat) : List Nat → List Nat × List Nat
  | [] => ([], [])
  | g :: rest =>
    if (g :: rest).take length = List.replicate length 0 then ([], (g :: rest).drop length)
    else
      let (before, after) := splitRun length rest
      (g :: before, after)

def hostText : Host → String
  | .octets bits => octetText bits.toNat
  | .groups bits zone =>
    let groups := parts 8 16 bits.toNat
    let body :=
      if groups.take 6 = [0, 0, 0, 0, 0, 0xFFFF] then
        "::ffff:" ++ octetText (bits.toNat % UInt32.size)
      else
        let run := longestRun 0 0 groups
        if 2 ≤ run then
          let (before, after) := splitRun run groups
          groupText before ++ "::" ++ groupText after
        else groupText groups
    "[" ++ body ++ (if zone = 0 then "" else "%" ++ Text.decimal zone.toNat) ++ "]"

def text (a : SocketAddress) : String := hostText a.host ++ ":" ++ Text.decimal a.number.toNat

/-- Digits of a base, at most `most` if that is given. Where `padded` is false, a number other than
zero may not start with a zero. -/
def number? (base : Nat) (most : Option Nat) (padded : Bool) (cs : List Char) :
    Option (Nat × List Char) :=
  let digits := cs.takeWhile (Text.isDigitIn base)
  if digits = [] ∨ most.any (· < digits.length) then none
  else if !padded ∧ digits.head? = some '0' ∧ 1 < digits.length then none
  else some (Text.value base digits, cs.drop digits.length)

/-- Decimal octets with points between them. -/
def octets? : (count : Nat) → List Char → Option (List Nat × List Char)
  | 0, cs => some ([], cs)
  | count + 1, cs => do
    let (octet, cs) ← number? 10 (some 3) false cs
    if 256 ≤ octet then none
    let cs ← if count = 0 then some cs else after? '.' cs
    let (more, cs) ← octets? count cs
    some (octet :: more, cs)

/-- The number of parts of equal width. -/
def joinParts (width : Nat) (ns : List Nat) : Nat :=
  ns.foldl (fun n part => (n <<< width) + part) 0

/-- As many groups as there are, up to `limit`, each but the first after a colon; whether octets
made the last two of them; and what follows. -/
def groups : (limit : Nat) → (first : Bool) → List Char → List Nat × Bool × List Char
  | 0, _, cs => ([], false, cs)
  | limit + 1, first, cs =>
    let start := if first then some cs else after? ':' cs
    match if limit = 0 then none else start.bind (octets? 4) with
    | some (octets, rest) => (parts 2 16 (joinParts 8 octets), true, rest)
    | none =>
      match start.bind (number? 16 (some 4) true) with
      | some (group, rest) =>
        let (more, octets, rest) := groups limit false rest
        (group :: more, octets, rest)
      | none => ([], false, cs)

/-- Eight groups, of which a run of zeros may be left out between two colons. -/
def eightGroups? (cs : List Char) : Option (List Nat × List Char) :=
  let (head, octets, rest) := groups 8 true cs
  if head.length = 8 then some (head, rest)
  else if octets then none
  else do
    let rest ← after? ':' rest
    let rest ← after? ':' rest
    let (tail, _, rest) := groups (7 - head.length) true rest
    some (head ++ List.replicate (8 - head.length - tail.length) 0 ++ tail, rest)

/-- A zone after a percent sign, or else zero. -/
def zone (cs : List Char) : Nat × List Char :=
  let found := (after? '%' cs).bind (number? 10 none true)
  match found with
  | some (n, rest) => if n < UInt32.size then (n, rest) else (0, cs)
  | none => (0, cs)

def host? (cs : List Char) : Option (Host × List Char) :=
  match octets? 4 cs with
  | some (octets, rest) => some (.octets (BitVec.ofNat 32 (joinParts 8 octets)), rest)
  | none => do
    let cs ← after? '[' cs
    let (groups, cs) ← eightGroups? cs
    let (zone, cs) := zone cs
    let cs ← after? ']' cs
    some (.groups (BitVec.ofNat 128 (joinParts 16 groups)) (UInt32.ofNat zone), cs)

/-- Read an address; nothing may follow it. -/
def ofText? (s : String) : Option SocketAddress := do
  let (host, cs) ← host? s.toList
  let cs ← after? ':' cs
  let (n, cs) ← number? 10 none true cs
  if n < UInt16.size ∧ cs = [] then some ⟨host, UInt16.ofNat n⟩ else none

end SocketAddress

end Gatehouse.Service
