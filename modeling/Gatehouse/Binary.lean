/-! # Binary numbers of limited precision

A binary number is a natural number times a power of two. One with too many bits is rounded to the
nearest that has few enough; of two that are equally near, to the one with an even last bit.
-/

namespace Gatehouse

/-- The number `mantissa · 2 ^ exponent`. -/
structure Binary where
  mantissa : Nat
  exponent : Int
deriving DecidableEq, Repr

namespace Binary

/-- The bits of a double. -/
def doubleBits : Nat := 53

/-- The bits of a number while it is computed. -/
def extendedBits : Nat := 64

/-- The nearest number with at most so many bits. -/
def round (bits : Nat) (x : Binary) : Binary :=
  let surplus := x.mantissa.log2 + 1 - bits
  let unit := 1 <<< surplus
  let kept := x.mantissa / unit
  let rest := x.mantissa % unit
  let up := unit < 2 * rest ∨ unit = 2 * rest ∧ kept % 2 = 1
  ⟨if up then kept + 1 else kept, x.exponent + surplus⟩

/-- The rounded number of a natural number. -/
def ofNat (bits n : Nat) : Binary := round bits ⟨n, 0⟩

/-- The rounded product. -/
def mul (bits : Nat) (x y : Binary) : Binary :=
  round bits ⟨x.mantissa * y.mantissa, x.exponent + y.exponent⟩

/-- The rounded quotient of two natural numbers. Three bits more than needed are computed, and one
behind them says whether anything follows. -/
def ofRatio (bits numerator denominator : Nat) : Binary :=
  let shift := denominator.log2 + bits + 3
  let scaled := numerator <<< shift
  let sticky := if scaled % denominator = 0 then 0 else 1
  round bits ⟨2 * (scaled / denominator) + sticky, -(shift + 1)⟩

/-- The natural number that it is, if it has no fraction. -/
def whole? (x : Binary) : Option Nat :=
  if 0 ≤ x.exponent then some (x.mantissa <<< x.exponent.toNat)
  else
    let unit := 1 <<< x.exponent.natAbs
    if x.mantissa % unit = 0 then some (x.mantissa / unit) else none

/-- The number divided by a power of ten, by one factor for each hundred, each ten and each one of
the places, all rounded. -/
def scaleDown (bits places : Nat) (x : Binary) : Binary :=
  let steps := List.replicate (places / 100) 100 ++ List.replicate (places % 100 / 10) 10 ++
    List.replicate (places % 10) 1
  steps.foldl (fun x tens => x.mul bits (ofRatio bits 1 (Nat.pow 10 tens))) x

/-- Whether it is no more than half of the least double above zero, so that it becomes zero. -/
def vanishes (x : Binary) : Bool :=
  x.mantissa = 0 ||
    x.exponent ≤ -1075 && x.mantissa ≤ 1 <<< (-1075 - x.exponent).toNat

/-- Whether it is too small to be the power of two that follows the largest double. -/
def isFinite (x : Binary) : Bool := x.mantissa < 1 <<< (1024 - x.exponent).toNat

end Binary

end Gatehouse
