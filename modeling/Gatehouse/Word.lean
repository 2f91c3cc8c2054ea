/-! # Signed 64-bit numbers

Permission masks and expiry times are signed 64-bit words. Numbers read from a text come as integers
and are taken only when they fit; they are never cut to size.
-/

namespace Gatehouse.Int64

/-- The word of an integer that fits into 64 bits with sign. -/
def ofInt? (n : Int) : Option Int64 :=
  if Int64.minValue.toInt ≤ n ∧ n ≤ Int64.maxValue.toInt then some (Int64.ofInt n) else none

theorem ofInt?_toInt (w : Int64) : ofInt? w.toInt = some w := by
  have low : Int64.minValue.toInt ≤ w.toInt := w.minValue_le_toInt
  have high : w.toInt ≤ Int64.maxValue.toInt := w.toInt_le
  rw [ofInt?, if_pos ⟨low, high⟩, Int64.ofInt_toInt]

end Gatehouse.Int64
