import Gatehouse.Proofs.Identifier

/-! # Numerals read back

The numeral of a number stands for that number in its base. It has only digits, at least one, and it
starts with a zero only if it is the zero.
-/

namespace Gatehouse.Text

variable {base : Nat}

theorem numeral_ne_nil (base n : Nat) : numeral base n ≠ [] := by
  rw [numeral]
  split <;> simp

theorem value_numeral (least : 2 ≤ base) (most : base ≤ 16) (n : Nat) :
    value base (numeral base n) = n := by
  induction n using Nat.strongRecOn with
  | ind n ih =>
    rw [numeral]
    split
    · next small =>
      have digit : n < 16 := by omega
      simp [value, digitValue_digitChar digit]
    · next large =>
      have digit : n % base < 16 := Nat.lt_of_lt_of_le (Nat.mod_lt n (by omega)) most
      have shorter : n / base < n := Nat.div_lt_self (by omega) (by omega)
      rw [value_append_singleton, ih _ shorter, digitValue_digitChar digit, Nat.mul_comm]
      exact Nat.div_add_mod n base

theorem all_isDigitIn_numeral (least : 2 ≤ base) (most : base ≤ 16) (n : Nat) :
    (numeral base n).all (isDigitIn base) = true := by
  induction n using Nat.strongRecOn with
  | ind n ih =>
    rw [numeral]
    split
    · next small =>
      have digit : n < base := by omega
      simp [isDigitIn, digitValue_digitChar (Nat.lt_of_lt_of_le digit most), digit]
    · next large =>
      have digit : n % base < base := Nat.mod_lt n (by omega)
      have shorter : n / base < n := Nat.div_lt_self (by omega) (by omega)
      simp [ih _ shorter, isDigitIn, digitValue_digitChar (Nat.lt_of_lt_of_le digit most), digit]

/-- The numeral of zero is the only one that starts with a zero. -/
theorem eq_zero_of_numeral (least : 2 ≤ base) (most : base ≤ 16) {n : Nat} {more : List Char}
    (starts : numeral base n = '0' :: more) : n = 0 ∧ more = [] := by
  induction n using Nat.strongRecOn generalizing more with
  | ind n ih =>
    rw [numeral] at starts
    split at starts
    · next small =>
      obtain ⟨zero, rfl⟩ := List.cons.inj starts
      have digit : n < 16 := by omega
      have nothing := digitValue_digitChar digit
      rw [zero] at nothing
      exact ⟨nothing.symm, rfl⟩
    · next large =>
      obtain ⟨first, digits, front⟩ := List.exists_cons_of_ne_nil (numeral_ne_nil base (n / base))
      rw [front, List.cons_append] at starts
      obtain ⟨rfl, -⟩ := List.cons.inj starts
      have none_left := (ih _ (Nat.div_lt_self (by omega) (by omega)) front).1
      have some_left : 1 ≤ n / base := (Nat.one_le_div_iff (by omega)).mpr (by omega)
      omega

/-- Digits start with a digit, if there are any. -/
theorem exists_digit_cons {cs : List Char} (some_digit : cs ≠ [])
    (digits : cs.all (isDigitIn base) = true) :
    ∃ d ds, cs = d :: ds ∧ isDigitIn base d = true := by
  obtain ⟨d, ds, rfl⟩ := List.exists_cons_of_ne_nil some_digit
  rw [List.all_cons, Bool.and_eq_true] at digits
  exact ⟨d, ds, rfl, digits.1⟩

/-- A numeral is read as its number. -/
theorem value?_numeral (least : 2 ≤ base) (most : base ≤ 16) (n : Nat) :
    value? base (numeral base n) = some n := by
  rw [value?, if_pos ⟨numeral_ne_nil base n, all_isDigitIn_numeral least most n⟩,
    value_numeral least most]

end Gatehouse.Text
