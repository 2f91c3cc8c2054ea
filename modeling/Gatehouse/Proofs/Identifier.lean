import Gatehouse.Uuid

/-! # Ids read back

The text of an id is read as the id again, so no two ids have one text. Digits of a fixed width stand
for the number as far as the width reaches; the hyphens between the groups are put in and taken out.
-/

namespace Gatehouse

namespace Text

theorem digitValue_digitChar {d : Nat} (small : d < 16) : digitValue (Nat.digitChar d) = d := by
  revert d
  decide

theorem value_append_singleton (base : Nat) (cs : List Char) (c : Char) :
    value base (cs ++ [c]) = value base cs * base + digitValue c := by
  simp [value]

/-- Digits of a fixed width stand for the number up to the power of the width. -/
theorem value_fixed {base : Nat} (least : 0 < base) (most : base ≤ 16) (width n : Nat) :
    value base (fixed base width n) = n % Nat.pow base width := by
  induction width generalizing n with
  | zero => exact (Nat.mod_one n).symm
  | succ width ih =>
    have small : n % base < 16 := Nat.lt_of_lt_of_le (Nat.mod_lt n least) most
    have longer : Nat.pow base (width + 1) = base * Nat.pow base width := Nat.pow_succ'
    rw [fixed, value_append_singleton, ih, digitValue_digitChar small, longer, Nat.mod_mul,
      Nat.mul_comm, Nat.add_comm]

theorem all_isDigitIn_fixed {base : Nat} (least : 0 < base) (most : base ≤ 16) (width n : Nat) :
    (fixed base width n).all (isDigitIn base) = true := by
  induction width generalizing n with
  | zero => rfl
  | succ width ih =>
    have small : n % base < base := Nat.mod_lt n least
    simp [fixed, ih, isDigitIn, digitValue_digitChar (Nat.lt_of_lt_of_le small most), small]

theorem value?_fixed {base : Nat} (least : 0 < base) (most : base ≤ 16) {width : Nat}
    (some_width : width ≠ 0) (n : Nat) :
    value? base (fixed base width n) = some (n % Nat.pow base width) := by
  have nonempty : fixed base width n ≠ [] := by
    intro none_left
    apply some_width
    rw [← length_fixed base width n, none_left, List.length_nil]
  simp only [value?, nonempty, all_isDigitIn_fixed least most, value_fixed least most, ne_eq,
    not_false_eq_true, and_self, if_true]

end Text

namespace Uuid

theorem length_grouped {ds : List Char} (full : ds.length = 32) : (grouped ds).length = 36 := by
  simp [grouped, full]

private theorem ungrouped?_parts {a b c d e : List Char} (as : a.length = 8) (bs : b.length = 4)
    (cs : c.length = 4) (ds : d.length = 4) (es : e.length = 12) :
    ungrouped? (a ++ '-' :: (b ++ '-' :: (c ++ '-' :: (d ++ '-' :: e)))) =
      some (a ++ b ++ c ++ d ++ e) := by
  simp [ungrouped?, as, bs, cs, ds, es, List.getElem?_append, List.drop_append,
    List.drop_eq_nil_of_le]

/-- Hyphens that were put between the groups can be taken out again. -/
theorem ungrouped?_grouped {ds : List Char} (full : ds.length = 32) :
    ungrouped? (grouped ds) = some ds := by
  have step (n k : Nat) : (ds.drop n).take k ++ ds.drop (n + k) = ds.drop n := by
    rw [← List.drop_drop, List.take_append_drop]
  rw [grouped, ungrouped?_parts]
  · simp only [List.append_assoc]
    rw [step 16 4, step 12 4, step 8 4, List.take_append_drop]
  all_goals simp [full]

theorem ofDigits?_digits (u : Uuid) : ofDigits? u.digits = some u := by
  have full : u.digits.length = 32 := Text.length_fixed 16 32 _
  have bound : u.bits.toNat % Nat.pow 16 32 = u.bits.toNat := Nat.mod_eq_of_lt u.bits.isLt
  rw [ofDigits?, if_pos full, digits,
    Text.value?_fixed (by decide) (by decide) (by decide), bound, Option.map_some,
    BitVec.ofNat_toNat, BitVec.setWidth_eq]

/-- The text of an id is the id. -/
@[simp] theorem ofText?_text (u : Uuid) : ofText? u.text = some u := by
  have full : u.digits.length = 32 := Text.length_fixed 16 32 _
  -- the layout of bare digits is tried first, and the hyphens make the text too long for it
  have bare : ofDigits? (grouped u.digits) = none := by
    rw [ofDigits?, if_neg]
    rw [length_grouped full]
    decide
  have hyphens : ofGrouped? (grouped u.digits) = some u := by
    rw [ofGrouped?, ungrouped?_grouped full, Option.bind_some, ofDigits?_digits]
  simp only [ofText?, text, String.toList_ofList, bare, hyphens, Option.none_or, Option.some_or]

theorem text_inj {u v : Uuid} : u.text = v.text ↔ u = v := by
  constructor
  · intro same
    have read := congrArg ofText? same
    simpa using read
  · rintro rfl
    rfl

end Uuid

end Gatehouse
