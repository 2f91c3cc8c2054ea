import Gatehouse.Text.Blank

/-! # The order of texts

Texts are compared character by character, and a database compares them byte by byte. That is the same
order: the bytes of a character with a greater number are greater, and differ before either of them
ends. A character has a leading byte, which is the greater the more bytes there are, and up to three
more bytes with six bits each.
-/

namespace Gatehouse.Text

/-- The bytes of a text in UTF-8. -/
def bytes (s : String) : List UInt8 := s.toUTF8.data.toList

private theorem bytes_eq (s : String) : bytes s = s.toList.flatMap String.utf8EncodeChar := by
  rw [bytes, String.toUTF8_eq_toByteArray, ← String.utf8Encode_toList, List.utf8Encode,
    List.toList_data_toByteArray]

/-- Behind the same front, the rest decides. -/
theorem append_lt_append_iff {α : Type} [LT α] [Std.Irrefl (· < · : α → α → Prop)]
    (front : List α) {x y : List α} : front ++ x < front ++ y ↔ x < y := by
  induction front with
  | nil => rfl
  | cons a front ih => rw [List.cons_append, List.cons_append, List.cons_lt_cons_self, ih]

/-- The last bytes of a character, with six bits in each. -/
def sextets : (count : Nat) → Nat → List UInt8
  | 0, _ => []
  | count + 1, n => sextets count (n / 64) ++ [UInt8.ofNat (n % 64 + 128)]

/-- What is left for the leading byte. -/
def lead : (count : Nat) → Nat → Nat
  | 0, n => n
  | count + 1, n => lead count (n / 64)

/-- Behind the same leading byte the sextets decide. -/
theorem sextets_lt {count m n : Nat} (less : m < n) (same : lead count m = lead count n)
    (x y : List UInt8) : sextets count m ++ x < sextets count n ++ y := by
  induction count generalizing m n x y with
  | zero => exact absurd same (Nat.ne_of_lt less)
  | succ count ih =>
    simp only [sextets, List.append_assoc, List.singleton_append]
    by_cases high : m / 64 < n / 64
    · exact ih high same _ _
    · have front : m / 64 = n / 64 := by omega
      rw [front, append_lt_append_iff, List.cons_lt_cons_iff]
      left
      rw [UInt8.lt_iff_toNat_lt, UInt8.toNat_ofNat', UInt8.toNat_ofNat']
      omega

/-- A character has the more bytes the greater it is, with another range of leading bytes for each
number of bytes. -/
theorem exists_sextets (c : Char) : ∃ count first,
    String.utf8EncodeChar c = first :: sextets count c.toNat ∧
      (count = 0 ∧ first.toNat = lead 0 c.toNat ∧ c.toNat < 128 ∨
        count = 1 ∧ first.toNat = lead 1 c.toNat + 192 ∧ 128 ≤ c.toNat ∧ c.toNat < 2048 ∨
        count = 2 ∧ first.toNat = lead 2 c.toNat + 224 ∧ 2048 ≤ c.toNat ∧ c.toNat < 65536 ∨
        count = 3 ∧ first.toNat = lead 3 c.toNat + 240 ∧ 65536 ≤ c.toNat) := by
  have most : c.val.toNat < 1114112 := by
    have valid := c.valid
    simp only [UInt32.isValidChar, Nat.isValidChar] at valid
    omega
  have number : c.toNat = c.val.toNat := rfl
  rw [number]
  unfold String.utf8EncodeChar
  generalize c.val.toNat = n at most ⊢
  dsimp only
  split
  · refine ⟨0, UInt8.ofNat n, rfl, .inl ⟨rfl, ?_⟩⟩
    rw [UInt8.toNat_ofNat', lead]
    omega
  · split
    · refine ⟨1, UInt8.ofNat (n / 64 % 32 + 192), rfl, .inr (.inl ⟨rfl, ?_⟩)⟩
      rw [UInt8.toNat_ofNat', lead, lead]
      omega
    · split
      · refine ⟨2, UInt8.ofNat (n / 4096 % 16 + 224), ?_, .inr (.inr (.inl ⟨rfl, ?_⟩))⟩
        · rfl
        · rw [UInt8.toNat_ofNat', lead, lead, lead]
          omega
      · refine ⟨3, UInt8.ofNat (n / 262144 % 8 + 240), ?_, .inr (.inr (.inr ⟨rfl, ?_⟩))⟩
        · simp only [sextets, Nat.div_div_eq_div_mul]
          rfl
        · rw [UInt8.toNat_ofNat', lead, lead, lead, lead]
          omega

private theorem lead_le {count m n : Nat} (le : m ≤ n) : lead count m ≤ lead count n := by
  induction count generalizing m n with
  | zero => exact le
  | succ count ih => exact ih (Nat.div_le_div_right le)

/-- The bytes of a smaller character are smaller, whatever follows. -/
theorem utf8EncodeChar_lt {c d : Char} (less : c < d) (x y : List UInt8) :
    String.utf8EncodeChar c ++ x < String.utf8EncodeChar d ++ y := by
  have number : c.toNat < d.toNat := less
  obtain ⟨count, first, encoded, size⟩ := exists_sextets c
  obtain ⟨count', first', encoded', size'⟩ := exists_sextets d
  rw [encoded, encoded', List.cons_append, List.cons_append, List.cons_lt_cons_iff,
    UInt8.lt_iff_toNat_lt, ← UInt8.toNat_inj]
  by_cases more : count = count'
  · subst more
    have leads : lead count c.toNat ≤ lead count d.toNat := lead_le (Nat.le_of_lt number)
    by_cases same : lead count c.toNat = lead count d.toNat
    · right
      refine ⟨?_, sextets_lt number same x y⟩
      rcases size with ⟨rfl, size⟩ | ⟨rfl, size⟩ | ⟨rfl, size⟩ | ⟨rfl, size⟩ <;> omega
    · left
      rcases size with ⟨rfl, size⟩ | ⟨rfl, size⟩ | ⟨rfl, size⟩ | ⟨rfl, size⟩ <;> omega
  · -- fewer bytes, and a leading byte from a lower range
    left
    simp only [lead] at size size'
    omega

private theorem flatMap_utf8EncodeChar_lt {cs ds : List Char} (less : cs < ds) :
    cs.flatMap String.utf8EncodeChar < ds.flatMap String.utf8EncodeChar := by
  induction cs generalizing ds with
  | nil =>
    cases ds with
    | nil => cases less
    | cons d ds =>
      rw [List.flatMap_nil, List.flatMap_cons]
      obtain ⟨count, first, encoded, -⟩ := exists_sextets d
      rw [encoded, List.cons_append]
      exact List.nil_lt_cons ..
  | cons c cs ih =>
    cases ds with
    | nil => cases less
    | cons d ds =>
      rw [List.flatMap_cons, List.flatMap_cons]
      rcases List.cons_lt_cons_iff.mp less with lower | ⟨rfl, later⟩
      · exact utf8EncodeChar_lt lower _ _
      · exact (append_lt_append_iff _).mpr (ih later)

/-- Texts are ordered as their bytes are. -/
theorem bytes_lt_iff {s t : String} : bytes s < bytes t ↔ s < t := by
  have forward {s t : String} (less : s < t) : bytes s < bytes t := by
    rw [bytes_eq, bytes_eq]
    exact flatMap_utf8EncodeChar_lt less
  refine ⟨fun less => ?_, forward⟩
  rcases Std.lt_trichotomy s t with below | rfl | above
  · exact below
  · exact (List.lt_irrefl _ less).elim
  · exact (List.lt_asymm less (forward above)).elim

theorem bytes_le_iff {s t : String} : bytes s ≤ bytes t ↔ s ≤ t := by
  rw [← List.not_lt, bytes_lt_iff, String.not_lt]

end Gatehouse.Text
