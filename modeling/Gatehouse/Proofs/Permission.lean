import Gatehouse.Record

/-! # Unions of masks

A word is a set of bits, and to collect masks is to unite such sets. Bits without a name are dropped
from server masks and from subscription masks, and whether that happens before or after the union
makes no difference. So what is collected depends only on which masks there are, not on their order
or number, and a flag is held as soon as each of its bits is in some mask.
-/

namespace Gatehouse

namespace Flags

/-- Whether a word has the bit with this number. -/
def bit (word : Int64) (i : Nat) : Bool := word.toBitVec.getLsbD i

theorem bit_ext {word word' : Int64} (same : ∀ i, bit word i = bit word' i) : word = word' :=
  Int64.toBitVec_inj.mp (BitVec.eq_of_getLsbD_eq fun i _ => same i)

@[simp] theorem bit_zero (i : Nat) : bit 0 i = false := BitVec.getLsbD_zero

@[simp] theorem bit_or (a b : Int64) (i : Nat) : bit (a ||| b) i = (bit a i || bit b i) := by
  simp only [bit, Int64.toBitVec_or, BitVec.getLsbD_or]

@[simp] theorem bit_and (a b : Int64) (i : Nat) : bit (a &&& b) i = (bit a i && bit b i) := by
  simp only [bit, Int64.toBitVec_and, BitVec.getLsbD_and]

/-- The bits of the named flags of server masks. -/
theorem bit_seven (i : Nat) : bit 7 i = decide (i < 3) := Nat.testBit_two_pow_sub_one 3 i

/-- The bit of the named flag of subscription masks. -/
theorem bit_one (i : Nat) : bit 1 i = decide (i = 0) := by
  rw [← decide_eq_decide.mpr (Nat.lt_one_iff (n := i))]
  exact Nat.testBit_two_pow_sub_one 1 i

theorem contains_iff_bits {word asked : Int64} :
    contains word asked = true ↔ ∀ i, bit asked i = true → bit word i = true := by
  simp only [contains, beq_iff_eq]
  constructor
  · intro held i set
    rw [← held, bit_and, Bool.and_eq_true] at set
    exact set.1
  · intro each
    refine bit_ext fun i => ?_
    rw [bit_and, Bool.and_eq_right_iff_imp]
    exact each i

theorem contains_trans {a b c : Int64} (more : contains a b = true) (some : contains b c = true) :
    contains a c = true := by
  rw [contains_iff_bits] at more some ⊢
  exact fun i set => more i (some i set)

/-- Words that agree on the bits of a frame contain the same of what is asked within the frame. -/
theorem contains_congr {word word' frame asked : Int64}
    (agree : word &&& frame = word' &&& frame) (framed : asked &&& frame = asked) :
    contains word asked = contains word' asked := by
  have cut (w : Int64) : w &&& asked = (w &&& frame) &&& asked := by
    rw [Int64.and_assoc, Int64.and_comm frame, framed]
  simp only [contains, cut word, cut word', agree]

/-- A word cut to some bits contains what is asked if all of it is in the word and among these bits.
-/
theorem contains_and_iff (word k asked : Int64) :
    contains (word &&& k) asked = true ↔ asked &&& k = asked ∧ word &&& asked = asked := by
  simp only [contains, beq_iff_eq]
  constructor
  · intro held
    have both : word &&& (k &&& asked) = asked := by rw [← Int64.and_assoc]; exact held
    have named : asked &&& k = asked := by
      rw [← both]
      simp only [Int64.and_assoc, Int64.and_comm k, Int64.and_self]
    refine ⟨named, ?_⟩
    rwa [Int64.and_comm k, named] at both
  · rintro ⟨named, held⟩
    rw [Int64.and_assoc, Int64.and_comm k, named, held]

/-- The union of words has the bits that any of them has. -/
theorem bit_foldl {α : Type} (word : α → Int64) (start : Int64) (items : List α) (i : Nat) :
    bit (items.foldl (fun bits a => bits ||| word a) start) i =
      (bit start i || items.any fun a => bit (word a) i) := by
  induction items generalizing start with
  | nil => simp
  | cons a rest ih => rw [List.foldl_cons, ih, bit_or, List.any_cons, Bool.or_assoc]

/-- A union contains another one if for each word of that one it has a word that contains it. -/
theorem contains_foldl {α : Type} (word : α → Int64) {items items' : List α}
    (each : ∀ a ∈ items, ∃ a' ∈ items', contains (word a') (word a) = true) :
    contains (items'.foldl (fun bits a => bits ||| word a) 0)
      (items.foldl (fun bits a => bits ||| word a) 0) = true := by
  refine contains_iff_bits.mpr fun i set => ?_
  rw [bit_foldl, Bool.or_eq_true, List.any_eq_true] at set ⊢
  refine set.imp_right fun ⟨a, there, set⟩ => ?_
  obtain ⟨a', there', more⟩ := each a there
  exact ⟨a', there', contains_iff_bits.mp more i set⟩

private theorem or_and_right (a b k : Int64) : a &&& k ||| b &&& k = (a ||| b) &&& k :=
  Int64.toBitVec_inj.mp BitVec.and_or_distrib_right.symm

/-- To cut every word to some bits and to cut their union to them is the same. -/
theorem foldl_or_and {α : Type} (word : α → Int64) (k start : Int64) (items : List α) :
    items.foldl (fun bits a => bits ||| word a &&& k) (start &&& k) =
      items.foldl (fun bits a => bits ||| word a) start &&& k := by
  induction items generalizing start with
  | nil => rfl
  | cons a rest ih =>
    simp only [List.foldl_cons]
    rw [or_and_right, ih]

/-- All bits that any of the words has. -/
def union (words : List Int64) : Int64 := words.foldl (· ||| ·) 0

theorem bit_union_map {α : Type} (word : α → Int64) (items : List α) (i : Nat) :
    bit (union (items.map word)) i = true ↔ ∃ a ∈ items, bit (word a) i = true := by
  rw [union, List.foldl_map, bit_foldl, bit_zero, Bool.false_or, List.any_eq_true]

end Flags

namespace PermissionMask

open Flags (bit)

/-- What unions unite is united over all masks. -/
theorem foldl_union {f : PermissionMask → Int64} (unites : ∀ a b, f (a.union b) = f a ||| f b)
    (masks : List PermissionMask) (start : PermissionMask) :
    f (masks.foldl union start) = masks.foldl (fun bits mask => bits ||| f mask) (f start) := by
  induction masks generalizing start with
  | nil => rfl
  | cons mask rest ih => rw [List.foldl_cons, List.foldl_cons, ih, unites]

section Stored

variable {α : Type} (server channel sub : α → Int64) (items : List α)

/-- The collected server flags are the named bits of all stored server masks. -/
theorem collect_ofStored_server :
    (collect (items.map fun a => ofStored (server a) (channel a) (sub a))).server.bits =
      items.foldl (fun bits a => bits ||| server a) 0 &&& 7 := by
  rw [collect, foldl_union (f := (·.server.bits)) (fun _ _ => rfl), List.foldl_map]
  exact Flags.foldl_or_and server 7 0 items

/-- The collected subscription flags are the named bits of all stored masks for these. -/
theorem collect_ofStored_sub :
    (collect (items.map fun a => ofStored (server a) (channel a) (sub a))).sub.bits =
      items.foldl (fun bits a => bits ||| sub a) 0 &&& 1 := by
  rw [collect, foldl_union (f := (·.sub.bits)) (fun _ _ => rfl), List.foldl_map]
  exact Flags.foldl_or_and sub 1 0 items

/-- The collected channel bits are kept whole. -/
theorem collect_ofStored_channel :
    (collect (items.map fun a => ofStored (server a) (channel a) (sub a))).channel =
      items.foldl (fun bits a => bits ||| channel a) 0 := by
  rw [collect, foldl_union (f := (·.channel)) (fun _ _ => rfl), List.foldl_map]
  rfl

end Stored

/-- The server flags of all roles together are the named bits of all their server masks. -/
theorem collect_server (roles : List Role) :
    (collect (roles.map RoleRow.mask)).server.bits =
      roles.foldl (fun bits role => bits ||| role.serverMask) 0 &&& 7 :=
  collect_ofStored_server RoleRow.serverMask RoleRow.channelMask RoleRow.subMask roles

/-- The subscription flags of all roles together are the named bits of all their masks for these. -/
theorem collect_sub (roles : List Role) :
    (collect (roles.map RoleRow.mask)).sub.bits =
      roles.foldl (fun bits role => bits ||| role.subMask) 0 &&& 1 :=
  collect_ofStored_sub RoleRow.serverMask RoleRow.channelMask RoleRow.subMask roles

/-- The channel bits of all roles together are kept whole. -/
theorem collect_channel (roles : List Role) :
    (collect (roles.map RoleRow.mask)).channel =
      roles.foldl (fun bits role => bits ||| role.channelMask) 0 :=
  collect_ofStored_channel RoleRow.serverMask RoleRow.channelMask RoleRow.subMask roles

/-- What is permitted by masks that are stored as words for servers, channels and subscriptions. -/
def ofAllStored (words : List (Int64 × Int64 × Int64)) : PermissionMask :=
  collect (words.map fun w => ofStored w.1 w.2.1 w.2.2)

private theorem ofAllStored_eq (words : List (Int64 × Int64 × Int64)) :
    ofAllStored words = ⟨⟨Flags.union (words.map (·.1)) &&& 7⟩, Flags.union (words.map (·.2.1)),
      ⟨Flags.union (words.map (·.2.2)) &&& 1⟩⟩ := by
  have server := collect_ofStored_server (·.1) (·.2.1) (·.2.2) words
  have channel := collect_ofStored_channel (·.1) (·.2.1) (·.2.2) words
  have sub := collect_ofStored_sub (·.1) (·.2.1) (·.2.2) words
  simp only [Flags.union, List.foldl_map, ← server, ← channel, ← sub]
  rfl

/-- Masks are collected by uniting their words. The bits without a name are dropped from the union
of the server masks and from that of the subscription masks. So the order and the number of the masks
make no difference, and masks can be collected in parts. A flag is held exactly if each of its bits
has a name and is in some mask; the bits may be in different ones. -/
theorem masks_unite (words : List (Int64 × Int64 × Int64)) :
    let mask := ofAllStored words
    mask.server.bits = Flags.union (words.map (·.1)) &&& 7 ∧
    mask.channel = Flags.union (words.map (·.2.1)) ∧
    mask.sub.bits = Flags.union (words.map (·.2.2)) &&& 1 ∧
    (∀ words', (∀ w, w ∈ words' ↔ w ∈ words) → ofAllStored words' = mask) ∧
    (∀ words', ofAllStored (words ++ words') = mask.union (ofAllStored words')) ∧
    (∀ asked : ServerFlags, mask.hasServer asked = true ↔
      ∀ i, bit asked.bits i = true → i < 3 ∧ ∃ w ∈ words, bit w.1 i = true) ∧
    ∀ asked : SubFlags, mask.hasSub asked = true ↔
      ∀ i, bit asked.bits i = true → i = 0 ∧ ∃ w ∈ words, bit w.2.2 i = true := by
  intro mask
  have parts : mask = _ := ofAllStored_eq words
  refine ⟨by rw [parts], by rw [parts], by rw [parts], fun words' same => ?_, fun words' => ?_,
    fun asked => ?_, fun asked => ?_⟩
  · have united (word : Int64 × Int64 × Int64 → Int64) :
        Flags.union (words'.map word) = Flags.union (words.map word) := by
      refine Flags.bit_ext fun i => Bool.eq_iff_iff.mpr ?_
      simp only [Flags.bit_union_map, same]
    rw [parts, ofAllStored_eq, united, united, united]
  · have joined (word : Int64 × Int64 × Int64 → Int64) : Flags.union ((words ++ words').map word) =
        Flags.union (words.map word) ||| Flags.union (words'.map word) := by
      refine Flags.bit_ext fun i => Bool.eq_iff_iff.mpr ?_
      simp only [Flags.bit_or, Bool.or_eq_true, Flags.bit_union_map, List.mem_append, or_and_right,
        exists_or]
    rw [parts, ofAllStored_eq, ofAllStored_eq, joined, joined, joined, union,
      Flags.or_and_right, Flags.or_and_right]
  · rw [hasServer, ServerFlags.contains, Flags.contains_iff_bits, parts]
    simp only [Flags.bit_and, Flags.bit_seven, Bool.and_eq_true, Flags.bit_union_map,
      decide_eq_true_eq, and_comm]
  · rw [hasSub, SubFlags.contains, Flags.contains_iff_bits, parts]
    simp only [Flags.bit_and, Flags.bit_one, Bool.and_eq_true, Flags.bit_union_map,
      decide_eq_true_eq, and_comm]

end PermissionMask

end Gatehouse
