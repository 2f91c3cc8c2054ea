import Gatehouse.Proofs.Numerals
import Gatehouse.Proofs.Permission
import Gatehouse.Proofs.Spelling

/-! # Flags read back from their names

The text of a word is the names of its flags and, for the bits without a name, a hexadecimal word,
joined by bars. The bits between the bars unite to the word. But the hexadecimal word is written
without a sign and read with one: if the highest bit is set, the number that is written is too large
to be read. So a word is read back from its text exactly if it is not negative.
-/

namespace Gatehouse.Flags

open Text (Tight trimChars isBlank)

/-- Neither a bar nor a blank. -/
def isPlain (c : Char) : Bool := c != '|' && !isBlank c

/-- A text that stands for itself between bars: something is there, without a bar or a blank. -/
structure Token (cs : List Char) : Prop where
  ne_nil : cs ≠ []
  plain : cs.all isPlain = true

private theorem Token.of_mem {cs : List Char} (token : Token cs) {c : Char} (there : c ∈ cs) :
    c ≠ '|' ∧ isBlank c = false := by
  simpa [isPlain] using List.all_eq_true.mp token.plain c there

theorem Token.tight {cs : List Char} (token : Token cs) : Tight cs where
  head _ first := (token.of_mem (List.mem_of_head? first)).2
  last _ last := (token.of_mem (List.mem_of_getLast? last)).2

private theorem pieces_cons (c : Char) (cs : List Char) :
    ∃ piece more, pieces cs = piece :: more ∧
      pieces (c :: cs) = if c = '|' then [] :: piece :: more else (c :: piece) :: more := by
  cases split : pieces cs with
  | nil =>
    cases cs with
    | nil => cases split
    | cons d cs =>
      rw [pieces] at split
      split at split
      · cases split
      · split at split <;> cases split
  | cons piece more => exact ⟨piece, more, rfl, by rw [pieces, split]⟩

private theorem pieces_single {cs : List Char} (noBar : ∀ c ∈ cs, c ≠ '|') : pieces cs = [cs] := by
  induction cs with
  | nil => rfl
  | cons c cs ih =>
    obtain ⟨here, later⟩ := List.forall_mem_cons.mp noBar
    rw [pieces, ih later]
    exact if_neg here

private theorem pieces_append {cs : List Char} (noBar : ∀ c ∈ cs, c ≠ '|') (rest : List Char) :
    pieces (cs ++ '|' :: rest) = cs :: pieces rest := by
  induction cs with
  | nil =>
    obtain ⟨piece, more, split, joined⟩ := pieces_cons '|' rest
    rw [List.nil_append, joined, if_pos rfl, split]
  | cons c cs ih =>
    obtain ⟨here, later⟩ := List.forall_mem_cons.mp noBar
    rw [List.cons_append, pieces, ih later]
    exact if_neg here

/-- Blanks around a token are cut off. -/
theorem Token.trimChars_eq {token lead after : List Char} (plain : Token token)
    (blank : ∀ c ∈ lead, isBlank c = true) (blank' : ∀ c ∈ after, isBlank c = true) :
    trimChars (lead ++ token ++ after) = token := by
  have padded : Text.Padded token (lead ++ token ++ after) := ⟨lead, after, rfl, blank, blank'⟩
  rw [padded.trimChars_eq, plain.tight.trimChars]

/-- Tokens that are joined by bars, with blanks around these, are the pieces between the bars. -/
theorem pieces_intercalate {tokens : List (List Char)} (some_token : tokens ≠ [])
    (each : ∀ token ∈ tokens, Token token) {lead : List Char}
    (leading : ∀ c ∈ lead, c ≠ '|' ∧ isBlank c = true) :
    (pieces (lead ++ " | ".toList.intercalate tokens)).map trimChars = tokens := by
  induction tokens generalizing lead with
  | nil => exact absurd rfl some_token
  | cons token rest ih =>
    obtain ⟨plain, each⟩ := List.forall_mem_cons.mp each
    have blank : ∀ c ∈ lead, isBlank c = true := fun c there => (leading c there).2
    have noBar : ∀ c ∈ lead ++ token, c ≠ '|' := fun c there =>
      (List.mem_append.mp there).elim (fun there => (leading c there).1)
        fun there => (plain.of_mem there).1
    cases rest with
    | nil =>
      have alone : trimChars (lead ++ token ++ []) = token := plain.trimChars_eq blank (by simp)
      rw [List.append_nil] at alone
      rw [List.intercalate_singleton, pieces_single noBar, List.map_singleton, alone]
    | cons next rest =>
      have first : trimChars (lead ++ token ++ [' ']) = token :=
        plain.trimChars_eq blank (List.forall_mem_singleton.mpr rfl)
      have noBar' : ∀ c ∈ lead ++ token ++ [' '], c ≠ '|' := fun c there =>
        (List.mem_append.mp there).elim (noBar c) fun there =>
          List.mem_singleton.mp there ▸ by decide
      have later : (pieces ([' '] ++ " | ".toList.intercalate (next :: rest))).map trimChars =
          next :: rest :=
        ih (List.cons_ne_nil next rest) each (List.forall_mem_singleton.mpr ⟨by decide, rfl⟩)
      have form : lead ++ " | ".toList.intercalate (token :: next :: rest) =
          lead ++ token ++ [' '] ++ '|' :: ([' '] ++ " | ".toList.intercalate (next :: rest)) := by
        simp [List.intercalate_cons_cons]
      rw [form, pieces_append noBar', List.map_cons, first, later]

/-- The highest bit of a word is its sign. -/
theorem nonneg_iff {word : Int64} : 0 ≤ word ↔ bit word 63 = false := by
  have highest : word.toBitVec.msb = bit word 63 := rfl
  rw [Int64.le_iff_toInt_le, ← highest, BitVec.msb_eq_toInt]
  simp

/-- The digits of a word with its sign bit set stand for a number that no word has. -/
theorem ofInt?_toNat (word : Int64) :
    Int64.ofInt? word.toBitVec.toNat = if 0 ≤ word then some word else none := by
  have highest : word.toBitVec.msb = bit word 63 := rfl
  split
  · next nonneg =>
    rw [nonneg_iff, ← highest] at nonneg
    rw [← BitVec.toInt_eq_toNat_of_msb nonneg]
    exact Int64.ofInt?_toInt word
  · next negative =>
    rw [nonneg_iff, Bool.not_eq_false, ← highest, BitVec.msb_eq_decide, decide_eq_true_eq]
      at negative
    have most : Int64.maxValue.toInt = 2 ^ 63 - 1 := rfl
    refine if_neg fun fits => ?_
    omega

private theorem ofHex?_hexText (word : Int64) :
    ofHex? (hexText word) = if 0 ≤ word then some word else none := by
  have read : Text.value? 16 (hexText word) = some word.toBitVec.toNat :=
    Text.value?_numeral (by decide) (by decide) _
  have digits : ∀ c ∈ hexText word, Text.isDigitIn 16 c = true :=
    List.all_eq_true.mp (Text.all_isDigitIn_numeral (by decide) (by decide) _)
  have unsigned : ofHex? (hexText word) =
      (Text.value? 16 (hexText word)).bind fun n => Int64.ofInt? n := by
    unfold ofHex?
    split
    · next form => exact absurd (digits '-' (by simp [form])) (by decide)
    · next form => exact absurd (digits '+' (by simp [form])) (by decide)
    · rfl
  rw [unsigned, read, Option.bind_some, ofInt?_toNat]

/-- A digit is neither a bar nor a blank. -/
theorem isPlain_of_digit {c : Char} (digit : Text.isDigitIn 16 c = true) : isPlain c = true := by
  have noBar : c ≠ '|' := fun bar => absurd (bar ▸ digit) (by decide)
  have inked : isBlank c = false := Text.isBlank_of_digit (of_decide_eq_true digit)
  simp [isPlain, noBar, inked]

theorem Token.hexText (word : Int64) : Token ('0' :: 'x' :: hexText word) where
  ne_nil := List.cons_ne_nil _ _
  plain := by
    have digits : ∀ c ∈ Flags.hexText word, Text.isDigitIn 16 c = true :=
      List.all_eq_true.mp (Text.all_isDigitIn_numeral (by decide) (by decide) _)
    have rest : (Flags.hexText word).all isPlain = true :=
      List.all_eq_true.mpr fun c there => isPlain_of_digit (digits c there)
    rw [List.all_cons, List.all_cons, rest]
    rfl

/-- The flags of a table can be told apart by name and by bit: each name is a token that is no
hexadecimal word and is found as its own flag, and each flag has one bit, which is not the sign. -/
structure Table (names : List (String × Int64)) : Prop where
  plain : ∀ flag ∈ names, Token flag.1.toList
  bare : ∀ flag ∈ names, flag.1.toList.take 2 ≠ ['0', 'x']
  found : ∀ flag ∈ names, names.lookup flag.1 = some flag.2
  single : ∀ flag ∈ names, ∃ i < 63, flag.2.toBitVec = BitVec.twoPow 64 i

variable {names : List (String × Int64)}

private theorem Table.bit_eq (table : Table names) {flag : String × Int64} (listed : flag ∈ names) :
    ∃ i < 63, ∀ k, bit flag.2 k = decide (i = k) := by
  obtain ⟨i, small, single⟩ := table.single flag listed
  refine ⟨i, small, fun k => ?_⟩
  rw [bit, single, BitVec.getLsbD_twoPow]
  simp
  omega

/-- A word has a flag if it has some bit of it. -/
theorem Table.contains_eq (table : Table names) {flag : String × Int64} (listed : flag ∈ names)
    (word : Int64) {k : Nat} (set : bit flag.2 k = true) : contains word flag.2 = bit word k := by
  obtain ⟨i, -, single⟩ := table.bit_eq listed
  rw [single, decide_eq_true_eq] at set
  rw [Bool.eq_iff_iff, contains_iff_bits]
  simp [single, set]

private theorem bit_named (names : List (String × Int64)) (i : Nat) :
    bit (named names) i = names.any fun flag => bit flag.2 i := by
  rw [named, bit_foldl, bit_zero, Bool.false_or]

/-- The sign is not among the named bits. -/
theorem Table.bit_sign (table : Table names) : bit (named names) 63 = false := by
  rw [bit_named, List.any_eq_false]
  intro flag listed
  obtain ⟨i, small, single⟩ := table.bit_eq listed
  rw [single, decide_eq_true_eq]
  omega

private theorem bit_not (word : Int64) (i : Nat) :
    bit (~~~word) i = (decide (i < 64) && !bit word i) := by
  simp only [bit, Int64.toBitVec_not, BitVec.getLsbD_not]

/-- The flags of the table that a word has. -/
def held (names : List (String × Int64)) (word : Int64) : List (String × Int64) :=
  names.filter fun flag => contains word flag.2

/-- The bits of a word that have no name. -/
def unnamed (names : List (String × Int64)) (word : Int64) : Int64 := word &&& ~~~(named names)

/-- The tokens of a word, each with the bits that it stands for. -/
def tokens (names : List (String × Int64)) (word : Int64) : List (String × Int64) :=
  held names word ++
    if unnamed names word = 0 then []
    else [(String.ofList ('0' :: 'x' :: hexText (unnamed names word)), unnamed names word)]

private theorem mem_tokens {word : Int64} {token : String × Int64} :
    token ∈ tokens names word ↔ token ∈ held names word ∨ unnamed names word ≠ 0 ∧
      token = (String.ofList ('0' :: 'x' :: hexText (unnamed names word)), unnamed names word) := by
  rw [tokens, List.mem_append]
  split <;> simp [*]

private theorem text_eq (names : List (String × Int64)) (word : Int64) :
    text names word = " | ".intercalate ((tokens names word).map (·.1)) := by
  rw [tokens, List.map_append, apply_ite (List.map _)]
  rfl

/-- A word is the union of what its tokens stand for. -/
theorem Table.union_tokens (table : Table names) (word : Int64) :
    union ((tokens names word).map (·.2)) = word := by
  refine bit_ext fun i => Bool.eq_iff_iff.mpr ?_
  rw [bit_union_map]
  constructor
  · rintro ⟨token, there, set⟩
    rcases mem_tokens.mp there with there | ⟨-, rfl⟩
    · obtain ⟨listed, has⟩ := List.mem_filter.mp there
      exact contains_iff_bits.mp has i set
    · rw [unnamed, bit_and, Bool.and_eq_true] at set
      exact set.1
  · intro set
    have inside : i < 64 := by
      by_contra outside
      rw [bit, BitVec.getLsbD_of_ge _ _ (by omega)] at set
      cases set
    cases name : bit (named names) i with
    | true =>
      rw [bit_named, List.any_eq_true] at name
      obtain ⟨flag, listed, flagged⟩ := name
      have has : contains word flag.2 = true := by rw [table.contains_eq listed word flagged, set]
      exact ⟨flag, mem_tokens.mpr (.inl (List.mem_filter.mpr ⟨listed, has⟩)), flagged⟩
    | false =>
      have left : bit (unnamed names word) i = true := by
        simp [unnamed, bit_not, set, name, inside]
      have some_left : unnamed names word ≠ 0 := by
        intro none_left
        rw [none_left, bit_zero] at left
        cases left
      exact ⟨_, mem_tokens.mpr (.inr ⟨some_left, rfl⟩), left⟩

theorem Table.token (table : Table names) {word : Int64} {token : String × Int64}
    (there : token ∈ tokens names word) : Token token.1.toList := by
  rcases mem_tokens.mp there with there | ⟨-, rfl⟩
  · exact table.plain token (List.mem_of_mem_filter there)
  · rw [String.toList_ofList]
    exact .hexText _

private theorem Table.unnamed_nonneg_iff (table : Table names) (word : Int64) :
    0 ≤ unnamed names word ↔ 0 ≤ word := by
  rw [nonneg_iff, nonneg_iff, unnamed, bit_and, bit_not, table.bit_sign]
  simp

private theorem ofToken?_hexText (names : List (String × Int64)) (word : Int64) :
    ofToken? names ('0' :: 'x' :: hexText word) = if 0 ≤ word then some word else none := by
  rw [ofToken?, ofHex?_hexText]

/-- A name is read as its own flag. -/
theorem Table.ofToken?_name (table : Table names) {flag : String × Int64}
    (listed : flag ∈ names) : ofToken? names flag.1.toList = some flag.2 := by
  have bare := table.bare flag listed
  rw [ofToken?, String.ofList_toList, table.found flag listed]
  intro digits form
  exact bare (by rw [form]; rfl)

private theorem mapM_eq_some {α β : Type} {f : α → Option β} {g : α → β} {items : List α}
    (each : ∀ a ∈ items, f a = some (g a)) : items.mapM f = some (items.map g) := by
  induction items with
  | nil => rfl
  | cons a rest ih =>
    obtain ⟨first, each⟩ := List.forall_mem_cons.mp each
    simp [List.mapM_cons, first, ih each]

/-- The tokens of a word are read one by one, unless the word is negative: then the last one is
refused. -/
theorem Table.mapM_tokens (table : Table names) (word : Int64) :
    ((tokens names word).mapM fun token => ofToken? names token.1.toList) =
      if 0 ≤ word then some ((tokens names word).map (·.2)) else none := by
  have known : ((held names word).mapM fun token => ofToken? names token.1.toList) =
      some ((held names word).map (·.2)) :=
    mapM_eq_some fun flag there => table.ofToken?_name (List.mem_of_mem_filter there)
  have sign := table.unnamed_nonneg_iff word
  rw [tokens, List.mapM_append, known]
  split
  · next none_left =>
    have nonneg : 0 ≤ word := by rw [← sign, none_left]; decide
    simp [nonneg]
  · simp only [List.mapM_cons, List.mapM_nil, String.toList_ofList, ofToken?_hexText, sign]
    split <;> simp

/-- The tokens are what is between the bars. -/
theorem Table.pieces_text (table : Table names) {word : Int64}
    (some_token : tokens names word ≠ []) : (pieces (text names word).toList).map trimChars =
      (tokens names word).map (·.1.toList) := by
  have each : ∀ token ∈ (tokens names word).map (·.1.toList), Token token :=
    List.forall_mem_map.mpr fun token there => table.token there
  have chars : (text names word).toList =
      " | ".toList.intercalate ((tokens names word).map (·.1.toList)) := by
    rw [text_eq, String.toList_intercalate, List.map_map]
    rfl
  rw [chars]
  exact pieces_intercalate (mt List.map_eq_nil_iff.mp some_token) each
    (by simp : ∀ c ∈ [], c ≠ '|' ∧ isBlank c = true)

/-- The text is not blank. -/
theorem Table.trimChars_text (table : Table names) {word : Int64}
    (some_token : tokens names word ≠ []) : trimChars (text names word).toList ≠ [] := by
  intro nothing
  have blank := Text.trimChars_eq_nil_iff.mp nothing
  have whole := table.pieces_text some_token
  have noBar : ∀ c ∈ (text names word).toList, c ≠ '|' := fun c there bar =>
    absurd (bar ▸ blank c there) (by decide)
  rw [pieces_single noBar, List.map_singleton, nothing] at whole
  have empty : [] ∈ (tokens names word).map (·.1.toList) := whole ▸ List.mem_singleton_self []
  obtain ⟨token, there, empty⟩ := List.mem_map.mp empty
  exact (table.token there).ne_nil empty

/-- A word is read back from its text if it is not negative. The text of a negative word is refused.
-/
theorem Table.ofText?_text (table : Table names) (word : Int64) :
    ofText? names (text names word) = if 0 ≤ word then some word else none := by
  have whole := table.union_tokens word
  by_cases some_token : tokens names word = []
  · have empty : text names word = "" := by rw [text_eq, some_token]; rfl
    rw [some_token] at whole
    obtain rfl : word = 0 := whole.symm
    rw [empty]
    rfl
  · have read : ((pieces (text names word).toList).mapM fun piece =>
        ofToken? names (trimChars piece)) =
          (tokens names word).mapM fun token => ofToken? names token.1.toList := by
      have mapped := congrArg (List.mapM (ofToken? names)) (table.pieces_text some_token)
      rwa [List.mapM_map, List.mapM_map] at mapped
    rw [ofText?, if_neg (table.trimChars_text some_token), read, table.mapM_tokens]
    split
    · exact congrArg some whole
    · rfl

/-- The pieces have no other characters than the text. -/
theorem mem_of_mem_piece {cs piece : List Char} (there : piece ∈ pieces cs) {c : Char}
    (inside : c ∈ piece) : c ∈ cs := by
  induction cs generalizing piece with
  | nil => rw [List.mem_singleton.mp there] at inside; exact inside
  | cons d cs ih =>
    obtain ⟨first, more, split, joined⟩ := pieces_cons d cs
    rw [split] at ih
    rw [joined] at there
    split at there
    · obtain rfl | there := List.mem_cons.mp there
      · cases inside
      · exact List.mem_cons_of_mem d (ih there inside)
    · obtain rfl | there := List.mem_cons.mp there
      · obtain rfl | inside := List.mem_cons.mp inside
        · exact List.mem_cons_self
        · exact List.mem_cons_of_mem d (ih List.mem_cons_self inside)
      · exact List.mem_cons_of_mem d (ih (List.mem_cons_of_mem first there) inside)

private theorem mem_of_mem_trimChars {cs : List Char} {c : Char} (inside : c ∈ trimChars cs) :
    c ∈ cs := by
  obtain ⟨before, after, form, -⟩ := Text.padded_trimChars cs
  rw [form]
  simp [inside]

/-- A hexadecimal word without a sign is not negative. -/
theorem nonneg_of_ofHex? {ds : List Char} {word : Int64} (read : ofHex? ds = some word)
    (unsigned : '-' ∉ ds) : 0 ≤ word := by
  have natural {n : Nat} (fits : Int64.ofInt? n = some word) : 0 ≤ word := by
    unfold Int64.ofInt? at fits
    split at fits
    · next inside =>
      have most : (n : Int) < 2 ^ 63 := Int.lt_of_le_of_lt inside.2 (by decide)
      rw [← Option.some.inj fits, Int64.le_iff_toInt_le, Int64.toInt_ofInt_of_le inside.1 most]
      exact Int.natCast_nonneg n
    · cases fits
  unfold ofHex? at read
  split at read
  · exact absurd List.mem_cons_self unsigned
  · obtain ⟨n, -, fits⟩ := Option.bind_eq_some_iff.mp read
    exact natural fits
  · obtain ⟨n, -, fits⟩ := Option.bind_eq_some_iff.mp read
    exact natural fits

private theorem Table.nonneg_of_ofToken? (table : Table names) {token : List Char} {word : Int64}
    (read : ofToken? names token = some word) (unsigned : '-' ∉ token) : 0 ≤ word := by
  unfold ofToken? at read
  split at read
  · next digits =>
    exact nonneg_of_ofHex? read fun there =>
      unsigned (List.mem_cons_of_mem _ (List.mem_cons_of_mem _ there))
  · obtain ⟨before, after, listed, -⟩ := List.lookup_eq_some_iff.mp read
    have there : (String.ofList token, word) ∈ names := by simp [listed]
    obtain ⟨i, small, single⟩ := table.bit_eq there
    rw [nonneg_iff, single, decide_eq_false_iff_not]
    omega

private theorem forall_of_mapM {α β : Type} {f : α → Option β} {P : β → Prop} {items : List α}
    (each : ∀ a ∈ items, ∀ b, f a = some b → P b) {found : List β}
    (mapped : items.mapM f = some found) : ∀ b ∈ found, P b := by
  induction items generalizing found with
  | nil =>
    obtain rfl := Option.some.inj mapped
    simp
  | cons a rest ih =>
    rw [List.mapM_cons] at mapped
    obtain ⟨b, first, mapped⟩ := Option.bind_eq_some_iff.mp mapped
    obtain ⟨more, later, mapped⟩ := Option.bind_eq_some_iff.mp mapped
    obtain rfl := Option.some.inj mapped
    exact List.forall_mem_cons.mpr ⟨each a List.mem_cons_self b first,
      ih (fun a there => each a (List.mem_cons_of_mem _ there)) later⟩

/-- A text without a minus sign stands for a word that is not negative. -/
theorem Table.nonneg_of_ofText? (table : Table names) {s : String} {word : Int64}
    (read : ofText? names s = some word) (unsigned : '-' ∉ s.toList) : 0 ≤ word := by
  unfold ofText? at read
  split at read
  · rw [← Option.some.inj read]
    decide
  · obtain ⟨words, mapped, united⟩ := Option.map_eq_some_iff.mp read
    have each : ∀ w ∈ words, bit w 63 = false := forall_of_mapM (fun piece there w known =>
      nonneg_iff.mp (table.nonneg_of_ofToken? known fun sign =>
        unsigned (mem_of_mem_piece there (mem_of_mem_trimChars sign)))) mapped
    have whole := bit_foldl id 0 words 63
    rw [← united, nonneg_iff]
    exact whole.trans (by simpa using each)

end Gatehouse.Flags

namespace Gatehouse

theorem ServerFlags.table : Flags.Table ServerFlags.names where
  plain flag listed := ⟨by decide +revert, by decide +revert⟩
  bare := by decide
  found := by decide
  single := by decide

theorem SubFlags.table : Flags.Table SubFlags.names where
  plain flag listed := ⟨by decide +revert, by decide +revert⟩
  bare := by decide
  found := by decide
  single := by decide

end Gatehouse
