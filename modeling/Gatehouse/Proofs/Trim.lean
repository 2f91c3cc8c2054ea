import Gatehouse.Name

/-! # What is left of a trimmed text

A text is blanks, a core and blanks, where the core neither begins nor ends with a blank. There is
one such core, and trimming gives it.
-/

namespace Gatehouse.Text

/-- Neither the first nor the last character is blank. -/
structure Tight (cs : List Char) : Prop where
  head : ∀ c, cs.head? = some c → isBlank c = false
  last : ∀ c, cs.getLast? = some c → isBlank c = false

/-- The text is the tight core with nothing but blanks before and after it. -/
def Framed (cs core : List Char) : Prop :=
  Tight core ∧ ∃ before after, cs = before ++ core ++ after ∧
    (∀ c ∈ before, isBlank c = true) ∧ ∀ c ∈ after, isBlank c = true

theorem Tight.framed {cs : List Char} (tight : Tight cs) : Framed cs cs :=
  ⟨tight, [], [], by simp, by simp, by simp⟩

theorem Tight.reverse {cs : List Char} (tight : Tight cs) : Tight cs.reverse :=
  ⟨fun c first => tight.last c (by rwa [List.head?_reverse] at first),
    fun c last => tight.head c (by rwa [List.getLast?_reverse] at last)⟩

/-- Blanks are cut up to the first other character. -/
theorem dropWhile_blank_append {before rest : List Char} (blank : ∀ c ∈ before, isBlank c = true)
    (starts : ∀ c, rest.head? = some c → isBlank c = false) :
    (before ++ rest).dropWhile isBlank = rest := by
  rw [List.dropWhile_append_of_pos blank]
  cases rest with
  | nil => rfl
  | cons c rest => exact List.dropWhile_cons_of_neg (by simp [starts c rfl])

private theorem dropWhile_blank {cs : List Char} (blank : ∀ c ∈ cs, isBlank c = true) :
    cs.dropWhile isBlank = [] := by
  have cut : (cs ++ []).dropWhile isBlank = [] := dropWhile_blank_append blank (by simp)
  rwa [List.append_nil] at cut

private theorem head?_dropWhile_blank (cs : List Char) {c : Char}
    (first : (cs.dropWhile isBlank).head? = some c) : isBlank c = false := by
  have found := List.head?_dropWhile_not isBlank cs
  rwa [first] at found

/-- What blanks are cut from is blanks and the rest. -/
theorem exists_blank_append (cs : List Char) :
    ∃ before, cs = before ++ cs.dropWhile isBlank ∧ ∀ c ∈ before, isBlank c = true :=
  ⟨cs.takeWhile isBlank, List.takeWhile_append_dropWhile.symm,
    List.all_eq_true.mp List.all_takeWhile⟩

theorem trimChars_eq_of_framed {cs core : List Char} (framed : Framed cs core) :
    trimChars cs = core := by
  obtain ⟨tight, before, after, rfl, blankBefore, blankAfter⟩ := framed
  unfold trimChars
  cases core with
  | nil =>
    have blank : ∀ c ∈ before ++ [] ++ after, isBlank c = true := by
      simpa [or_imp, forall_and] using ⟨blankBefore, blankAfter⟩
    rw [dropWhile_blank blank]
    rfl
  | cons c rest =>
    have starts : ∀ d, (c :: rest ++ after).head? = some d → isBlank d = false := tight.head
    have ends : ∀ d ∈ after.reverse, isBlank d = true := by simpa using blankAfter
    rw [List.append_assoc, dropWhile_blank_append blankBefore starts, List.reverse_append,
      dropWhile_blank_append ends tight.reverse.head, List.reverse_reverse]

theorem framed_trimChars (cs : List Char) : Framed cs (trimChars cs) := by
  obtain ⟨before, split, blankBefore⟩ := exists_blank_append cs
  obtain ⟨after, cut, blankAfter⟩ := exists_blank_append (cs.dropWhile isBlank).reverse
  have ending : cs.dropWhile isBlank = trimChars cs ++ after.reverse := by
    rw [← List.reverse_reverse (cs.dropWhile isBlank), cut, List.reverse_append]
    rfl
  refine ⟨⟨fun c first => ?_, fun c last => ?_⟩, before, after.reverse, ?_, blankBefore, ?_⟩
  · refine head?_dropWhile_blank cs ?_
    rw [ending, List.head?_append, first]
    rfl
  · rw [trimChars, List.getLast?_reverse] at last
    exact head?_dropWhile_blank _ last
  · rw [List.append_assoc, ← ending]
    exact split
  · simpa using blankAfter

theorem trimChars_eq_iff {cs core : List Char} : trimChars cs = core ↔ Framed cs core :=
  ⟨fun trimmed => trimmed ▸ framed_trimChars cs, trimChars_eq_of_framed⟩

theorem Tight.trimChars {cs : List Char} (tight : Tight cs) : trimChars cs = cs :=
  trimChars_eq_of_framed tight.framed

/-- Nothing is left of blanks alone. -/
theorem trimChars_eq_nil_iff {cs : List Char} :
    trimChars cs = [] ↔ ∀ c ∈ cs, isBlank c = true := by
  constructor
  · intro trimmed
    obtain ⟨-, before, after, rfl, blankBefore, blankAfter⟩ := trimChars_eq_iff.mp trimmed
    simpa [or_imp, forall_and] using ⟨blankBefore, blankAfter⟩
  · intro blank
    rw [Text.trimChars, dropWhile_blank blank]
    rfl

end Gatehouse.Text
