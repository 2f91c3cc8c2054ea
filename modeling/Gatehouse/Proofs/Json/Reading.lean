import Gatehouse.Proofs.Json.Scalars

/-! # Written JSON is read back

A value that is written has its fragment: the same value, as a reader finds it in a text. The text of a
value is read as this fragment, up to the end of the text, whatever values are inside each other.
-/

namespace Gatehouse.Json

namespace Fragment

/-- The text can be the start of a value: no blank stands in front, and no bracket is closed. -/
structure Opens (cs : List Char) : Prop where
  visible : skipBlanks cs = cs
  opened : ∃ c more, cs = c :: more ∧ c ≠ ']'

private theorem opens_cons {c : Char} (visible : c ∉ [' ', '\n', '\t', '\r', ']'])
    (cs : List Char) :
    Opens (c :: cs) := by
  simp only [List.mem_cons, List.not_mem_nil, or_false, not_or] at visible
  obtain ⟨space, newline, tab, feed, bracket⟩ := visible
  refine ⟨?_, c, cs, rfl, bracket⟩
  rw [skipBlanks, List.dropWhile_cons_of_neg]
  simp [space, newline, tab, feed]

end Fragment

open Fragment

mutual

/-- A value, as it is found in a text. -/
def fragment : Json → Fragment
  | .null => .null
  | .bool b => .bool b
  | .int n => .int n
  | .str s => .str (some s)
  | .arr items => .arr (itemFragments items) true
  | .obj members => .obj (memberFragments members) true

def itemFragments : List Json → List Fragment
  | [] => []
  | item :: rest => item.fragment :: itemFragments rest

def memberFragments : List (String × Json) → List (Option String × Fragment)
  | [] => []
  | (key, value) :: rest => (some key, value.fragment) :: memberFragments rest

end

mutual

/-- All integers in the value are kept. -/
def Exact : Json → Prop
  | .int n => Kept n
  | .arr items => ExactItems items
  | .obj members => ExactMembers members
  | .null | .bool _ | .str _ => True

def ExactItems : List Json → Prop
  | [] => True
  | item :: rest => item.Exact ∧ ExactItems rest

def ExactMembers : List (String × Json) → Prop
  | [] => True
  | (_, value) :: rest => value.Exact ∧ ExactMembers rest

end

/-- The text of items behind another one. -/
def furtherItems : List Json → List Char
  | [] => []
  | item :: rest => ',' :: (item.chars ++ furtherItems rest)

/-- The text of members behind another one. -/
def furtherMembers : List (String × Json) → List Char
  | [] => []
  | (key, value) :: rest => ',' :: (quoted key ++ ':' :: (value.chars ++ furtherMembers rest))

private theorem itemChars_cons (item : Json) (rest : List Json) :
    itemChars (item :: rest) = item.chars ++ furtherItems rest := by
  induction rest generalizing item with
  | nil => simp [itemChars, furtherItems]
  | cons next rest ih => rw [itemChars, ih, furtherItems]; simp

private theorem memberChars_cons (key : String) (value : Json) (rest : List (String × Json)) :
    memberChars ((key, value) :: rest) =
      quoted key ++ ':' :: (value.chars ++ furtherMembers rest) := by
  induction rest generalizing key value with
  | nil => simp [memberChars, furtherMembers]
  | cons next rest ih =>
    obtain ⟨key', value'⟩ := next
    rw [memberChars, ih, furtherMembers]
    simp

private theorem opens_chars (j : Json) (rest : List Char) : Opens (j.chars ++ rest) := by
  cases j with
  | null | str s | arr items | obj members => exact opens_cons (by decide) _
  | bool b => cases b <;> exact opens_cons (by decide) _
  | int n =>
    obtain ⟨c, cs, form, apart⟩ := exists_signedDecimal n
    have others : ∀ d ∈ [' ', '\n', '\t', '\r', ']'], d ≠ '-' ∧ Text.isDigitIn 10 d = false := by
      simp only [List.mem_cons, List.not_mem_nil, or_false, forall_eq_or_imp, forall_eq]
      decide
    rw [chars, form]
    exact opens_cons (fun listed => apart c (others c listed).1 (others c listed).2 rfl) _

private theorem length_chars_pos (j : Json) : 0 < j.chars.length := by
  obtain ⟨-, c, cs, form, -⟩ := opens_chars j []
  rw [List.append_nil] at form
  rw [form, List.length_cons]
  exact Nat.succ_pos _

private theorem stops_cons {c : Char} (mark : c ∈ [',', ']', '\x7d']) (rest : List Char) :
    Stops (c :: rest) := by
  have marks : ∀ c ∈ [',', ']', '\x7d'],
      Text.isDigitIn 10 c = false ∧ c ≠ '.' ∧ c ≠ 'e' ∧ c ≠ 'E' := by
    simp only [List.mem_cons, List.not_mem_nil, or_false, forall_eq_or_imp, forall_eq]
    decide
  intro d first
  obtain rfl := Option.some.inj first
  exact marks c mark

private theorem stops_furtherItems (items : List Json) (rest : List Char) :
    Stops (furtherItems items ++ ']' :: rest) := by
  cases items <;> exact stops_cons (by decide) _

private theorem stops_furtherMembers (members : List (String × Json)) (rest : List Char) :
    Stops (furtherMembers members ++ '\x7d' :: rest) := by
  cases members with
  | nil => exact stops_cons (by decide) _
  | cons member members =>
    obtain ⟨key, value⟩ := member
    exact stops_cons (by decide) _

section Steps

variable {fuel : Nat} {cs rest more : List Char}

private theorem value_string (s : String) (rest : List Char) :
    Fragment.value (fuel + 1) (quoted s ++ rest) = (.str (some s), rest) := by
  have form : quoted s ++ rest = '"' :: (s.toList.flatMap escaped ++ '"' :: rest) := by
    simp [quoted]
  have visible := (opens_cons (c := '"') (by decide) (s.toList.flatMap escaped ++ '"' :: rest)).visible
  rw [form, Fragment.value, visible]
  simp [string?_quoted]

private theorem value_int (stops : Stops rest) {n : Int} (kept : Kept n) :
    Fragment.value (fuel + 1) ((Json.int n).chars ++ rest) = (.int n, rest) := by
  have read := number?_signedDecimal stops kept
  have visible := (opens_chars (.int n) rest).visible
  obtain ⟨c, cs, form, apart⟩ := exists_signedDecimal n
  rw [chars, form, List.cons_append] at visible ⊢
  rw [form, List.cons_append] at read
  rw [Fragment.value, visible]
  dsimp only
  rw [if_neg (apart '"' (by decide) (by decide)), if_neg (apart '[' (by decide) (by decide)),
    if_neg (apart '\x7b' (by decide) (by decide)), if_neg (apart 'n' (by decide) (by decide)),
    if_neg (apart 't' (by decide) (by decide)), if_neg (apart 'f' (by decide) (by decide)), read,
    Option.getD_some]

/-- A word is read as the value that it stands for. -/
theorem word_append (w : String) (f : Fragment) (rest : List Char) :
    word w f (w.toList ++ rest) = (f, rest) := by
  have front : w.toList.isPrefixOf (w.toList ++ rest) = true :=
    List.isPrefixOf_iff_prefix.mpr (List.prefix_append _ _)
  rw [word, if_pos front, ← String.length_toList, List.drop_left]

private theorem value_null (rest : List Char) :
    Fragment.value (fuel + 1) (Json.null.chars ++ rest) = (.null, rest) := by
  have visible := (opens_chars .null rest).visible
  rw [Fragment.value, visible]
  exact word_append "null" .null rest

private theorem value_bool (b : Bool) (rest : List Char) :
    Fragment.value (fuel + 1) ((Json.bool b).chars ++ rest) = (.bool b, rest) := by
  have visible := (opens_chars (.bool b) rest).visible
  rw [Fragment.value, visible]
  cases b with
  | true => exact word_append "true" (.bool true) rest
  | false => exact word_append "false" (.bool false) rest

/-- An item is read in front of the items that are read behind it. -/
theorem items_step (opens : Opens cs) {f : Fragment} {fs : List Fragment}
    (read : Fragment.value fuel cs = (f, rest))
    (later : Fragment.items fuel false rest = (fs, true, more)) :
    Fragment.items (fuel + 1) true cs = (f :: fs, true, more) ∧
      Fragment.items (fuel + 1) false (',' :: cs) = (f :: fs, true, more) := by
  obtain ⟨visible, c, cs, rfl, bracket⟩ := opens
  have comma := (opens_cons (c := ',') (by decide) (c :: cs)).visible
  constructor
  · rw [Fragment.items, visible]
    simp [bracket, visible, read, later]
  · rw [Fragment.items, comma]
    simp [bracket, visible, read, later]

/-- A member is read in front of the members that are read behind it. -/
theorem members_step (key : String) {f : Fragment} {fs : List (Option String × Fragment)}
    (read : Fragment.value fuel cs = (f, rest))
    (later : Fragment.members fuel false rest = (fs, true, more)) :
    Fragment.members (fuel + 1) true (quoted key ++ ':' :: cs) = ((some key, f) :: fs, true, more) ∧
      Fragment.members (fuel + 1) false (',' :: (quoted key ++ ':' :: cs)) =
        ((some key, f) :: fs, true, more) := by
  have form : quoted key ++ ':' :: cs = '"' :: (key.toList.flatMap escaped ++ '"' :: ':' :: cs) := by
    simp [quoted]
  have quote := (opens_cons (c := '"') (by decide)
    (key.toList.flatMap escaped ++ '"' :: ':' :: cs)).visible
  have comma := (opens_cons (c := ',') (by decide) (quoted key ++ ':' :: cs)).visible
  have colon := (opens_cons (c := ':') (by decide) cs).visible
  rw [form] at comma ⊢
  constructor
  · rw [Fragment.members, quote]
    simp [quote, string?_quoted, colon, read, later]
  · rw [Fragment.members, comma]
    simp [quote, string?_quoted, colon, read, later]

end Steps

mutual

/-- The text of a value is read as that value, whatever follows that is no part of a number. Two
steps of fuel for each character are enough: every call but the last of a list comes with a character
that it takes. -/
theorem value_chars (j : Json) (exact : j.Exact) {fuel : Nat} {rest : List Char}
    (enough : 2 * j.chars.length ≤ fuel) (stops : Stops rest) :
    Fragment.value fuel (j.chars ++ rest) = (j.fragment, rest) := by
  have some_fuel := length_chars_pos j
  obtain ⟨left, rfl⟩ : ∃ left, fuel = left + 1 := ⟨fuel - 1, by omega⟩
  match j with
  | .null => exact value_null rest
  | .bool b => exact value_bool b rest
  | .int n => exact value_int stops exact
  | .str s => exact value_string s rest
  | .arr items =>
    rw [chars, List.length_cons, List.length_append] at enough
    have form : (Json.arr items).chars ++ rest = '[' :: (itemChars items ++ ']' :: rest) := by
      simp [chars]
    have visible := (opens_cons (c := '[') (by decide) (itemChars items ++ ']' :: rest)).visible
    have inside : Fragment.items left true (itemChars items ++ ']' :: rest) = _ :=
      items_itemChars items exact (by omega)
    rw [form, Fragment.value, visible]
    simp [inside, fragment]
  | .obj members =>
    rw [chars, List.length_cons, List.length_append] at enough
    have form : (Json.obj members).chars ++ rest =
        '\x7b' :: (memberChars members ++ '\x7d' :: rest) := by
      simp [chars]
    have visible :=
      (opens_cons (c := '\x7b') (by decide) (memberChars members ++ '\x7d' :: rest)).visible
    have inside : Fragment.members left true (memberChars members ++ '\x7d' :: rest) = _ :=
      members_memberChars members exact (by omega)
    rw [form, Fragment.value, visible]
    simp [inside, fragment]

private theorem items_itemChars (items : List Json) (exact : ExactItems items) {fuel : Nat}
    {rest : List Char} (enough : 2 * (itemChars items).length < fuel) :
    Fragment.items fuel true (itemChars items ++ ']' :: rest) =
      (itemFragments items, true, rest) := by
  obtain ⟨left, rfl⟩ : ∃ left, fuel = left + 1 := ⟨fuel - 1, by omega⟩
  match items with
  | [] => rfl
  | item :: more =>
    obtain ⟨exactItem, exactMore⟩ := exact
    have taken := length_chars_pos item
    rw [itemChars_cons] at enough ⊢
    rw [List.length_append] at enough
    have read : Fragment.value left (item.chars ++ (furtherItems more ++ ']' :: rest)) = _ :=
      value_chars item exactItem (by omega) (stops_furtherItems more rest)
    have later : Fragment.items left false (furtherItems more ++ ']' :: rest) = _ :=
      items_furtherItems more exactMore (by omega)
    rw [List.append_assoc, (items_step (opens_chars item _) read later).1, itemFragments]

/-- The text of items behind another one is read as these items, up to the bracket. -/
theorem items_furtherItems (items : List Json) (exact : ExactItems items) {fuel : Nat}
    {rest : List Char} (enough : 2 * (furtherItems items).length < fuel) :
    Fragment.items fuel false (furtherItems items ++ ']' :: rest) =
      (itemFragments items, true, rest) := by
  obtain ⟨left, rfl⟩ : ∃ left, fuel = left + 1 := ⟨fuel - 1, by omega⟩
  match items with
  | [] => rfl
  | item :: more =>
    obtain ⟨exactItem, exactMore⟩ := exact
    rw [furtherItems, List.length_cons, List.length_append] at enough
    have read : Fragment.value left (item.chars ++ (furtherItems more ++ ']' :: rest)) = _ :=
      value_chars item exactItem (by omega) (stops_furtherItems more rest)
    have later : Fragment.items left false (furtherItems more ++ ']' :: rest) = _ :=
      items_furtherItems more exactMore (by omega)
    rw [furtherItems, List.cons_append, List.append_assoc,
      (items_step (opens_chars item _) read later).2, itemFragments]

private theorem members_memberChars (members : List (String × Json)) (exact : ExactMembers members)
    {fuel : Nat} {rest : List Char} (enough : 2 * (memberChars members).length < fuel) :
    Fragment.members fuel true (memberChars members ++ '\x7d' :: rest) =
      (memberFragments members, true, rest) := by
  obtain ⟨left, rfl⟩ : ∃ left, fuel = left + 1 := ⟨fuel - 1, by omega⟩
  match members with
  | [] => rfl
  | (key, value) :: more =>
    obtain ⟨exactValue, exactMore⟩ := exact
    simp only [memberChars_cons, List.length_append, List.length_cons] at enough
    have read : Fragment.value left (value.chars ++ (furtherMembers more ++ '\x7d' :: rest)) = _ :=
      value_chars value exactValue (by omega) (stops_furtherMembers more rest)
    have later : Fragment.members left false (furtherMembers more ++ '\x7d' :: rest) = _ :=
      members_furtherMembers more exactMore (by omega)
    have form : memberChars ((key, value) :: more) ++ '\x7d' :: rest =
        quoted key ++ ':' :: (value.chars ++ (furtherMembers more ++ '\x7d' :: rest)) := by
      simp [memberChars_cons]
    rw [form, (members_step key read later).1, memberFragments]

/-- The text of members behind another one is read as these members, up to the brace. -/
theorem members_furtherMembers (members : List (String × Json)) (exact : ExactMembers members)
    {fuel : Nat} {rest : List Char} (enough : 2 * (furtherMembers members).length < fuel) :
    Fragment.members fuel false (furtherMembers members ++ '\x7d' :: rest) =
      (memberFragments members, true, rest) := by
  obtain ⟨left, rfl⟩ : ∃ left, fuel = left + 1 := ⟨fuel - 1, by omega⟩
  match members with
  | [] => rfl
  | (key, value) :: more =>
    obtain ⟨exactValue, exactMore⟩ := exact
    simp only [furtherMembers, List.length_cons, List.length_append] at enough
    have read : Fragment.value left (value.chars ++ (furtherMembers more ++ '\x7d' :: rest)) = _ :=
      value_chars value exactValue (by omega) (stops_furtherMembers more rest)
    have later : Fragment.members left false (furtherMembers more ++ '\x7d' :: rest) = _ :=
      members_furtherMembers more exactMore (by omega)
    have form : furtherMembers ((key, value) :: more) ++ '\x7d' :: rest =
        ',' :: (quoted key ++ ':' :: (value.chars ++ (furtherMembers more ++ '\x7d' :: rest))) := by
      simp [furtherMembers]
    rw [form, (members_step key read later).2, memberFragments]

end

/-- A text that was written is read as the value, and nothing is left. -/
theorem ofText_text (j : Json) (exact : j.Exact) : Fragment.ofText j.text = (j.fragment, []) := by
  have enough : 2 * j.chars.length ≤ 2 * j.text.length + 2 := by
    rw [text, String.length_ofList]
    omega
  have alone : Stops [] := fun c first => nomatch first
  have read := value_chars j exact enough alone
  rwa [List.append_nil, ← String.toList_ofList (l := j.chars)] at read

end Gatehouse.Json
