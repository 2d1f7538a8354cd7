/-
The words of an identifier in camel case.

A word starts at the first character, and at every upper-case character that
follows a character that is not upper case or precedes one that is lower case.
So capitals in a row stay together up to the last one, which starts the next
word when a small letter follows it, and digits and underscores belong to the
word before them. `splitWords` is stated for any two classes of characters, and
`words` takes those of Unicode. Splitting loses nothing (`flatten_splitWords`),
and no word is empty (`ne_nil_of_mem_splitWords`).
-/

import Bindery.Unicode.Property

namespace Bindery.Naming

/-- Whether a word starts at `c`, which stands between `before` and `after`. -/
def startsWord (upper lower : Char → Bool) (before c : Char) (after : Option Char) : Bool :=
  upper c && (!upper before || after.any lower)

/-- The words of a text, for given classes of upper-case and lower-case
characters. -/
def splitWords (upper lower : Char → Bool) : List Char → List (List Char)
  | [] => []
  | [c] => [[c]]
  | c :: next :: rest =>
    if startsWord upper lower c next rest.head? then
      [c] :: splitWords upper lower (next :: rest)
    else
      match splitWords upper lower (next :: rest) with
      | [] => [[c]]
      | word :: others => (c :: word) :: others

/-- The words of an identifier. -/
def words (identifier : String) : List String :=
  (splitWords Unicode.isUpper Unicode.isLower identifier.toList).map String.ofList

/-! ### Laws of splitting -/

/-- The words of a text, one after the other, are the text. -/
theorem flatten_splitWords (upper lower : Char → Bool) (text : List Char) :
    (splitWords upper lower text).flatten = text := by
  fun_induction splitWords upper lower text with
  | case1 => rfl
  | case2 c => rfl
  | case3 c next rest starts ih => simp [ih]
  | case4 c next rest starts eq ih => simp [eq] at ih
  | case5 c next rest starts word others eq ih => simpa [eq] using ih

/-- No word is empty. -/
theorem ne_nil_of_mem_splitWords {upper lower : Char → Bool} {text word : List Char}
    (h : word ∈ splitWords upper lower text) : word ≠ [] := by
  fun_induction splitWords upper lower text generalizing word with
  | case1 => simp at h
  | case2 c => simp_all
  | case3 c next rest starts ih =>
    rcases List.mem_cons.1 h with rfl | mem
    · exact List.cons_ne_nil _ _
    · exact ih mem
  | case4 c next rest starts eq ih => simp_all
  | case5 c next rest starts first others eq ih =>
    rcases List.mem_cons.1 h with rfl | mem
    · exact List.cons_ne_nil _ _
    · exact ih (eq ▸ List.mem_cons_of_mem _ mem)

end Bindery.Naming
