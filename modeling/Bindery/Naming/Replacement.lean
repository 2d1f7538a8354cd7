/-
Replacement texts with numbered references.

In the replacement of a substitution a dollar sign and digits refer to the
group of that number, whatever follows the digits: `$1_$2` is group one, an
underscore and group two. `braceNumbers` puts such references in braces, which
is how templates keep them apart from the text behind them.
-/

import Bindery.Pattern.Template

namespace Bindery.Naming

open Bindery.Pattern

/-- The replacement with every numbered reference in braces. Two dollar signs
are kept as a pair, and any other dollar sign stays as it is. -/
def braceNumbers : List Char → List Char
  | [] => []
  | '$' :: '$' :: rest => '$' :: '$' :: braceNumbers rest
  | '$' :: rest =>
    have : (rest.dropWhile Char.isDigit).length ≤ rest.length :=
      length_dropWhile_le Char.isDigit rest
    match rest.takeWhile Char.isDigit with
    | [] => '$' :: braceNumbers rest
    | digits => '$' :: '{' :: digits ++ '}' :: braceNumbers (rest.dropWhile Char.isDigit)
  | c :: rest => c :: braceNumbers rest
termination_by replacement => replacement.length

/-- Bracing keeps the first character. -/
theorem head?_braceNumbers (text : List Char) : (braceNumbers text).head? = text.head? := by
  fun_cases braceNumbers text with
  | case1 => rfl
  | case2 rest => rfl
  | case3 rest => rfl
  | case4 rest => rfl
  | case5 c rest => rfl

end Bindery.Naming
