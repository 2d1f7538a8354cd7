/-
Replacement templates.

A template is text in which a dollar sign refers to a captured group: `$name`
takes the longest name of letters, digits and underscores, a name in braces may
hold anything up to the first closing brace, and two dollar signs are one. A
dollar sign before anything else stands for itself. `expand` writes a template
out, given the text of each reference.
-/

import Bindery.Unicode.Property

namespace Bindery.Pattern

open Bindery.Unicode

/-- The characters of names that stand without braces. -/
def isReferenceChar (c : Char) : Bool :=
  inSpan '0' '9' c || isAsciiUpper c || isAsciiLower c || c = '_'

/-- The text up to the first closing brace, and the text behind that brace. -/
def cutBrace : List Char → Option (List Char × List Char)
  | [] => none
  | '}' :: rest => some ([], rest)
  | c :: rest => (cutBrace rest).map fun (name, after) => (c :: name, after)

/-- Behind the brace stands less than the whole text. -/
theorem length_lt_of_cutBrace {text name after : List Char} (h : cutBrace text = some (name, after)) :
    after.length < text.length := by
  fun_induction cutBrace text generalizing name with
  | case1 => simp at h
  | case2 rest => simp_all
  | case3 c rest _ ih =>
    simp only [Option.map_eq_some_iff, Prod.mk.injEq, Prod.exists] at h
    obtain ⟨name', after', hcut, _, rfl⟩ := h
    have := ih hcut
    simp only [List.length_cons]
    omega

/-- Dropping characters from the front makes no text longer. -/
theorem length_dropWhile_le (p : Char → Bool) (text : List Char) :
    (text.dropWhile p).length ≤ text.length :=
  (List.dropWhile_suffix p).length_le

/-- The template written out, where `group` gives the text of a reference by
its name. -/
def expand (group : List Char → List Char) : List Char → List Char
  | [] => []
  | '$' :: '$' :: rest => '$' :: expand group rest
  | '$' :: '{' :: rest =>
    match h : cutBrace rest with
    | some (name, after) =>
      have : after.length < rest.length := length_lt_of_cutBrace h
      group name ++ expand group after
    | none => '$' :: '{' :: expand group rest
  | '$' :: rest =>
    have : (rest.dropWhile isReferenceChar).length ≤ rest.length :=
      length_dropWhile_le isReferenceChar rest
    match rest.takeWhile isReferenceChar with
    | [] => '$' :: expand group rest
    | name => group name ++ expand group (rest.dropWhile isReferenceChar)
  | c :: rest => c :: expand group rest
termination_by template => template.length

end Bindery.Pattern
