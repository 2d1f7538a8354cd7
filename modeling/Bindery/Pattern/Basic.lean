/-
Patterns: compiling them and replacing what they match.

* `Pattern.compile?` answers `none` for text that is no pattern, and for
  patterns that would become too large;
* `Pattern.replaceAll` replaces every match by a template, in which references
  stand for the groups that the match captured.
-/

import Bindery.Pattern.Search
import Bindery.Pattern.Template

namespace Bindery

/-- A compiled pattern: the program that matches it, and the names of its
groups. -/
structure Pattern where
  program : Pattern.Program
  names : List (String × Nat)

namespace Pattern

/-- The number of states, of 32 bytes each, that fit into ten mebibytes. -/
def stateLimit : Nat := 10 * 1024 * 1024 / 32

/-- Compiles a pattern, if it is well formed and not too large. -/
def compile? (text : String) : Option Pattern := do
  let parsed ← Expr.parse? text.toList
  let (node, _) ← parsed.expr.node? {}
  if node.weight ≤ stateLimit then return ⟨node.program parsed.captures, parsed.names⟩ else none

/-- The number that a reference consists of: decimal digits, with or without a
plus sign in front. -/
def referenceNumber? (name : List Char) : Option Nat :=
  let digits := match name with
    | '+' :: digits => digits
    | _ => name
  if digits.isEmpty || !digits.all Char.isDigit then none else some (decimalValue digits)

/-- The index of the group that a reference names. -/
def groupIndex? (pattern : Pattern) (name : List Char) : Option Nat :=
  match referenceNumber? name with
  | some index => some index
  | none => pattern.names.lookup (String.ofList name)

/-- The part of a text between two positions. -/
def slice (text : List Char) (first stop : Nat) : List Char :=
  (text.drop first).take (stop - first)

/-- The text that a match captured for a reference. A group that does not exist
or took no part in the match has no text. -/
def captured (pattern : Pattern) (text : List Char) (slots : Slots) (name : List Char) :
    List Char :=
  match pattern.groupIndex? name with
  | none => []
  | some index =>
    match slots.getD (2 * index) none, slots.getD (2 * index + 1) none with
    | some first, some stop => slice text first stop
    | _, _ => []

/-- The text from position `start` on, with the given matches replaced. -/
def replaceFrom (pattern : Pattern) (template text : List Char) (start : Nat) :
    List (Nat × Nat × Slots) → List Char
  | [] => text.drop start
  | (first, stop, slots) :: rest =>
    slice text start first ++ expand (pattern.captured text slots) template ++
      replaceFrom pattern template text stop rest

/-- The text with every match replaced by the template. -/
def replaceAll (pattern : Pattern) (template text : List Char) : List Char :=
  pattern.replaceFrom template text 0 (pattern.program.matches text)

end Pattern

end Bindery
