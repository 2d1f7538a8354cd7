/-
The engine that compiles the patterns of substitutions.

An enum can have its constants named by a substitution: a pattern, and what takes
the place of its matches. Which texts are patterns and what they match is up to an
engine. It is an instance implicit parameter of all that names constants, and
nothing is known of it but that it answers the same text in the same way. What
depends on more says so by a hypothesis, such as `PatternEngine.AddsNothing`.
-/

namespace Bindery

/-- What a compiled pattern does: it puts a template, with its references written
out, in the place of every match in a text. -/
abbrev Replacer : Type :=
  (template text : String) → String

/-- An engine: it compiles a pattern, or says what is wrong with it. -/
class PatternEngine where
  compile : (pattern : String) → Except String Replacer

/-- Replacing puts together parts of the text and of the template: a character of
the result comes from one of the two. -/
def PatternEngine.AddsNothing [PatternEngine] : Prop :=
  ∀ {pattern : String} {replaceAll : Replacer}, compile pattern = .ok replaceAll →
    ∀ template text, (replaceAll template text).toList ⊆ template.toList ++ text.toList

end Bindery
