/-
The pattern engine that programs of this library run with.

It understands the common part of the pattern language: literals, classes with the
general categories and the scripts of Unicode, groups, alternatives, repetitions,
flags and assertions. It refuses patterns that ask for another property of Unicode,
and what is wrong with a pattern is not spelled out.
-/

import Bindery.Naming.PatternEngine
import Bindery.Pattern.Basic

namespace Bindery.Pattern

/-- Patterns as they are compiled and replaced here. -/
instance engine : PatternEngine where
  compile pattern :=
    match compile? pattern with
    | none => .error "<regex>"
    | some compiled => .ok fun template text =>
      String.ofList (compiled.replaceAll template.toList text.toList)

end Bindery.Pattern
