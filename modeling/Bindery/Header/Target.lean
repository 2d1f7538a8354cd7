/-
The target that writes C headers: one for each module, and four for the library
as a whole.
-/

import Bindery.Header.Exports
import Bindery.Header.Library
import Bindery.Header.Module
import Bindery.Header.Types

namespace Bindery.Header

/-- The headers of one context: a module has one, and nothing else has any. -/
def contextHeaders (aggregate : Aggregate) (id : ContextId) : List Artifact :=
  match aggregate.forest.get? id with
  | some ⟨.module name, _, _⟩ => [moduleHeader name]
  | _ => []

/-- The headers of the library as a whole. -/
def libraryHeaders [PatternEngine] (aggregate : Aggregate) : List Artifact :=
  [umbrellaHeader aggregate.libraryName, exportsHeader, typesHeader, scalarsHeader]

/-- The target that writes C headers. -/
def target [PatternEngine] : Target :=
  { name := "C"
    byteOrderMark := true
    contextArtifacts := contextHeaders
    defaultArtifacts := libraryHeaders }

end Bindery.Header
