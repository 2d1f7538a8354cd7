/-
The header of a module: its functions in the order in which they were
contributed.
-/

import Bindery.Header.Spelling

namespace Bindery.Header

open Bindery.Layout

/-- The name of a function: its explicit binding, or else its own name. -/
def functionName (method : Method) : String :=
  method.attributes.explicitBinding.getD method.name

/-- The declaration of a function. -/
def functionDeclaration (api returns name params : String) : Script NamingError :=
  .texts [api, " ", returns, " ", name, "(", params] ++ .line ");" .done

/-- A function of a module, which fails if one of its types cannot be
spelled. -/
def moduleFunction (api : String) (method : Method) : Script NamingError :=
  spelled (spellType method.signature.returns) fun returns =>
    spelled (paramList method.signature.params) fun params =>
      .writer (functionDeclaration api returns (functionName method) params) .newline

/-- The functions of a module between their prologue and epilogue. -/
def moduleScript (api : String) (methods : List Method) : Script NamingError :=
  .lines ["#pragma once", "", includeLine exportsFile, includeLine typesFile, ""] ++
  openLinkage "" ++
  .newline ++
  .sequence (methods.map (moduleFunction api)) ++
  closeLinkage ""

/-- The header of a module. -/
def moduleHeader (name : String) : Artifact :=
  { fileName := headerFile name
    generator :=
      { preamble := some banner
        generate := fun overview =>
          moduleScript (apiMacro overview.libraryName)
            ((overview.assembly.methodsOf? name).getD []) } }

end Bindery.Header
