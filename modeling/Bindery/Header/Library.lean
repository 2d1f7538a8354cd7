/-
The headers of a library as a whole: the one that includes all modules, and the
one with the scalar types.
-/

import Bindery.Header.Spelling

namespace Bindery.Header

open Bindery.Layout

/-- Includes the header of a module. -/
def moduleInclude (name : String) : Script NamingError :=
  .write "#include \"" (.write name (.line ".h\"" .done))

/-- Includes the headers of all modules, in order. -/
def umbrellaScript (modules : List String) : Script NamingError :=
  .lines
    ["#pragma once", "", includeLine exportsFile, includeLine typesFile, "", "// Modules"] ++
  .sequence (modules.map moduleInclude)

/-- The names of the modules of a library, in the order in which they were
first met. -/
def moduleNames (overview : Overview) : List String :=
  overview.assembly.moduleIds.map overview.forest.name

/-- The header that includes all modules. -/
def umbrellaHeader (library : String) : Artifact :=
  { fileName := headerFile library
    generator :=
      { preamble := some banner
        generate := fun overview => umbrellaScript (moduleNames overview) } }

/-- The scalar types that the other headers refer to. -/
def scalarsScript : Script NamingError :=
  .lines
    ["#ifndef CODE_BINDER_BASE_TYPES",
      "#define CODE_BINDER_BASE_TYPES",
      "",
      "#ifdef __cplusplus",
      "#include <cstdint>",
      "#else // __cplusplus",
      "#include <stdint.h>",
      "#include <uchar.h>",
      "#endif // __cplusplus",
      "",
      "typedef signed char cbbool;",
      "typedef char16_t cbchar_t;",
      "typedef const char* cbstring;",
      "",
      "#endif // CODE_BINDER_BASE_TYPES"]

/-- The header with the scalar types. -/
def scalarsHeader : Artifact :=
  { fileName := scalarsFile
    generator := { preamble := some banner, generate := fun _ => scalarsScript } }

end Bindery.Header
