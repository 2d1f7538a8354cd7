/-
The header with the export macros of a library.
-/

import Bindery.Header.Spelling

namespace Bindery.Header

open Bindery.Layout

/-- A line of its own on a child, one level deeper. -/
def deeperLine {ε : Type} (text : String) : Script ε :=
  .child 1 (.line text .done) .done

/-- The export macros of a library: what marks a function as exported or
imported, for shared and for static linking. -/
def exportsScript (library : String) : Script NamingError :=
  let isStatic := libraryMacro library "STATIC"
  let shared := libraryMacro library "SHARED"
  let api := apiMacro library
  let imports := libraryMacro library "IMPORT"
  let exports := libraryMacro library "EXPORT"
  .lines
    ["#pragma once", "",
      "#if defined(" ++ shared ++ ") || !defined(" ++ isStatic ++ ")", "",
      "#ifdef " ++ exports] ++
  .block .indent
    (.line "#ifdef _MSC_VER" .done ++
      deeperLine ("#define " ++ api ++ " __declspec(dllexport)") ++
      .line "#else // Non MVSC" .done ++
      deeperLine ("#define " ++ api ++ " __attribute__ ((visibility (\"default\")))") ++
      .line "#endif" .done)
    .done ++
  .line "#else" .done ++
  .block .indent
    (.lines ["#define " ++ imports, "#ifdef _MSC_VER"] ++
      deeperLine ("#define " ++ api ++ " __declspec(dllimport)") ++
      .line "#else" .done ++
      deeperLine ("#define " ++ api) ++
      .line "#endif" .done)
    .done ++
  .lines ["#endif", "", "#else"] ++
  .block .indent
    (.lines ["#define " ++ api, "#ifndef " ++ exports] ++
      deeperLine ("#define " ++ imports) ++
      .line "#endif" .done)
    .done ++
  .line "#endif" .done

/-- The header with the export macros. -/
def exportsHeader : Artifact :=
  { fileName := exportsFile
    generator := { generate := fun overview => exportsScript overview.libraryName } }

end Bindery.Header
