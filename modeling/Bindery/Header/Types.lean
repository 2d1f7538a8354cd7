/-
The header with the types that all modules share: opaque types, enums with
their sentinel, callbacks and structs, each in the order of discovery.
-/

import Bindery.Header.Spelling

namespace Bindery.Header

open Bindery.Layout

/-! ### Opaque types -/

/-- An opaque type, which is a name for nothing known. -/
def opaqueType (decl : Decl) : Script NamingError :=
  .write "#define " (.write decl.bindingName (.line " void" .done))

/-- The section of opaque types, which is left out when there are none. -/
def opaqueSection (decls : List Decl) : Script NamingError :=
  if decls.isEmpty then .done
  else .lines ["// Opaque types", ""] ++ .sequence (decls.map opaqueType) ++ .newline

/-! ### Enums -/

/-- A constant with its value. -/
def constantLine (constant : Naming.Constant) : Script NamingError :=
  .write constant.name (.write " = " (.write constant.value.render (.line "," .done)))

/-- An enum with all its constants, the sentinel last. -/
def enumBlock (binding : Naming.EnumBinding) : Script NamingError :=
  .lines ["typedef enum", "\x7b"] ++
  .block (.indentWith ("\x7d " ++ binding.name ++ ";") true)
    (.sequence (binding.allConstants.map constantLine)) .done ++
  .newline

/-- An enum by its declaration, which fails if it cannot be named. -/
def enumType [PatternEngine] (decl : Decl) : Script NamingError :=
  spelled (Naming.EnumBinding.of decl) enumBlock

/-- The section of enums. -/
def enumSection [PatternEngine] (decls : List Decl) : Script NamingError :=
  .lines ["// Enums", ""] ++ .sequence (decls.map enumType)

/-! ### Callbacks -/

/-- A callback as a pointer to a function. A delegate without a signature takes
and returns nothing. -/
def callbackType (decl : Decl) : Script NamingError :=
  let signature := decl.signature.getD {}
  spelled (spellType signature.returns) fun returns =>
    .write "typedef " (.write returns (.write "(*" (.write decl.bindingName (.write ")("
      (spelled (paramList signature.params) fun params =>
        .write params (.line ");" .done))))))

/-- The section of callbacks. -/
def callbackSection (decls : List Decl) : Script NamingError :=
  .lines ["// Function pointer delegates", ""] ++ .sequence (decls.map callbackType)

/-! ### Structs -/

/-- A field with its type. -/
def fieldLine (field : Field) : Script NamingError :=
  spelled (spellType field.type) fun type =>
    .write type (.write " " (.write field.name (.line ";" .done)))

/-- A struct with the fields that are not left out. -/
def structType (decl : Decl) : Script NamingError :=
  .write "struct " (.line decl.bindingName (.line "\x7b" .done)) ++
  .block (.indentWith "\x7d;" true)
    (.sequence ((decl.fields.filter fun field => !field.attributes.isIgnored).map fieldLine))
    .done ++
  .newline

/-- The section of structs, which is left out when there are none. -/
def structSection (decls : List Decl) : Script NamingError :=
  if decls.isEmpty then .done
  else .lines ["// Struct types", ""] ++ .sequence (decls.map structType)

/-! ### The header -/

/-- The shared types of a library. -/
def typesScript [PatternEngine] (overview : Overview) : Script NamingError :=
  .lines ["#pragma once", "", includeLine scalarsFile, ""] ++
  opaqueSection overview.opaques ++
  openLinkage " // __cplusplus" ++
  enumSection overview.enums ++
  callbackSection overview.callbacks ++
  structSection overview.structs ++
  .newline ++
  closeLinkage " // __cplusplus"

/-- The header with the shared types. -/
def typesHeader [PatternEngine] : Artifact :=
  { fileName := typesFile
    generator := { generate := typesScript } }

end Bindery.Header
