/-
How C spells types, parameters and macros, and the lines that headers share.
-/

import Bindery.Artifact.Target

namespace Bindery.Header

open Bindery.Layout

/-! ### Types -/

/-- The C spelling of a predefined type, if it has one. -/
def predefinedType? : String → Option String
  | "void" => some "void"
  | "bool" => some "cbbool"
  | "char" => some "cbchar_t"
  | "byte" => some "uint8_t"
  | "sbyte" => some "int8_t"
  | "short" => some "int16_t"
  | "ushort" => some "uint16_t"
  | "int" => some "int"
  | "uint" => some "uint32_t"
  | "long" => some "int64_t"
  | "ulong" => some "uint64_t"
  | "float" => some "float"
  | "double" => some "double"
  | "IntPtr" => some "void*"
  | "nint" => some "void*"
  | "string" => some "cbstring"
  | _ => none

/-- The C spelling of a type. Named types are bound already and stay as they
are. -/
def spellType : TypeRef → Except NamingError String
  | .named name => .ok name
  | .predefined name =>
    match predefinedType? name with
    | some spelling => .ok spelling
    | none => .error (.unsupportedType name)

/-- One parameter: its type and its name. -/
def spellParam (param : Param) : Except NamingError String := do
  return (← spellType param.type) ++ " " ++ param.name

/-- The parameters one by one; the first that cannot be spelled decides. -/
def spellParams : List Param → Except NamingError (List String)
  | [] => .ok []
  | param :: rest => do
    let spelled ← spellParam param
    return spelled :: (← spellParams rest)

/-- A parameter list, without its parentheses. -/
def paramList (params : List Param) : Except NamingError String := do
  return Text.joinWith ", " (← spellParams params)

/-! ### Macros -/

/-- A macro that belongs to a library: its name in upper case, and a suffix. -/
def libraryMacro (library suffix : String) : String :=
  Naming.upper library ++ "_" ++ suffix

/-- The macro that marks exported functions. -/
def apiMacro (library : String) : String :=
  libraryMacro library "SHARED_API"

/-! ### Shared lines -/

/-- The line in front of headers that are not meant to be edited. -/
def banner : String :=
  "/* This file was generated. DO NOT EDIT! */"

/-- The header with the scalar types. -/
def scalarsFile : String := "CBBaseTypes.h"

/-- The header with the export macros. -/
def exportsFile : String := "libdefs.h"

/-- The header with the shared types. -/
def typesFile : String := "Types.h"

/-- The header of a module, or of a library as a whole. -/
def headerFile (name : String) : String :=
  name ++ ".h"

/-- A line that includes a header. -/
def includeLine (file : String) : String :=
  "#include \"" ++ file ++ "\""

/-- Opens C linkage; `marker` stands behind the last directive. -/
def openLinkage {ε : Type} (marker : String) : Script ε :=
  .lines ["#ifdef __cplusplus", "extern \"C\"", "\x7b", "#endif" ++ marker]

/-- Closes C linkage. -/
def closeLinkage {ε : Type} (marker : String) : Script ε :=
  .lines ["#ifdef __cplusplus", "\x7d", "#endif" ++ marker]

/-- The script that writes a spelling, or fails if there is none. -/
def spelled {α : Type} (spelling : Except NamingError α) (write : α → Script NamingError) :
    Script NamingError :=
  match spelling with
  | .ok text => write text
  | .error e => .fail e

end Bindery.Header
