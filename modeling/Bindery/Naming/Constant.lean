/-
Names of types and of enum constants.

A type is called by its explicit binding, or else by its identifier. The
constants of an enum start with its stem: behind the stem and an underscore
come the words of the member's identifier in upper case, joined by underscores,
or, when the enum has a substitution, the substituted identifier in upper case.
A member with an explicit binding takes it verbatim, and a member that is left
out gives no constant. The main definitions are

* `Decl.bindingName`, the name of a type;
* `ConstantNaming.of`, the rule by which an enum names its members, or why
  there is none;
* `EnumBinding.of`, all constants of an enum, with the sentinel at the end.
-/

import Bindery.Declaration.Basic
import Bindery.Naming.PatternEngine
import Bindery.Naming.Replacement
import Bindery.Naming.Words
import Bindery.Text.Segments
import Bindery.Unicode.Case

namespace Bindery

/-- A text that is no pattern, and what the engine finds wrong with it. -/
structure RejectedPattern where
  text : String
  reason : String
  deriving DecidableEq, Repr

/-- Why a symbol has no binding. -/
inductive NamingError where
  /-- An enum without a stem, by its qualified name. -/
  | missingStem (enum : String)
  /-- An enum whose substitution is no pattern. -/
  | invalidSubstitution (enum : String) (pattern : RejectedPattern)
  /-- A predefined type that the target cannot spell. -/
  | unsupportedType (name : String)
  deriving DecidableEq, Repr

/-- The text of a naming error. -/
def NamingError.message : NamingError → String
  | missingStem enum => "enum `" ++ enum ++ "` has no stem attribute"
  | invalidSubstitution enum pattern =>
    "enum `" ++ enum ++ "` has an invalid substitution pattern `" ++ pattern.text ++ "`: " ++
      pattern.reason
  | unsupportedType name => "unsupported predefined type `" ++ name ++ "`"

/-! ### Types -/

/-- The name of a type in the target. -/
def Decl.bindingName (decl : Decl) : String :=
  decl.attributes.explicitBinding.getD decl.identifier

/-- The name of a type in the target, unless it is left out. -/
def Decl.bindingName? (decl : Decl) : Option String :=
  if decl.attributes.isIgnored then none else some decl.bindingName

namespace Naming

/-! ### Constants -/

/-- A substitution that is ready to be used. -/
structure Substitution where
  replaceAll : Replacer
  template : String

/-- How an enum names its members. -/
structure ConstantNaming where
  stem : String
  substitution : Option Substitution

/-- The parts of which the name of a constant is made, before they are put in
upper case. -/
def ConstantNaming.parts (naming : ConstantNaming) (identifier : String) : List String :=
  match naming.substitution with
  | some substitution => [substitution.replaceAll substitution.template identifier]
  | none => words identifier

/-- A text in upper case. -/
def upper (text : String) : String :=
  String.ofList (Unicode.upperCase text.toList)

/-- What stands behind the stem and an underscore in the name of a constant. -/
def ConstantNaming.tail (naming : ConstantNaming) (identifier : String) : String :=
  Text.joinWith "_" ((naming.parts identifier).map upper)

/-- The name of the constant of a member. -/
def ConstantNaming.constant (naming : ConstantNaming) (member : EnumMember) : String :=
  match member.attributes.explicitBinding with
  | some name => name
  | none => naming.stem ++ "_" ++ naming.tail member.name

section Engine

variable [PatternEngine]

/-- The naming of an enum. The stem is looked for first. -/
def ConstantNaming.of (decl : Decl) : Except NamingError ConstantNaming :=
  match decl.attributes.stem with
  | none => .error (.missingStem decl.qualifiedName)
  | some stem =>
    match decl.attributes.substitution with
    | none => .ok ⟨stem, none⟩
    | some (pattern, replacement) =>
      match PatternEngine.compile pattern with
      | .error reason => .error (.invalidSubstitution decl.qualifiedName ⟨pattern, reason⟩)
      | .ok replaceAll =>
        .ok ⟨stem, some ⟨replaceAll, String.ofList (braceNumbers replacement.toList)⟩⟩

/-- The name of the constant of one enum member, unless it is left out. An
explicit binding needs no naming. -/
def constantName? (decl : Decl) (member : EnumMember) : Except NamingError (Option String) :=
  if member.attributes.isIgnored then .ok none
  else
    match member.attributes.explicitBinding with
    | some name => .ok (some name)
    | none =>
      match ConstantNaming.of decl with
      | .error e => .error e
      | .ok naming => .ok (some (naming.constant member))

end Engine

/-! ### Enums -/

/-- The value of a constant: the one declared, or that of the sentinel, which
makes the enum take 32 bits. -/
inductive ConstantValue where
  | declared (value : Int)
  | sentinel
  deriving DecidableEq, Repr

/-- A value as it is written. -/
def ConstantValue.render : ConstantValue → String
  | declared value => toString value
  | sentinel => "0xFFFFFFFF"

/-- A constant of an enum. -/
structure Constant where
  name : String
  value : ConstantValue
  deriving DecidableEq, Repr

/-- An enum with all its names. -/
structure EnumBinding where
  name : String
  stem : String
  constants : List Constant
  deriving DecidableEq, Repr

/-- The constant behind all others, named after the stem. -/
def EnumBinding.sentinel (binding : EnumBinding) : Constant :=
  ⟨"__" ++ binding.stem ++ "__", .sentinel⟩

/-- The constants in order, the sentinel last. -/
def EnumBinding.allConstants (binding : EnumBinding) : List Constant :=
  binding.constants ++ [binding.sentinel]

/-- The names of an enum and of its members that are not left out. -/
def EnumBinding.of [PatternEngine] (decl : Decl) : Except NamingError EnumBinding :=
  match ConstantNaming.of decl with
  | .error e => .error e
  | .ok naming =>
    .ok
      { name := decl.bindingName
        stem := naming.stem
        constants := (decl.enumMembers.filter fun m => !m.attributes.isIgnored).map fun m =>
          ⟨naming.constant m, .declared m.value⟩ }

end Naming

end Bindery
