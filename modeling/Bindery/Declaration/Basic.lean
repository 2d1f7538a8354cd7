/-
Declared types and their members, and the library they make up.

A `Decl` is a type declaration: its kind, identifier and namespace, its
attributes, its members in the order of declaration and, for a delegate, its
signature. Declarations nest: a member may itself be a `Decl`. A `Library` is a
name together with its top-level declarations in the order of discovery.
-/

import Bindery.Declaration.Attribute

namespace Bindery

/-! ### Types and signatures -/

/-- A reference to a type in a signature or a field. -/
inductive TypeRef where
  /-- A type built into the source, which every target spells in its own way. -/
  | predefined (name : String)
  /-- An identifier that is bound already and is written as it is. -/
  | named (name : String)
  deriving DecidableEq, Repr

/-- A parameter of a method or delegate. -/
structure Param where
  name : String
  type : TypeRef
  deriving DecidableEq, Repr

/-- The return type and the parameters of a method or delegate. Without
further notice a signature takes nothing and returns nothing. -/
structure Signature where
  returns : TypeRef := .predefined "void"
  params : List Param := []
  deriving DecidableEq, Repr

/-! ### Members -/

/-- A method. A native method is an entry point of the library itself. -/
structure Method where
  name : String
  native : Bool := true
  signature : Signature := {}
  attributes : Attributes := []
  deriving DecidableEq, Repr

/-- A field. -/
structure Field where
  name : String
  type : TypeRef
  attributes : Attributes := []
  deriving DecidableEq, Repr

/-- A member of an enum, with its value. -/
structure EnumMember where
  name : String
  value : Int
  attributes : Attributes := []
  deriving DecidableEq, Repr

/-! ### Declarations -/

/-- The kind of a declared type. -/
inductive DeclKind where
  | classType
  | structType
  | enumType
  | delegate
  | interface
  deriving DecidableEq, Repr

mutual

/-- A type declaration. The namespace is dotted, and empty for the global
namespace. -/
structure Decl where
  kind : DeclKind
  identifier : String
  namespacePath : String
  attributes : Attributes
  members : List Member
  signature : Option Signature

/-- A member of a declared type. -/
inductive Member where
  | method (method : Method)
  | field (field : Field)
  | enumMember (member : EnumMember)
  | nested (decl : Decl)

end

/-- The name of a member. -/
def Member.name : Member → String
  | method m => m.name
  | field f => f.name
  | enumMember e => e.name
  | nested d => d.identifier

/-- The attributes of a member. -/
def Member.attributes : Member → Attributes
  | method m => m.attributes
  | field f => f.attributes
  | enumMember e => e.attributes
  | nested d => d.attributes

namespace Decl

/-- The identifier with its namespace in front, or alone in the global
namespace. -/
def qualifiedName (decl : Decl) : String :=
  if decl.namespacePath.isEmpty then decl.identifier
  else decl.namespacePath ++ "." ++ decl.identifier

/-- The methods, in the order of declaration. -/
def methods (decl : Decl) : List Method :=
  decl.members.filterMap fun
    | .method m => some m
    | _ => none

/-- The fields, in the order of declaration. -/
def fields (decl : Decl) : List Field :=
  decl.members.filterMap fun
    | .field f => some f
    | _ => none

/-- The enum members, in the order of declaration. -/
def enumMembers (decl : Decl) : List EnumMember :=
  decl.members.filterMap fun
    | .enumMember e => some e
    | _ => none

/-- The nested declarations, in the order of declaration. -/
def nestedTypes (decl : Decl) : List Decl :=
  decl.members.filterMap fun
    | .nested d => some d
    | _ => none

/-- The methods that a declaration offers to a module: the native ones that
are not left out. -/
def exportedMethods (decl : Decl) : List Method :=
  decl.methods.filter fun m => m.native && !m.attributes.isIgnored

end Decl

/-! ### Libraries -/

/-- The declarations of one library. -/
structure Library where
  name : String
  types : List Decl

mutual

/-- The number of declarations in a declaration, itself included. -/
def Decl.count : Decl → Nat
  | ⟨_, _, _, _, members, _⟩ => 1 + Member.countTypes members

/-- The number of declarations among some members, at any depth. -/
def Member.countTypes : List Member → Nat
  | [] => 0
  | .nested decl :: rest => decl.count + Member.countTypes rest
  | .method _ :: rest | .field _ :: rest | .enumMember _ :: rest => Member.countTypes rest

end

/-- The number of declarations of a library, nested ones included. -/
def Library.declarationCount (library : Library) : Nat :=
  library.types.foldl (fun total decl => total + decl.count) 0

end Bindery
