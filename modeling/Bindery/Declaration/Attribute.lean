/-
Binding attributes of declarations and members.

An `Attribute` is one piece of binding metadata, and the attributes of a symbol
are a list in the order of declaration. The readers (`explicitBinding`, `stem`,
`substitution`, `moduleName`) answer with the first attribute of their kind;
validation rules out a second one.
-/

namespace Bindery

/-- One piece of binding metadata. -/
inductive Attribute where
  /-- The target identifier, used verbatim for the symbol. -/
  | explicitBinding (name : String)
  /-- The stem of the identifiers made for the members of an enum. -/
  | stem (name : String)
  /-- A pattern substitution applied to the identifiers of enum members. -/
  | substitution (pattern replacement : String)
  /-- The symbol is left out. -/
  | ignore
  /-- The declaration gives its native methods to the named module. -/
  | moduleName (name : String)
  deriving DecidableEq, Repr

/-- The kind of an attribute, without what it carries. -/
inductive Attribute.Kind where
  | explicitBinding
  | stem
  | substitution
  | ignore
  | moduleName
  deriving DecidableEq, Repr

/-- The name of a kind in reports. -/
def Attribute.Kind.label : Attribute.Kind → String
  | explicitBinding => "ExplicitBinding"
  | stem => "Stem"
  | substitution => "Substitution"
  | ignore => "Ignore"
  | moduleName => "ModuleName"

/-- The kind of an attribute. -/
def Attribute.kind : Attribute → Attribute.Kind
  | explicitBinding _ => .explicitBinding
  | stem _ => .stem
  | substitution _ _ => .substitution
  | ignore => .ignore
  | moduleName _ => .moduleName

/-- The attributes of one symbol, in the order of declaration. -/
abbrev Attributes := List Attribute

namespace Attributes

/-- The first explicit binding name. -/
def explicitBinding (attributes : Attributes) : Option String :=
  attributes.findSome? fun
    | .explicitBinding name => some name
    | _ => none

/-- The first stem. -/
def stem (attributes : Attributes) : Option String :=
  attributes.findSome? fun
    | .stem name => some name
    | _ => none

/-- The pattern and the replacement of the first substitution. -/
def substitution (attributes : Attributes) : Option (String × String) :=
  attributes.findSome? fun
    | .substitution pattern replacement => some (pattern, replacement)
    | _ => none

/-- The first module name. -/
def moduleName (attributes : Attributes) : Option String :=
  attributes.findSome? fun
    | .moduleName name => some name
    | _ => none

/-- Whether the symbol is left out. -/
def isIgnored (attributes : Attributes) : Bool :=
  attributes.any (·.kind == .ignore)

/-- The number of attributes of a kind. -/
def countKind (attributes : Attributes) (kind : Attribute.Kind) : Nat :=
  attributes.countP (·.kind == kind)

end Attributes

end Bindery
