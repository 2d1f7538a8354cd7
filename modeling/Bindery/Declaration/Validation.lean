/-
Validation of binding attributes.

Every symbol of a library is checked, those left out included, and every fault
is reported: the report is the list of all misuses, in the order in which the
symbols are declared. The main definitions are

* `faultsAt`, the faults of the attributes of one symbol;
* `Decl.misuses`, the misuses in a declaration and its members;
* `Library.misuses`, the report of a library, empty exactly when it is valid.
-/

import Bindery.Declaration.Basic

namespace Bindery

/-- The place of a symbol, which decides the attributes that it may carry. -/
inductive Site where
  | declaration (kind : DeclKind)
  | member
  deriving DecidableEq, Repr

/-- A fault in the attributes of a symbol. -/
inductive Fault where
  /-- An explicit binding without a name. -/
  | emptyBinding
  /-- An attribute of a kind that has no meaning at this place. -/
  | misplaced (kind : Attribute.Kind)
  /-- Two or more attributes of a kind that is read once. -/
  | repeated (kind : Attribute.Kind)
  /-- A delegate without a signature. -/
  | missingSignature
  deriving DecidableEq, Repr

/-- The text of a fault. -/
def Fault.message : Fault → String
  | emptyBinding => "explicit binding name is empty"
  | misplaced kind => "attribute " ++ kind.label ++ " is not allowed here"
  | repeated kind => "attribute " ++ kind.label ++ " declared more than once"
  | missingSignature => "delegate declared without a signature"

/-- A fault together with the qualified name of the symbol that has it. -/
structure Misuse where
  symbol : String
  fault : Fault
  deriving DecidableEq, Repr

/-- A misuse as a line of a report. -/
def Misuse.render (misuse : Misuse) : String :=
  misuse.symbol ++ ": " ++ misuse.fault.message

/-- The text of a report: the number of misuses, then one line for each. -/
def Misuse.renderReport (misuses : List Misuse) : String :=
  misuses.foldl (fun text misuse => text ++ "\n" ++ misuse.render)
    (toString misuses.length ++ " validation errors:")

/-! ### One symbol -/

/-- Whether attributes of a kind have a meaning at a place: stems and
substitutions belong to enums, and module names to classes and structs. -/
def Attribute.Kind.allowedAt : Attribute.Kind → Site → Bool
  | .explicitBinding, _ | .ignore, _ => true
  | .stem, site | .substitution, site => site == .declaration .enumType
  | .moduleName, site => site == .declaration .classType || site == .declaration .structType

/-- The fault of one attribute on its own. -/
def Attribute.faultAt (site : Site) (a : Attribute) : Option Fault :=
  if a = .explicitBinding "" then some .emptyBinding
  else if a.kind.allowedAt site then none
  else some (.misplaced a.kind)

/-- The kinds of attribute that a symbol may carry once only, in the order in
which repetitions are reported. -/
def onceOnly : List Attribute.Kind :=
  [.explicitBinding, .stem, .moduleName, .substitution]

/-- The faults of the attributes of one symbol: those of each attribute in
order, then the repetitions. -/
def faultsAt (site : Site) (attributes : Attributes) : List Fault :=
  attributes.filterMap (Attribute.faultAt site) ++
    (onceOnly.filter fun kind => 1 < attributes.countKind kind).map .repeated

/-- The faults of a declaration itself, its members aside. -/
def Decl.ownFaults (decl : Decl) : List Fault :=
  faultsAt (.declaration decl.kind) decl.attributes ++
    if decl.kind = .delegate ∧ decl.signature = none then [.missingSignature] else []

/-! ### Whole declarations -/

mutual

/-- The misuses in a declaration: its own, then those of its members in
order. -/
def Decl.misuses : Decl → List Misuse
  | ⟨kind, identifier, namespacePath, attributes, members, signature⟩ =>
    let decl : Decl := ⟨kind, identifier, namespacePath, attributes, members, signature⟩
    decl.ownFaults.map (Misuse.mk decl.qualifiedName) ++
      Member.misuses decl.qualifiedName members

/-- The misuses in the members of the declaration called `owner`. -/
def Member.misuses (owner : String) : List Member → List Misuse
  | [] => []
  | .nested decl :: rest => decl.misuses ++ Member.misuses owner rest
  | .method m :: rest =>
    (faultsAt .member m.attributes).map (Misuse.mk (owner ++ "." ++ m.name)) ++
      Member.misuses owner rest
  | .field f :: rest =>
    (faultsAt .member f.attributes).map (Misuse.mk (owner ++ "." ++ f.name)) ++
      Member.misuses owner rest
  | .enumMember e :: rest =>
    (faultsAt .member e.attributes).map (Misuse.mk (owner ++ "." ++ e.name)) ++
      Member.misuses owner rest

end

/-- The misuses in a library, in the order of declaration. -/
def Library.misuses (library : Library) : List Misuse :=
  library.types.flatMap Decl.misuses

end Bindery
