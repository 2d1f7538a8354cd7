/-
One pass over the declarations of a library.

The survey visits the declarations front to back, a type before the types
nested in it, and passes over every declaration that is left out together with
what is nested in it. For each one it adds a context, maps the namespace, files
the declaration in a catalogue and attaches its exported methods to the module
that it names. `Library.survey` gives the result of the whole pass.
-/

import Bindery.Context.Assembly
import Bindery.Naming.NamespaceMap

namespace Bindery

/-- What the visits have gathered so far. The catalogues are in the order of the
visits. -/
structure Survey where
  assembly : Assembly := {}
  /-- The enums with an explicit binding. -/
  enums : List Decl := []
  /-- The delegates. -/
  callbacks : List Decl := []
  /-- The classes and interfaces with an explicit binding. -/
  opaques : List Decl := []
  /-- The structs with an explicit binding. -/
  structs : List Decl := []
  /-- The namespaces that are not empty, each once. -/
  namespaces : List String := []

/-- How namespaces are mapped during the visits. -/
structure NamespaceRule where
  mappings : NamespaceMap
  normalization : Normalization

/-- The namespace that a declaration is mapped to. -/
def NamespaceRule.mapped? (rule : NamespaceRule) (decl : Decl) : Option String :=
  rule.mappings.mapped? decl.namespacePath rule.normalization

namespace Survey

/-- Notes the namespace of a declaration. -/
def recordNamespace (survey : Survey) (namespacePath : String) : Survey :=
  if namespacePath.isEmpty || survey.namespaces.contains namespacePath then survey
  else { survey with namespaces := survey.namespaces ++ [namespacePath] }

/-- Files a declaration in its catalogue. Delegates are always filed, and other
types only with an explicit binding. -/
def catalogue (survey : Survey) (decl : Decl) : Survey :=
  match decl.kind, decl.attributes.explicitBinding with
  | .delegate, _ => { survey with callbacks := survey.callbacks ++ [decl] }
  | _, none => survey
  | .enumType, some _ => { survey with enums := survey.enums ++ [decl] }
  | .classType, some _ | .interface, some _ => { survey with opaques := survey.opaques ++ [decl] }
  | .structType, some _ => { survey with structs := survey.structs ++ [decl] }

/-- Gives a context its place: below the type around it, or among the roots. -/
def place (assembly : Assembly) (parent : Option ContextId) (id : ContextId) :
    Except Conflict Assembly :=
  match parent with
  | some parent => assembly.addChild parent id
  | none => assembly.addRoot id

/-- Attaches the exported methods of a declaration to the module that it names,
if it names one. -/
def attachModule (survey : Survey) (decl : Decl) (id : ContextId) : Except Conflict Survey :=
  match decl.attributes.moduleName with
  | none => .ok survey
  | some name => do
    let (_, assembly) ← survey.assembly.attach name id decl.exportedMethods
    return { survey with assembly }

/-- Visits a declaration that is not left out, the types nested in it aside,
and gives the number of its context. -/
def enter (rule : NamespaceRule) (decl : Decl) (parent : Option ContextId) (survey : Survey) :
    Except Conflict (ContextId × Survey) := do
  let (id, inserted) := survey.assembly.insert (.type decl (rule.mapped? decl))
  let assembly ← place inserted parent id
  let noted := ({ survey with assembly }.recordNamespace decl.namespacePath).catalogue decl
  let attached ← noted.attachModule decl id
  return (id, attached)

end Survey

mutual

/-- Visits a declaration and the types nested in it. -/
def Decl.visit (rule : NamespaceRule) :
    Decl → Option ContextId → Survey → Except Conflict Survey
  | ⟨kind, identifier, namespacePath, attributes, members, signature⟩, parent, survey =>
    if attributes.isIgnored then .ok survey
    else do
      let decl : Decl := ⟨kind, identifier, namespacePath, attributes, members, signature⟩
      let (id, entered) ← Survey.enter rule decl parent survey
      Member.visitAll rule members id entered

/-- Visits the types among the members of the type at `parent`. -/
def Member.visitAll (rule : NamespaceRule) :
    List Member → ContextId → Survey → Except Conflict Survey
  | [], _, survey => .ok survey
  | .nested decl :: rest, parent, survey => do
    Member.visitAll rule rest parent (← decl.visit rule (some parent) survey)
  | .method _ :: rest, parent, survey
  | .field _ :: rest, parent, survey
  | .enumMember _ :: rest, parent, survey => Member.visitAll rule rest parent survey

end

/-- Visits the declarations of a list, each as a root. -/
def Survey.visitRoots (rule : NamespaceRule) : List Decl → Survey → Except Conflict Survey
  | [], survey => .ok survey
  | decl :: rest, survey => do
    Survey.visitRoots rule rest (← decl.visit rule none survey)

/-- The survey of a library. -/
def Library.survey (library : Library) (rule : NamespaceRule) : Except Conflict Survey :=
  Survey.visitRoots rule library.types {}

end Bindery
