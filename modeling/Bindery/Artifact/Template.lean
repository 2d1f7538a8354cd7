/-
Targets described by lists of templates.

A `TemplateTarget` lists, for each kind of context and for the library as a
whole, the files to write and the scripts that write them. In the name of a
file a pair of braces stands for the name of the context, or of the library. The
module is for programs, which get the engine for patterns with it.
-/

import Bindery.Artifact.Target
import Bindery.Pattern.Engine

namespace Bindery

open Bindery.Layout

/-- A file to write: its place, with a name that may have blanks to fill in,
the text in front of it and the script that writes it. -/
structure FileTemplate extends Placement where
  preamble : Option String := none
  script : Script NamingError

/-- The text with every empty pair of braces replaced by `name`. -/
def fillBraces (name : List Char) : List Char → List Char
  | [] => []
  | '{' :: '}' :: rest => name ++ fillBraces name rest
  | c :: rest => c :: fillBraces name rest

/-- The artifact of a template for the given name. -/
def FileTemplate.instantiate (template : FileTemplate) (name : String) : Artifact :=
  { fileName := String.ofList (fillBraces name.toList template.fileName.toList)
    basePath := template.basePath
    byteOrderMark := template.byteOrderMark
    generator := { preamble := template.preamble, generate := fun _ => template.script } }

/-- A target that writes the same files for every context of a kind. -/
structure TemplateTarget where
  byteOrderMark : Bool := true
  types : List FileTemplate := []
  modules : List FileTemplate := []
  shares : List FileTemplate := []
  defaults : List FileTemplate := []

/-- The templates for a context. -/
def TemplateTarget.templatesFor (target : TemplateTarget) : ContextKind → List FileTemplate
  | .type _ _ => target.types
  | .module _ => target.modules
  | .share _ _ => target.shares

/-- The target that a list of templates describes. -/
def TemplateTarget.target (target : TemplateTarget) : Target :=
  { name := "template"
    byteOrderMark := target.byteOrderMark
    contextArtifacts := fun aggregate id =>
      match aggregate.forest.get? id with
      | some context =>
        (target.templatesFor context.kind).map (·.instantiate (aggregate.forest.name id))
      | none => []
    defaultArtifacts := fun aggregate =>
      target.defaults.map (·.instantiate aggregate.libraryName) }

end Bindery
