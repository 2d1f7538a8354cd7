/-
Converting a library.

A conversion validates the library, surveys it, asks the target for its
artifacts and renders every one of them. Validation can be overruled. An
artifact that fails does not keep the others from being rendered: the result
lists the files that were rendered and the artifacts that failed, both in the
order of the manifest.

Texts can be of any size here. `Library.convertWithin` tells what becomes of a
conversion where they cannot.
-/

import Bindery.Artifact.Target
import Bindery.Declaration.Validation

namespace Bindery

open Bindery.Layout

variable {γ : Type}

/-- The options of a conversion. -/
structure Options where
  /-- Sources and targets of namespace mappings, in order. -/
  mappings : List (String × String) := []
  normalization : Normalization := .keep
  /-- The spaces of one indentation level. -/
  indentWidth : Nat := 4
  /-- Overrides what the target does about byte-order marks. -/
  byteOrderMark : Option Bool := none
  /-- Whether misuses are overruled. -/
  ignoreMisuses : Bool := false

/-- The rule by which namespaces are mapped. -/
def Options.rule (options : Options) : NamespaceRule :=
  ⟨NamespaceMap.ofList options.mappings, options.normalization⟩

/-- The byte-order mark that holds by default. -/
def Options.defaultMark (options : Options) (target : Target γ) : Bool :=
  options.byteOrderMark.getD target.byteOrderMark

/-- An artifact that failed, by its path. -/
structure ArtifactError where
  relativePath : String
  cause : GenerateError
  deriving DecidableEq, Repr

/-- The result of a conversion. -/
structure Result where
  outputs : List Rendered := []
  errors : List ArtifactError := []
  deriving DecidableEq, Repr

namespace Result

/-- Whether no artifact has failed. -/
def isSuccess (result : Result) : Bool :=
  result.errors.isEmpty

/-- The first output with the given path. -/
def output? (result : Result) (relativePath : String) : Option Rendered :=
  result.outputs.find? fun output => output.relativePath = relativePath

/-- The position of the first output with the given path. -/
def outputIndex? (result : Result) (relativePath : String) : Option Nat :=
  result.outputs.findIdx? fun output => output.relativePath = relativePath

end Result

/-- Why a conversion has no result. -/
inductive ConversionError where
  /-- The library has misuses. -/
  | invalid (misuses : List Misuse)
  /-- The contexts do not make a forest. -/
  | conflict (conflict : Conflict)
  /-- A script wrote to an emitter that was closed, or more than there is room for. -/
  | aborted

/-- The text of an error, where there is room for all texts. -/
def ConversionError.message : ConversionError → String
  | invalid misuses => Misuse.renderReport misuses
  | conflict c => "invalid context tree: " ++ c.message
  | aborted => abortMessage

/-- Surveys a library and asks the target for its artifacts. -/
def Library.collect (library : Library) (target : Target γ) (options : Options) :
    Except Conflict (Collection γ) := do
  let survey ← library.survey options.rule
  let aggregate : Aggregate γ :=
    { toSurvey := survey, libraryName := library.name, rule := options.rule }
  return aggregate.collect target

/-- Puts the results of rendering some artifacts together. There is no result
when one of them was aborted. -/
def gather : List (Artifact γ × RenderResult) → Option Result
  | [] => some {}
  | (artifact, result) :: rest =>
    match result, gather rest with
    | _, none | .aborted, _ => none
    | .rendered output, some others => some { others with outputs := output :: others.outputs }
    | .failed cause, some others =>
      some { others with errors := ⟨artifact.relativePath, cause⟩ :: others.errors }

/-- Puts the results of rendering all artifacts of a collection together. -/
def Collection.renderBy (collection : Collection γ) (render : Artifact γ → RenderResult) :
    Option Result :=
  gather (collection.manifest.map fun artifact => (artifact, render artifact))

/-- Converts a library whose collections are rendered as told by `render`. -/
def Library.convertBy (library : Library) (target : Target γ) (options : Options)
    (render : Collection γ → Option Result) : Except ConversionError Result :=
  if !library.misuses.isEmpty && !options.ignoreMisuses then .error (.invalid library.misuses)
  else
    match library.collect target options with
    | .error c => .error (.conflict c)
    | .ok collection =>
      match render collection with
      | some result => .ok result
      | none => .error .aborted

variable [ContentGenerator γ]

/-- Renders every artifact of a collection. -/
def Collection.render (collection : Collection γ) (target : Target γ) (options : Options) :
    Option Result :=
  collection.renderBy fun artifact =>
    artifact.render collection.aggregate options.indentWidth (options.defaultMark target)

/-- Renders every artifact of a collection where no text is larger than `room`
bytes. -/
def Collection.renderWithin (collection : Collection γ) (target : Target γ) (options : Options)
    (room : Nat) : Option Result :=
  collection.renderBy fun artifact =>
    artifact.renderWithin collection.aggregate options.indentWidth room
      (options.defaultMark target)

/-- Converts a library. -/
def Library.convert (library : Library) (target : Target γ) (options : Options) :
    Except ConversionError Result :=
  library.convertBy target options (·.render target options)

/-- Converts a library where no text is larger than `room` bytes. -/
def Library.convertWithin (library : Library) (target : Target γ) (options : Options)
    (room : Nat) : Except ConversionError Result :=
  library.convertBy target options (·.renderWithin target options room)

end Bindery
