/-
Targets and the artifacts that they produce.

An `Artifact` is an output with its place and the generator that writes it. What
is known of a library is first an `Overview`, the result of its survey, and then
an `Aggregate`, which has the artifacts decided so far as well: a generator is
given the aggregate, so that it can read the other artifacts, and even ask their
generators. A `Target` decides which artifacts a library has: some for each
context, and some for the library as a whole. `Collection` is an aggregate with
all artifacts, and its manifest lists them in the order in which they are rendered.

The generators are of one type `γ`, and `ContentGenerator γ` says what they write.
A `Writer` is a generator that reads the overview alone, and the type that is meant
where none is given.
-/

import Bindery.Artifact.Placement
import Bindery.Context.Survey
import Bindery.Layout.Script
import Bindery.Naming.Constant

namespace Bindery

open Bindery.Layout

/-! ### What is known of a library -/

/-- What is known of a library before any output is decided: its name, the result
of its survey and how its namespaces are mapped. -/
structure Overview extends Survey where
  libraryName : String
  rule : NamespaceRule

/-- The forest of contexts. -/
def Overview.forest (overview : Overview) : ContextForest :=
  overview.assembly.forest

/-- A generator that reads the overview of a library and none of its outputs: the
text that is put in front and the script that writes the rest. -/
structure Writer where
  preamble : Option String := none
  generate : Overview → Script NamingError

/-- An output with its generator. -/
structure Artifact (γ : Type := Writer) extends Placement where
  generator : γ

/-- All that is known of a library: its overview, and the outputs decided so far,
those of each context by its number. -/
structure Aggregate (γ : Type := Writer) extends Overview where
  contextOutputs : Array (List (Artifact γ)) := #[]
  defaultOutputs : List (Artifact γ) := []

/-- What generators write: a text in front, and the content by a script. -/
class ContentGenerator (γ : Type) where
  preamble : γ → Option String
  write : γ → Aggregate γ → Script NamingError

instance : ContentGenerator Writer where
  preamble := Writer.preamble
  write writer aggregate := writer.generate aggregate.toOverview

/-- The output side of a conversion. -/
structure Target (γ : Type := Writer) where
  name : String
  /-- Whether files start with a byte-order mark unless told otherwise. -/
  byteOrderMark : Bool
  /-- The outputs of one context. -/
  contextArtifacts : Aggregate γ → ContextId → List (Artifact γ)
  /-- The outputs of the library as a whole. -/
  defaultArtifacts : Aggregate γ → List (Artifact γ)

variable {γ : Type}

/-! ### Rendering -/

/-- Why an artifact has no text. -/
inductive GenerateError where
  | naming (error : NamingError)
  | emit (reason : Refusal)
  deriving DecidableEq, Repr

/-- The text of an error. -/
def GenerateError.message : GenerateError → String
  | naming e => e.message
  | emit reason => reason.message

/-- The result of rendering one artifact. -/
inductive RenderResult where
  | rendered (output : Rendered)
  | failed (cause : GenerateError)
  /-- The script wrote to an emitter that was closed, or more than there is room for. -/
  | aborted
  deriving DecidableEq, Repr

namespace Artifact

variable [ContentGenerator γ]

/-- The text in front of an artifact. -/
def preamble (artifact : Artifact γ) : Option String :=
  ContentGenerator.preamble artifact.generator

/-- The script that writes the content of an artifact. -/
def generate (artifact : Artifact γ) (aggregate : Aggregate γ) : Script NamingError :=
  ContentGenerator.write artifact.generator aggregate

/-- The whole script of an artifact, its preamble first. -/
def script (artifact : Artifact γ) (aggregate : Aggregate γ) : Script NamingError :=
  match artifact.preamble with
  | some text => .line text (artifact.generate aggregate)
  | none => artifact.generate aggregate

/-- Renders an artifact on a page of its own, with the given spaces per level
and the byte-order mark that holds by default. -/
def render (artifact : Artifact γ) (aggregate : Aggregate γ) (width : Nat)
    (defaultMark : Bool) : RenderResult :=
  let run := (artifact.script aggregate).run 0 (Family.root width)
  match run.ending with
  | .done => .rendered
    { relativePath := artifact.relativePath
      content := (run.family.close 0).page.text
      byteOrderMark := artifact.byteOrderMark.getD defaultMark }
  | .refused reason => .failed (.emit reason)
  | .failed cause => .failed (.naming cause)
  | .aborted => .aborted

/-- The size in bytes of the page of an artifact, when all is written. -/
def pageSize (artifact : Artifact γ) (aggregate : Aggregate γ) (width : Nat) : Nat :=
  let run := (artifact.script aggregate).run 0 (Family.root width)
  (run.family.close 0).page.text.utf8ByteSize

/-- Whether the page of an artifact is no larger than `room` bytes. A page only
grows, so that it has been no larger at any time. -/
def Fits (artifact : Artifact γ) (aggregate : Aggregate γ) (width room : Nat) : Prop :=
  artifact.pageSize aggregate width ≤ room

instance (artifact : Artifact γ) (aggregate : Aggregate γ) (width room : Nat) :
    Decidable (artifact.Fits aggregate width room) :=
  inferInstanceAs (Decidable (_ ≤ _))

/-- Renders an artifact where no text is larger than `room` bytes: one that does not
fit is aborted. -/
def renderWithin (artifact : Artifact γ) (aggregate : Aggregate γ) (width room : Nat)
    (defaultMark : Bool) : RenderResult :=
  if artifact.Fits aggregate width room then artifact.render aggregate width defaultMark
  else .aborted

end Artifact

/-! ### Collections -/

/-- The artifacts of one context. -/
def Aggregate.artifactsAt (aggregate : Aggregate γ) (id : ContextId) : List (Artifact γ) :=
  aggregate.contextOutputs.getD id []

/-- The artifacts in the order in which they are rendered: those of the
contexts, read in the order of the forest, then those of the library. -/
def Aggregate.manifest (aggregate : Aggregate γ) : List (Artifact γ) :=
  aggregate.forest.preOrder.flatMap aggregate.artifactsAt ++ aggregate.defaultOutputs

/-- A library with all its artifacts: an aggregate in which every output is
decided. -/
structure Collection (γ : Type := Writer) where
  aggregate : Aggregate γ

namespace Collection

/-- The artifacts of one context. -/
def artifactsAt (collection : Collection γ) (id : ContextId) : List (Artifact γ) :=
  collection.aggregate.artifactsAt id

/-- The artifacts of the library as a whole. -/
def defaultArtifacts (collection : Collection γ) : List (Artifact γ) :=
  collection.aggregate.defaultOutputs

/-- The artifacts in the order in which they are rendered. -/
def manifest (collection : Collection γ) : List (Artifact γ) :=
  collection.aggregate.manifest

theorem manifest_eq (collection : Collection γ) :
    collection.manifest = collection.aggregate.forest.preOrder.flatMap collection.artifactsAt ++
      collection.defaultArtifacts :=
  rfl

end Collection

/-- Stores what contexts were given one after the other, each in place of what it
had. A context has nothing at first. -/
def storeByContext {α : Type} (contexts : Nat) (answers : List (ContextId × List α)) :
    Array (List α) :=
  answers.foldl (fun stored answer => stored.setIfInBounds answer.1 answer.2)
    (Array.replicate contexts [])

/-- Asks a target for its artifacts. The contexts are asked in the order of the
forest, before any output is decided, and the library when theirs are stored. -/
def Aggregate.collect (aggregate : Aggregate γ) (target : Target γ) : Collection γ :=
  let answers :=
    aggregate.forest.preOrder.map fun id => (id, target.contextArtifacts aggregate id)
  let placed :=
    { aggregate with contextOutputs := storeByContext aggregate.forest.size answers }
  ⟨{ placed with defaultOutputs := target.defaultArtifacts placed }⟩

end Bindery
