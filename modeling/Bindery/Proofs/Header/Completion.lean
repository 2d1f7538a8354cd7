/-
How a conversion ends.

A conversion has no result when the library is refused for its misuses, or when
the script of an artifact is aborted; `Library.convert_eq_error_iff` says so for
any target. The second never happens to the headers: their scripts are plain
(`Header.plain_manifest`), so that a library is refused or has a result
(`Library.convert_header_eq_error_iff`). What becomes of an artifact with a plain
script can be read off the script (`Artifact.render_of_plain`).
-/

import Bindery.Proofs.Header.Likeness
import Bindery.Proofs.Layout.Plain

namespace Bindery

open Bindery.Layout

variable {γ : Type}

/-! ### Artifacts -/

theorem gather_eq_none_iff {results : List (Artifact γ × RenderResult)} :
    gather results = none ↔ ∃ entry ∈ results, entry.2 = .aborted := by
  induction results with
  | nil => simp [gather]
  | cons entry rest ih =>
    obtain ⟨artifact, result⟩ := entry
    simp only [List.mem_cons, exists_eq_or_imp, ← ih]
    cases others : gather rest with
    | none => simp [gather, others]
    | some others' => cases result <;> simp [gather, others]

section Generators

variable [ContentGenerator γ]

/-- A collection is rendered unless one of its artifacts is aborted. -/
theorem Collection.render_eq_none_iff {collection : Collection γ} {target : Target γ}
    {options : Options} :
    collection.render target options = none ↔ ∃ artifact ∈ collection.manifest,
      artifact.render collection.aggregate options.indentWidth (options.defaultMark target) =
        .aborted := by
  rw [Collection.render, Collection.renderBy, gather_eq_none_iff]
  simp

/-- An artifact whose script never closes is not aborted. -/
theorem Artifact.render_ne_aborted {artifact : Artifact γ} {aggregate : Aggregate γ}
    (never : (artifact.generate aggregate).NeverCloses) (width : Nat) (defaultMark : Bool) :
    artifact.render aggregate width defaultMark ≠ .aborted := by
  have script : (artifact.script aggregate).NeverCloses := by
    rw [Artifact.script]
    cases artifact.preamble <;> exact never
  have chained : (Family.root width).Chained ([] ++ 0 :: []) := Family.chained_root width
  have ending := (Script.run_keeps script chained).ending
  simp only [Artifact.render]
  split
  · simp
  · simp
  · simp
  · contradiction

/-- The script of an artifact with its preamble is plain as well. -/
theorem Artifact.plain_script {artifact : Artifact γ} {aggregate : Aggregate γ}
    (plain : (artifact.generate aggregate).Plain) : (artifact.script aggregate).Plain := by
  rw [Artifact.script]
  cases artifact.preamble <;> exact plain

theorem Artifact.failure?_script (artifact : Artifact γ) (aggregate : Aggregate γ) :
    (artifact.script aggregate).failure? = (artifact.generate aggregate).failure? := by
  rw [Artifact.script]
  cases artifact.preamble <;> rfl

/-- **An artifact with a plain script fails as its script does**, and otherwise it
is the page with the strokes of the script. -/
theorem Artifact.render_of_plain {artifact : Artifact γ} {aggregate : Aggregate γ}
    (plain : (artifact.generate aggregate).Plain) (width : Nat) (defaultMark : Bool) :
    artifact.render aggregate width defaultMark =
      (artifact.generate aggregate).failure?.elim
        (.rendered
          { relativePath := artifact.relativePath
            content := (Page.draw { width } ((artifact.script aggregate).strokes 0)).text
            byteOrderMark := artifact.byteOrderMark.getD defaultMark })
        fun cause => .failed (.naming cause) := by
  obtain ⟨ending, page⟩ := (plain_script plain).run_root width
  rw [failure?_script] at ending
  simp only [Artifact.render, ending, page]
  cases (artifact.generate aggregate).failure? <;> rfl

end Generators

/-! ### Headers -/

namespace Header

theorem plain_spelled {α : Type} (spelling : Except NamingError α)
    {write : α → Script NamingError} (plain : ∀ text, (write text).Plain) :
    (spelled spelling write).Plain := by
  cases spelling with
  | ok text => exact plain text
  | error e => trivial

theorem plain_moduleFunction (api : String) (method : Method) :
    (moduleFunction api method).Plain := by
  refine plain_spelled _ fun returns => plain_spelled _ fun params => ?_
  grind [functionDeclaration, Script.newline]

theorem plain_moduleScript (api : String) (methods : List Method) :
    (moduleScript api methods).Plain := by
  have functions := Script.Plain.sequence (plain_moduleFunction api) methods
  grind [moduleScript, openLinkage, closeLinkage, Script.newline]

theorem plain_umbrellaScript (modules : List String) : (umbrellaScript modules).Plain := by
  grind [umbrellaScript, moduleInclude]

theorem plain_exportsScript (library : String) : (exportsScript library).Plain :=
  -- All lines are known: what is left are the three blocks, each with its children.
  ⟨⟨Nat.one_pos, trivial, Nat.one_pos, trivial, trivial⟩,
    ⟨Nat.one_pos, trivial, Nat.one_pos, trivial, trivial⟩,
    ⟨Nat.one_pos, trivial, trivial⟩, trivial⟩

theorem plain_enumType [PatternEngine] (decl : Decl) : (enumType decl).Plain := by
  refine plain_spelled _ fun binding => ?_
  have constant (constant : Naming.Constant) : (constantLine constant).Plain := trivial
  grind [enumBlock, Script.newline]

theorem plain_callbackType (decl : Decl) : (callbackType decl).Plain :=
  plain_spelled _ fun _ => plain_spelled _ fun _ => trivial

theorem plain_fieldLine (field : Field) : (fieldLine field).Plain :=
  plain_spelled _ fun _ => trivial

theorem plain_structType (decl : Decl) : (structType decl).Plain := by
  grind [structType, plain_fieldLine, Script.newline]

theorem plain_typesScript [PatternEngine] (overview : Overview) :
    (typesScript overview).Plain := by
  have opaques : (opaqueSection overview.opaques).Plain := by
    grind [opaqueSection, opaqueType, Script.newline]
  have enums : (enumSection overview.enums).Plain := by
    grind [enumSection, plain_enumType]
  have callbacks : (callbackSection overview.callbacks).Plain := by
    grind [callbackSection, plain_callbackType]
  have structs : (structSection overview.structs).Plain := by
    grind [structSection, plain_structType]
  rw [typesScript]
  refine .append (.append (.append (.append (.append ?_ enums) callbacks) structs) trivial) ?_
  · grind [openLinkage]
  · exact Script.plain_lines _

/-- **The scripts of all headers are plain.** -/
theorem plain_manifest [PatternEngine] {aggregate : Aggregate} {artifact : Artifact}
    (mem : artifact ∈ (aggregate.collect target).manifest) (placed : Aggregate) :
    (artifact.generate placed).Plain := by
  rcases mem_manifest mem with ⟨name, rfl⟩ | rfl | rfl | rfl | rfl
  · exact plain_moduleScript _ _
  · exact plain_umbrellaScript _
  · exact plain_exportsScript _
  · exact plain_typesScript _
  · exact Script.plain_lines _

end Header

/-! ### Conversions -/

namespace Library

variable {library : Library} {options : Options} {cause : ConversionError}

/-- A conversion has no result for two reasons only: the library has misuses that
are not overruled, or an artifact is aborted. -/
theorem convert_eq_error_iff [ContentGenerator γ] {target : Target γ} :
    library.convert target options = .error cause ↔
      (library.misuses ≠ [] ∧ options.ignoreMisuses = false ∧ cause = .invalid library.misuses) ∨
      ((library.misuses = [] ∨ options.ignoreMisuses = true) ∧ cause = .aborted ∧
        ∃ artifact ∈ ((library.aggregate options).collect target).manifest,
          artifact.render ((library.aggregate options).collect target).aggregate
            options.indentWidth (options.defaultMark target) = .aborted) := by
  rw [convert_eq, ← Collection.render_eq_none_iff]
  by_cases refused : (!library.misuses.isEmpty && !options.ignoreMisuses) = true
  · rw [if_pos refused]
    simp only [Bool.and_eq_true, Bool.not_eq_true', List.isEmpty_eq_false_iff] at refused
    simp [refused.1, refused.2, eq_comm]
  · rw [if_neg refused]
    have accepted : library.misuses = [] ∨ options.ignoreMisuses = true := by
      simpa [Decidable.or_iff_not_imp_left] using refused
    have unrefused : ¬(library.misuses ≠ [] ∧ options.ignoreMisuses = false ∧
        cause = .invalid library.misuses) := by
      rintro ⟨some, refusing, -⟩
      rcases accepted with none | overruled
      · exact some none
      · rw [refusing] at overruled
        cases overruled
    cases ((library.aggregate options).collect target).render target options with
    | none =>
      constructor
      · intro aborted
        exact .inr ⟨accepted, (Except.error.inj aborted).symm, rfl⟩
      · rintro (refused | ⟨-, rfl, -⟩)
        · exact absurd refused unrefused
        · rfl
    | some result =>
      constructor
      · intro converted
        cases converted
      · rintro (refused | ⟨-, -, unrendered⟩)
        · exact absurd refused unrefused
        · cases unrendered

/-- **Libraries are converted to headers unless they are refused.** -/
theorem convert_header_eq_error_iff [PatternEngine] :
    library.convert Header.target options = .error cause ↔
      library.misuses ≠ [] ∧ options.ignoreMisuses = false ∧ cause = .invalid library.misuses := by
  rw [convert_eq_error_iff]
  constructor
  · rintro (refused | ⟨-, -, artifact, mem, aborted⟩)
    · exact refused
    · exact absurd aborted
        (Artifact.render_ne_aborted (Header.plain_manifest mem _).neverCloses _ _)
  · exact .inl

end Library

end Bindery
