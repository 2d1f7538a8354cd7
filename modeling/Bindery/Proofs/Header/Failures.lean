/-
Why a header fails.

A header fails only for what its library declares: a type that C cannot spell, an
enum without a stem, or a substitution that is no pattern. `Header.moduleFaults`
and `Header.typesFaults` list all such faults of a header in the order in which
they are met, and the first of them is the error. The main statements are

* `Header.failure?_moduleScript`, for the header of a module;
* `Header.failure?_typesScript`, for the header with the shared types;
* `Library.collect_headerFailures`, for all headers of a library: no other header
  fails, nothing is ever refused, and nothing is aborted for which there is room.
-/

import Bindery.Proofs.Artifact.Room

namespace Bindery

open Bindery.Layout

variable {γ : Type}

/-! ### Faults -/

/-- The types of a signature: the one that is returned, then those of the
parameters from left to right. -/
def Signature.types (signature : Signature) : List TypeRef :=
  signature.returns :: signature.params.map Param.type

namespace Header

/-- What is wrong with a type: C has no spelling for it. -/
def typeFault? : TypeRef → Option NamingError
  | .named _ => none
  | .predefined name =>
    if predefinedType? name = none then some (.unsupportedType name) else none

/-- The faults of the functions of a module, in order. -/
def moduleFaults (methods : List Method) : List NamingError :=
  methods.flatMap fun method => method.signature.types.filterMap typeFault?

/-- The faults of an enum: it has no stem, or the engine refuses the pattern of its
substitution. -/
def enumFaults [PatternEngine] (decl : Decl) : List NamingError :=
  (if decl.attributes.stem = none then [.missingStem decl.qualifiedName] else []) ++
  match decl.attributes.substitution with
  | none => []
  | some (pattern, _) =>
    match PatternEngine.compile pattern with
    | .ok _ => []
    | .error reason => [.invalidSubstitution decl.qualifiedName ⟨pattern, reason⟩]

/-- The faults of a callback, which takes and returns nothing unless it has a
signature. -/
def callbackFaults (decl : Decl) : List NamingError :=
  (decl.signature.getD {}).types.filterMap typeFault?

/-- The faults of a struct: of its fields that are not left out, in order. -/
def structFaults (decl : Decl) : List NamingError :=
  (decl.fields.filter fun field => !field.attributes.isIgnored).filterMap fun field =>
    typeFault? field.type

/-- The faults of the shared types: of the enums, then of the callbacks, then of
the structs. -/
def typesFaults [PatternEngine] (overview : Overview) : List NamingError :=
  overview.enums.flatMap enumFaults ++ overview.callbacks.flatMap callbackFaults ++
    overview.structs.flatMap structFaults

/-! ### Spellings -/

/-- Why there is no spelling. -/
def fault? {α : Type} : Except NamingError α → Option NamingError
  | .ok _ => none
  | .error e => some e

/-- A script that writes a spelling fails where there is none, or later. -/
theorem failure?_spelled {α : Type} (spelling : Except NamingError α)
    {write : α → Script NamingError} {later : Option NamingError}
    (goesOn : ∀ text, (write text).failure? = later) :
    (spelled spelling write).failure? = (fault? spelling).or later := by
  cases spelling with
  | ok text => exact goesOn text
  | error e => rfl

theorem failure?_spelled_of_ok {α : Type} (spelling : Except NamingError α)
    {write : α → Script NamingError} (ok : ∀ text, (write text).failure? = none) :
    (spelled spelling write).failure? = fault? spelling := by
  rw [failure?_spelled _ ok, Option.or_none]

theorem fault?_spellType (type : TypeRef) : fault? (spellType type) = typeFault? type := by
  cases type with
  | named name => rfl
  | predefined name =>
    cases spelling : predefinedType? name <;> simp [spellType, typeFault?, fault?, spelling]

theorem fault?_spellParams (params : List Param) :
    fault? (spellParams params) = (params.map Param.type).findSome? typeFault? := by
  induction params with
  | nil => rfl
  | cons param rest ih =>
    rw [List.map_cons, List.findSome?_cons, ← fault?_spellType, ← ih]
    cases type : spellType param.type with
    | error e => simp [spellParams, spellParam, type, fault?, bind, Except.bind]
    | ok text =>
      cases later : spellParams rest <;>
        simp [spellParams, spellParam, type, later, fault?, bind, Except.bind, pure, Except.pure]

theorem fault?_paramList (params : List Param) :
    fault? (paramList params) = (params.map Param.type).findSome? typeFault? := by
  rw [← fault?_spellParams, paramList]
  cases spellParams params <;> rfl

/-- The return type is spelled first, and then the parameters. -/
theorem fault?_signature (signature : Signature) :
    (fault? (spellType signature.returns)).or (fault? (paramList signature.params)) =
      (signature.types.filterMap typeFault?).head? := by
  rw [List.head?_filterMap, Signature.types, List.findSome?_cons, fault?_spellType,
    fault?_paramList]
  cases typeFault? signature.returns <;> rfl

/-! ### Modules -/

theorem failure?_moduleFunction (api : String) (method : Method) :
    (moduleFunction api method).failure? =
      (method.signature.types.filterMap typeFault?).head? := by
  rw [← fault?_signature]
  exact failure?_spelled _ fun returns => failure?_spelled_of_ok _ fun params => rfl

/-- **A module fails for the first type that C cannot spell.** -/
theorem failure?_moduleScript (api : String) (methods : List Method) :
    (moduleScript api methods).failure? = (moduleFaults methods).head? := by
  simp [moduleScript, openLinkage, closeLinkage, Script.newline, Script.failure?,
    failure?_moduleFunction, moduleFaults, List.head?_flatMap]

/-! ### Shared types -/

/-- An enum without faults has a naming, and otherwise the first fault is why it has
none. -/
theorem fault?_constantNaming [PatternEngine] (decl : Decl) :
    fault? (Naming.ConstantNaming.of decl) = (enumFaults decl).head? := by
  simp only [Naming.ConstantNaming.of, enumFaults]
  cases decl.attributes.stem with
  | none => simp [fault?]
  | some stem =>
    cases decl.attributes.substitution with
    | none => simp [fault?]
    | some substitution =>
      cases compiled : PatternEngine.compile substitution.1 <;> simp [fault?, compiled]

theorem failure?_enumType [PatternEngine] (decl : Decl) :
    (enumType decl).failure? = (enumFaults decl).head? := by
  have naming : fault? (Naming.EnumBinding.of decl) = (enumFaults decl).head? := by
    rw [← fault?_constantNaming, Naming.EnumBinding.of]
    cases Naming.ConstantNaming.of decl <;> rfl
  have block (binding : Naming.EnumBinding) : (enumBlock binding).failure? = none := by
    simp [enumBlock, constantLine, Script.newline, Script.failure?]
  rw [enumType, failure?_spelled_of_ok _ block, naming]

theorem failure?_callbackType (decl : Decl) :
    (callbackType decl).failure? = (callbackFaults decl).head? := by
  rw [callbackFaults, ← fault?_signature]
  exact failure?_spelled _ fun returns => failure?_spelled_of_ok _ fun params => rfl

theorem failure?_fieldLine (field : Field) :
    (fieldLine field).failure? = typeFault? field.type := by
  rw [← fault?_spellType]
  exact failure?_spelled_of_ok _ fun type => rfl

theorem failure?_structType (decl : Decl) :
    (structType decl).failure? = (structFaults decl).head? := by
  simp [structType, structFaults, Script.newline, Script.failure?, failure?_fieldLine,
    List.head?_filterMap]

theorem failure?_structSection (decls : List Decl) :
    (structSection decls).failure? = (decls.flatMap structFaults).head? := by
  rw [structSection]
  split
  · next none => rw [List.isEmpty_iff.mp none]; rfl
  · simp [failure?_structType, List.head?_flatMap]

/-- **The shared types fail for the first fault** of an enum, a callback or a
struct. -/
theorem failure?_typesScript [PatternEngine] (overview : Overview) :
    (typesScript overview).failure? = (typesFaults overview).head? := by
  have opaques : (opaqueSection overview.opaques).failure? = none := by
    rw [opaqueSection]
    split <;> simp [opaqueType, Script.newline, Script.failure?]
  have enums : (enumSection overview.enums).failure? =
      (overview.enums.flatMap enumFaults).head? := by
    simp [enumSection, failure?_enumType, List.head?_flatMap]
  have callbacks : (callbackSection overview.callbacks).failure? =
      (overview.callbacks.flatMap callbackFaults).head? := by
    simp [callbackSection, failure?_callbackType, List.head?_flatMap]
  simp [typesScript, typesFaults, openLinkage, closeLinkage, Script.newline, Script.failure?,
    opaques, enums, callbacks, failure?_structSection, List.head?_append, Option.or_assoc]

/-! ### All headers -/

theorem failure?_umbrellaScript (modules : List String) :
    (umbrellaScript modules).failure? = none := by
  simp [umbrellaScript, moduleInclude, Script.failure?]

theorem failure?_exportsScript (library : String) : (exportsScript library).failure? = none :=
  rfl

theorem failure?_scalarsScript : scalarsScript.failure? = none :=
  Script.failure?_lines _

end Header

/-- An artifact with a plain script fails if and only if its script does. -/
theorem Artifact.render_eq_failed_iff [ContentGenerator γ] {artifact : Artifact γ}
    {aggregate : Aggregate γ}
    (plain : (artifact.generate aggregate).Plain) {width : Nat} {defaultMark : Bool}
    {cause : GenerateError} :
    artifact.render aggregate width defaultMark = .failed cause ↔
      ∃ e, cause = .naming e ∧ (artifact.generate aggregate).failure? = some e := by
  rw [render_of_plain plain]
  cases (artifact.generate aggregate).failure? with
  | none => simp
  | some e => simp [eq_comm]

/-- An artifact with a plain script is rendered or fails for a naming error. -/
theorem Artifact.render_cases [ContentGenerator γ] {artifact : Artifact γ}
    {aggregate : Aggregate γ}
    (plain : (artifact.generate aggregate).Plain) (width : Nat) (defaultMark : Bool) :
    (∃ output, artifact.render aggregate width defaultMark = .rendered output) ∨
      ∃ e, artifact.render aggregate width defaultMark = .failed (.naming e) := by
  rw [render_of_plain plain]
  cases (artifact.generate aggregate).failure? with
  | none => exact .inl ⟨_, rfl⟩
  | some e => exact .inr ⟨e, rfl⟩

theorem Artifact.failure?_of_rendered [ContentGenerator γ] {artifact : Artifact γ}
    {aggregate : Aggregate γ}
    (plain : (artifact.generate aggregate).Plain) {width : Nat} {defaultMark : Bool}
    {output : Rendered}
    (rendered : artifact.render aggregate width defaultMark = .rendered output) :
    (artifact.generate aggregate).failure? = none := by
  rw [render_of_plain plain] at rendered
  cases failure : (artifact.generate aggregate).failure? with
  | none => rfl
  | some e => simp [failure] at rendered

/-- An artifact with a plain script is rendered unless its script fails. -/
theorem Artifact.exists_rendered [ContentGenerator γ] {artifact : Artifact γ}
    {aggregate : Aggregate γ}
    (plain : (artifact.generate aggregate).Plain)
    (ok : (artifact.generate aggregate).failure? = none) (width : Nat) (defaultMark : Bool) :
    ∃ output, artifact.render aggregate width defaultMark = .rendered output := by
  rw [render_of_plain plain, ok]
  exact ⟨_, rfl⟩

/-- The errors of a result are those of the artifacts that have failed. -/
theorem mem_errors_of_gather {results : List (Artifact γ × RenderResult)} {result : Result}
    (gathered : gather results = some result) {error : ArtifactError}
    (mem : error ∈ result.errors) : ∃ entry ∈ results, entry.2 = .failed error.cause := by
  induction results generalizing result with
  | nil =>
    obtain rfl := Option.some.inj gathered
    cases mem
  | cons entry rest ih =>
    obtain ⟨artifact, outcome⟩ := entry
    cases others : gather rest with
    | none => simp [gather, others] at gathered
    | some others' =>
      cases outcome with
      | aborted => simp [gather, others] at gathered
      | rendered output =>
        simp only [gather, others, Option.some.injEq] at gathered
        subst gathered
        obtain ⟨entry, later, failed⟩ := ih others mem
        exact ⟨entry, List.mem_cons_of_mem _ later, failed⟩
      | failed cause =>
        simp only [gather, others, Option.some.injEq] at gathered
        subst gathered
        rcases List.mem_cons.mp mem with rfl | older
        · exact ⟨_, List.mem_cons_self, rfl⟩
        · obtain ⟨entry, later, failed⟩ := ih others older
          exact ⟨entry, List.mem_cons_of_mem _ later, failed⟩

/-- When all headers of a library fit. -/
theorem Header.fitsWithin_iff [PatternEngine] {library : Library} {options : Options}
    {room : Nat} :
    library.FitsWithin target options room ↔
      let collection : Collection := (library.aggregate options).collect target
      ∀ artifact ∈ collection.manifest,
        let lines := artifact.lines collection.aggregate
        Line.size lines + options.indentWidth * Line.depth lines ≤ room := by
  rw [Library.fitsWithin_iff]
  exact forall₂_congr fun artifact mem => Artifact.fits_iff_of_plain (plain_manifest mem _)

/-- **When the headers of a library fail.** The page of a header takes one width for
each level that shows on it, besides what its lines take without their indentation,
and a header fits if that is no more than there is room for. Headers that fit are
rendered or fail for a naming error, and if all of them fit, the collection has a
result. The headers of the library itself never fail, the one with the shared types
apart. That one and the headers of modules fail if and only if they have a fault, and
the first fault is the error. -/
theorem Library.collect_headerFailures [PatternEngine] (library : Library) (options : Options)
    (room : Nat) :
    ∃ collection, library.collect Header.target options = .ok collection ∧
      let aggregate := collection.aggregate
      let fits (artifact : Artifact) := artifact.Fits aggregate options.indentWidth room
      let render (artifact : Artifact) := artifact.renderWithin aggregate options.indentWidth room
        (options.defaultMark Header.target)
      (∀ artifact ∈ collection.manifest, fits artifact ↔
        Line.size (artifact.lines aggregate) +
          options.indentWidth * Line.depth (artifact.lines aggregate) ≤ room) ∧
      ((∀ artifact ∈ collection.manifest, fits artifact) →
        ∃ result, collection.renderWithin Header.target options room = some result ∧
          ∀ error ∈ result.errors, ∃ e, error.cause = .naming e) ∧
      collection.defaultArtifacts =
        [Header.umbrellaHeader library.name, Header.exportsHeader, Header.typesHeader,
          Header.scalarsHeader] ∧
      (∀ artifact ∈ collection.manifest,
        ((∃ name, artifact = Header.moduleHeader name) ∨
          artifact ∈ collection.defaultArtifacts) ∧
        (fits artifact → (∃ output, render artifact = .rendered output) ∨
          ∃ e, render artifact = .failed (.naming e))) ∧
      (∀ artifact ∈
          [Header.umbrellaHeader library.name, Header.exportsHeader, Header.scalarsHeader],
        fits artifact → ∃ output, render artifact = .rendered output) ∧
      (∀ name, fits (Header.moduleHeader name) → ∀ cause,
        render (Header.moduleHeader name) = .failed cause ↔
          ∃ e, cause = .naming e ∧ (Header.moduleFaults
            ((aggregate.assembly.methodsOf? name).getD [])).head? = some e) ∧
      (fits Header.typesHeader → ∀ cause, render Header.typesHeader = .failed cause ↔
        ∃ e, cause = .naming e ∧ (Header.typesFaults aggregate.toOverview).head? = some e) := by
  let collection : Collection := (library.aggregate options).collect Header.target
  have plain (artifact : Artifact) (mem : artifact ∈ collection.manifest) :=
    Header.plain_manifest mem collection.aggregate
  have settled (artifact : Artifact) (mem : artifact ∈ collection.manifest) :=
    Artifact.render_cases (plain artifact mem) options.indentWidth
      (options.defaultMark Header.target)
  refine ⟨collection, library.collect_eq Header.target options, ?_, ?_, rfl, ?_, ?_, ?_, ?_⟩
  · exact fun artifact mem => Artifact.fits_iff_of_plain (plain artifact mem)
  · intro fits
    rw [Collection.renderWithin_of_fits fits]
    cases rendered : collection.render Header.target options with
    | none =>
      obtain ⟨artifact, mem, aborted⟩ := Collection.render_eq_none_iff.mp rendered
      rcases settled artifact mem with ⟨output, here⟩ | ⟨e, here⟩ <;>
        exact nomatch here.symm.trans aborted
    | some result =>
      refine ⟨result, rfl, fun error mem => ?_⟩
      obtain ⟨entry, listed, failed⟩ := mem_errors_of_gather rendered mem
      obtain ⟨artifact, mem, rfl⟩ := List.mem_map.mp listed
      rcases settled artifact mem with ⟨output, here⟩ | ⟨e, here⟩
      · exact nomatch here.symm.trans failed
      · exact ⟨e, (RenderResult.failed.inj (here.symm.trans failed)).symm⟩
  · intro artifact mem
    refine ⟨?_, fun fits => ?_⟩
    · rcases Header.mem_manifest mem with module | ofLibrary
      · exact .inl module
      · exact .inr (by simpa [collection, Aggregate.collect, Collection.defaultArtifacts,
          Header.target, Header.libraryHeaders] using ofLibrary)
    · simp only [Artifact.renderWithin_of_fits fits]
      exact settled artifact mem
  · intro artifact mem fits
    simp only [Artifact.renderWithin_of_fits fits]
    rcases mem with _ | ⟨_, _ | ⟨_, _ | ⟨_, none⟩⟩⟩
    · have plain : ((Header.umbrellaHeader library.name).generate collection.aggregate).Plain :=
        Header.plain_umbrellaScript _
      exact Artifact.exists_rendered plain (Header.failure?_umbrellaScript _) _ _
    · have plain : (Header.exportsHeader.generate collection.aggregate).Plain :=
        Header.plain_exportsScript _
      exact Artifact.exists_rendered plain (Header.failure?_exportsScript _) _ _
    · have plain : (Header.scalarsHeader.generate collection.aggregate).Plain :=
        Script.plain_lines _
      exact Artifact.exists_rendered plain Header.failure?_scalarsScript _ _
    · cases none
  · intro name fits cause
    have plain : ((Header.moduleHeader name).generate collection.aggregate).Plain :=
      Header.plain_moduleScript _ _
    simp only [Artifact.renderWithin_of_fits fits]
    rw [Artifact.render_eq_failed_iff plain,
      ← Header.failure?_moduleScript (Header.apiMacro library.name)]
    rfl
  · intro fits cause
    have plain : (Header.typesHeader.generate collection.aggregate).Plain :=
      Header.plain_typesScript _
    simp only [Artifact.renderWithin_of_fits fits]
    rw [Artifact.render_eq_failed_iff plain, ← Header.failure?_typesScript]
    rfl

end Bindery
