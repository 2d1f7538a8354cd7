/-
Headers that share a path.

Outputs are looked up by their paths, and the first one with a path is found. Where
no two artifacts share a path, every output is found under its own and nothing under
the path of an artifact that has failed. The headers of modules have different paths
by the names of their modules, which no two modules share; but a module may be called
like the library, and any of them like one of the headers that every library has. The
main statements are

* `Result.outputIndex?_of_distinct`, that an output is found at its own position;
* `Collection.lookup_of_distinct`, looking outputs up for any target;
* `Header.paths_nodup_iff`, when the paths of headers are different;
* `Library.collect_clashes`, all of this for the headers of a library.
-/

import Bindery.Pattern.Engine
import Bindery.Proofs.Artifact.Isolation
import Bindery.Proofs.Header.Umbrella
import Mathlib.Data.List.Nodup

namespace Bindery

/-! ### Looking outputs up -/

/-- The path of a file or of an error. -/
def outcomePath : Rendered ⊕ ArtifactError → String :=
  Sum.elim Rendered.relativePath ArtifactError.relativePath

namespace Result

variable {result : Result} {outcomes : List (Rendered ⊕ ArtifactError)}

/-- **An output is found at its own position** where no other has its path. -/
theorem outputIndex?_of_distinct (distinct : (result.outputs.map Rendered.relativePath).Nodup)
    {i : Nat} {output : Rendered} (here : result.outputs[i]? = some output) :
    result.outputIndex? output.relativePath = some i := by
  obtain ⟨inside, rfl⟩ := List.getElem?_eq_some_iff.mp here
  rw [List.Nodup, List.pairwise_map, List.pairwise_iff_getElem] at distinct
  rw [outputIndex?, List.findIdx?_eq_some_iff_getElem]
  refine ⟨inside, by simp, fun j before same => ?_⟩
  exact distinct j i (before.trans inside) inside before (of_decide_eq_true same)

/-- The output with a path is the one at its position. -/
theorem output?_eq (result : Result) (path : String) :
    result.output? path = (result.outputIndex? path).bind (result.outputs[·]?) :=
  List.find?_eq_bind_findIdx?_getElem?

/-- The paths of the files among some outcomes. -/
theorem outputs_sublist (outcomes : List (Rendered ⊕ ArtifactError)) :
    ((ofOutcomes outcomes).outputs.map Rendered.relativePath).Sublist
      (outcomes.map outcomePath) := by
  induction outcomes with
  | nil => exact .slnil
  | cons outcome rest ih =>
    cases outcome with
    | inl output => exact ih.cons_cons output.relativePath
    | inr error => exact ih.cons error.relativePath

/-- Where no two outcomes share a path, none is found under the path of an error. -/
theorem output?_error (distinct : (outcomes.map outcomePath).Nodup) {error : ArtifactError}
    (mem : error ∈ (ofOutcomes outcomes).errors) :
    (ofOutcomes outcomes).output? error.relativePath = none := by
  have failed : Sum.inr error ∈ outcomes := by simpa [ofOutcomes] using mem
  rw [output?, List.find?_eq_none]
  intro output listed same
  have rendered : Sum.inl output ∈ outcomes := by simpa [ofOutcomes] using listed
  cases List.inj_on_of_nodup_map distinct rendered failed (of_decide_eq_true same)

end Result

section Generators

variable {γ : Type} [ContentGenerator γ]

/-- A file has the path of its artifact. -/
theorem Artifact.relativePath_of_rendered {artifact : Artifact γ} {aggregate : Aggregate γ}
    {width : Nat} {defaultMark : Bool} {output : Rendered}
    (rendered : artifact.render aggregate width defaultMark = .rendered output) :
    output.relativePath = artifact.relativePath := by
  simp only [Artifact.render] at rendered
  split at rendered
  · cases rendered
    rfl
  all_goals cases rendered

/-- Outcomes have the paths of their artifacts. -/
theorem Artifact.map_outcomePath {aggregate : Aggregate γ} {width : Nat} {defaultMark : Bool}
    {artifacts : List (Artifact γ)} {outcomes : List (Rendered ⊕ ArtifactError)}
    (yields : List.Forall₂ (fun artifact => artifact.Yields
      (artifact.render aggregate width defaultMark)) artifacts outcomes) :
    outcomes.map outcomePath = artifacts.map (·.relativePath) := by
  induction yields with
  | nil => rfl
  | @cons artifact outcome artifacts outcomes here _ ih =>
    have path : outcomePath outcome = artifact.relativePath := by
      generalize result : artifact.render aggregate width defaultMark = rendered at here
      cases here with
      | file output => exact relativePath_of_rendered result
      | error cause => rfl
    rw [List.map_cons, List.map_cons, path, ih]

/-- **Where no two artifacts share a path**, every output is found under its own, and
nothing under that of an artifact that has failed. -/
theorem Collection.lookup_of_distinct {collection : Collection γ} {target : Target γ}
    {options : Options} {result : Result}
    (rendered : collection.render target options = some result)
    (distinct : (collection.manifest.map (·.relativePath)).Nodup) :
    (∀ i output, result.outputs[i]? = some output →
      result.outputIndex? output.relativePath = some i ∧
      result.output? output.relativePath = some output) ∧
    ∀ error ∈ result.errors, result.output? error.relativePath = none := by
  obtain ⟨outcomes, yields, rfl⟩ := render_eq_some_iff.mp rendered
  rw [← Artifact.map_outcomePath yields] at distinct
  refine ⟨fun i output here => ?_, fun error mem => Result.output?_error distinct mem⟩
  have index := Result.outputIndex?_of_distinct
    (distinct.sublist (Result.outputs_sublist outcomes)) here
  refine ⟨index, ?_⟩
  rw [Result.output?_eq, index]
  exact here

end Generators

/-! ### The paths of headers -/

theorem Header.headerFile_injective : Function.Injective headerFile :=
  fun _ _ same => (String.append_left_inj ".h").mp same

/-- **When the paths of headers are different**: no module is called like the library,
and neither a module nor the library like one of the headers that every library
has. -/
theorem Header.paths_nodup_iff {names : List String} (distinct : names.Nodup) (library : String) :
    ((names ++ [library, "libdefs", "Types", "CBBaseTypes"]).map headerFile).Nodup ↔
      (∀ name ∈ names, name ∉ [library, "libdefs", "Types", "CBBaseTypes"]) ∧
        library ∉ ["libdefs", "Types", "CBBaseTypes"] := by
  have fixed : ["libdefs", "Types", "CBBaseTypes"].Nodup := by decide
  rw [List.nodup_map_iff headerFile_injective, List.nodup_append, List.nodup_cons]
  constructor
  · rintro ⟨-, ⟨own, -⟩, apart⟩
    exact ⟨fun name mem clash => apart name mem name clash rfl, own⟩
  · rintro ⟨apart, own⟩
    exact ⟨distinct, ⟨own, fixed⟩, fun name mem other listed same =>
      apart name mem (same ▸ listed)⟩

namespace Library

/-- No two modules of a library have the same name. -/
theorem modulesNamed_nodup (library : Library) (options : Options) :
    (modulesNamed library.survivors).Nodup := by
  rw [← library.map_fst_modules options]
  exact (library.records options.rule).sound.assembly.names_nodup

theorem map_relativePath_manifest [PatternEngine] (library : Library) (options : Options) :
    ((library.aggregate options).collect Header.target).manifest.map (·.relativePath) =
      (modulesNamed library.survivors ++ [library.name, "libdefs", "Types", "CBBaseTypes"]).map
        Header.headerFile := by
  rw [library.manifest_headers, List.map_append, List.map_append, List.map_map]
  rfl

/-- The headers of a library have a result. -/
theorem exists_render_headers [PatternEngine] (library : Library) (options : Options) : ∃ result,
    ((library.aggregate options).collect Header.target).render Header.target options =
      some result := by
  rw [← Option.ne_none_iff_exists']
  intro unrendered
  obtain ⟨artifact, mem, aborted⟩ := Collection.render_eq_none_iff.mp unrendered
  exact Artifact.render_ne_aborted (Header.plain_manifest mem _).neverCloses _ _ aborted

/-- **When two headers of a library share a path.** The paths of the manifest are
different if and only if no module that a surviving declaration names is called like
the library or like one of the headers that every library has, and the library is not
called like one of these either. In that case every output of the result is found
under its path, at its own position, and nothing is found under the path of an
artifact that has failed. The result is that of the conversion, unless the library is
refused. -/
theorem collect_clashes [PatternEngine] (library : Library) (options : Options) :
    ∃ collection result, library.collect Header.target options = .ok collection ∧
      collection.render Header.target options = some result ∧
      (∀ converted, library.convert Header.target options = .ok converted →
        converted = result) ∧
      let paths := collection.manifest.map (·.relativePath)
      (paths.Nodup ↔
        (∀ decl ∈ library.survivors, ∀ name, decl.attributes.moduleName = some name →
          name ∉ [library.name, "libdefs", "Types", "CBBaseTypes"]) ∧
        library.name ∉ ["libdefs", "Types", "CBBaseTypes"]) ∧
      (paths.Nodup →
        (∀ i output, result.outputs[i]? = some output →
          result.outputIndex? output.relativePath = some i ∧
          result.output? output.relativePath = some output) ∧
        ∀ error ∈ result.errors, result.output? error.relativePath = none) := by
  let collection : Collection := (library.aggregate options).collect Header.target
  obtain ⟨result, rendered⟩ := library.exists_render_headers options
  refine ⟨collection, result, library.collect_eq Header.target options, rendered, ?_, ?_,
    Collection.lookup_of_distinct rendered⟩
  · intro converted ok
    rw [library.convert_eq, rendered] at ok
    split at ok
    · cases ok
    · exact (Except.ok.inj ok).symm
  · have named : (∀ name ∈ modulesNamed library.survivors,
        name ∉ [library.name, "libdefs", "Types", "CBBaseTypes"]) ↔
        ∀ decl ∈ library.survivors, ∀ name, decl.attributes.moduleName = some name →
          name ∉ [library.name, "libdefs", "Types", "CBBaseTypes"] := by
      simp only [mem_modulesNamed_iff]
      exact ⟨fun apart decl mem name named => apart name ⟨decl, mem, named⟩,
        fun apart name ⟨decl, mem, named⟩ => apart decl mem name named⟩
    rw [library.map_relativePath_manifest options,
      Header.paths_nodup_iff (library.modulesNamed_nodup options), named]

-- The header with the shared types cannot be found in a library of that name.
example : ((⟨"Types", []⟩ : Library).convert Header.target {}).toOption.map (fun result =>
    result.outputs.map fun output => result.outputIndex? output.relativePath) =
      some [some 0, some 1, some 0, some 3] := by
  decide +kernel

end Library

end Bindery
