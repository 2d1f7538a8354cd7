/-
What the options of a conversion reach.

The options say how namespaces are mapped, how wide a level is, what mark files
start with and whether misuses are overruled. Mapped namespaces are stored in the
contexts, and no header reads them; the width of a level shows in the indentation
of lines, and only the headers with the export macros and with the shared types
have lines that are indented. All of this is about widths under which there is room
for the headers. The main statements are

* `Artifact.render_concurs`, that the width of a level decides on nothing but the
  indentation of the lines of a header;
* `Header.render_flush`, that it does not reach the headers that write at the
  margin;
* `Header.render_concurs`, for a header of alike libraries;
* `Library.convert_options`, for two conversions of a library.
-/

import Bindery.Proofs.Header.Erasure
import Bindery.Proofs.Header.ModuleText

namespace Bindery

open Bindery.Layout

/-! ### One header under two widths -/

/-- Two files with the same path and the same mark that show the same lines, of
which each is indented by its level as wide as the level is. -/
structure Rendered.SameLines (width width' : Nat) (output output' : Rendered) : Prop where
  path : output.relativePath = output'.relativePath
  mark : output.byteOrderMark = output'.byteOrderMark
  lines : ∃ lines : List Line,
    (∀ line ∈ lines, '\r' ∉ line.text.toList ∧ '\n' ∉ line.text.toList) ∧
    output.content = Line.renderAll width lines ∧ output'.content = Line.renderAll width' lines

/-- **A header fails alike under two widths, or shows the same lines.** -/
theorem Artifact.render_concurs {γ : Type} [ContentGenerator γ] {artifact : Artifact γ}
    {aggregate : Aggregate γ} (plain : (artifact.generate aggregate).Plain) (width width' : Nat)
    (defaultMark : Bool) :
    (∃ output output', artifact.render aggregate width defaultMark = .rendered output ∧
      artifact.render aggregate width' defaultMark = .rendered output' ∧
      Rendered.SameLines width width' output output') ∨
    ∃ cause, artifact.render aggregate width defaultMark = .failed cause ∧
      artifact.render aggregate width' defaultMark = .failed cause := by
  rw [render_of_plain plain, render_of_plain plain]
  cases (artifact.generate aggregate).failure? with
  | some cause => exact .inr ⟨.naming cause, rfl, rfl⟩
  | none =>
    refine .inl ⟨_, _, rfl, rfl, rfl, rfl,
      Line.ofStrokes ((artifact.script aggregate).strokes 0), ?_, ?_, ?_⟩
    · exact fun line mem => Line.unbroken_of_mem_ofStrokes mem
    · exact Page.text_draw width _
    · exact Page.text_draw width' _

namespace Header

/-- The header of a module, the header that includes the modules, or the header
with the scalar types. -/
def AtMargin (library : String) (artifact : Artifact) : Prop :=
  (∃ name, artifact = moduleHeader name) ∨ artifact = umbrellaHeader library ∨
    artifact = scalarsHeader

theorem exists_spells_scalarsScript :
    ∃ text, Stroke.Spells ((Script.line banner scalarsScript).strokes 0) text := by
  rw [scalarsScript, Script.strokes, Script.strokes_lines, ← List.map_cons]
  exact ⟨_, .lines (by decide)⟩

/-- **A header that writes at the margin is the same under any width.** -/
theorem render_flush {library : String} {artifact : Artifact} (margin : AtMargin library artifact)
    (aggregate : Aggregate) (width width' : Nat) (defaultMark : Bool) :
    artifact.render aggregate width defaultMark = artifact.render aggregate width' defaultMark := by
  rcases margin with ⟨name, rfl⟩ | rfl | rfl
  · have plain : ((moduleHeader name).generate aggregate).Plain := plain_moduleScript _ _
    rcases Artifact.render_concurs plain width width' defaultMark with
      ⟨output, output', here, there, -⟩ | ⟨cause, here, there⟩
    · obtain ⟨functions, declared⟩ := exists_declares_of_rendered here
      rw [render_moduleHeader declared, render_moduleHeader declared]
    · rw [here, there]
  · rw [render_umbrellaHeader, render_umbrellaHeader]
  · obtain ⟨text, spells⟩ := exists_spells_scalarsScript
    have plain : (scalarsHeader.generate aggregate).Plain := Script.plain_lines _
    rw [scalarsHeader.render_of_spells plain failure?_scalarsScript spells,
      scalarsHeader.render_of_spells plain failure?_scalarsScript spells]

/-- **A header fails alike for alike libraries under two widths, or shows the same
lines**, and the same text if it writes at the margin. -/
theorem render_concurs [PatternEngine] {aggregate placed placed' : Aggregate}
    {artifact : Artifact} (mem : artifact ∈ (aggregate.collect target).manifest)
    (alike : placed.toOverview.Alike placed'.toOverview)
    (width width' : Nat) (defaultMark : Bool) :
    (∃ output output', artifact.render placed width defaultMark = .rendered output ∧
      artifact.render placed' width' defaultMark = .rendered output' ∧
      output.SameLines width width' output' ∧
      (AtMargin aggregate.libraryName artifact → output.content = output'.content)) ∨
    ∃ cause, artifact.render placed width defaultMark = .failed cause ∧
      artifact.render placed' width' defaultMark = .failed cause := by
  -- The header reads faces only, so that the two differ in their width alone.
  rw [← (respects_manifest aggregate artifact mem).render alike]
  refine (Artifact.render_concurs (plain_manifest mem placed) width width' defaultMark).imp_left ?_
  rintro ⟨output, output', here, there, same⟩
  refine ⟨output, output', here, there, same, fun margin => ?_⟩
  rw [render_flush margin placed width width', there] at here
  rw [RenderResult.rendered.inj here]

/-- The same where texts have a limited size and there is room for both. -/
theorem renderWithin_concurs [PatternEngine] {aggregate placed placed' : Aggregate}
    {artifact : Artifact} {width width' room : Nat}
    (mem : artifact ∈ (aggregate.collect target).manifest)
    (alike : placed.toOverview.Alike placed'.toOverview)
    (fits : artifact.Fits placed width room) (fits' : artifact.Fits placed' width' room)
    (defaultMark : Bool) :
    (∃ output output', artifact.renderWithin placed width room defaultMark = .rendered output ∧
      artifact.renderWithin placed' width' room defaultMark = .rendered output' ∧
      output.SameLines width width' output' ∧
      (AtMargin aggregate.libraryName artifact → output.content = output'.content)) ∨
    ∃ cause, artifact.renderWithin placed width room defaultMark = .failed cause ∧
      artifact.renderWithin placed' width' room defaultMark = .failed cause := by
  rw [Artifact.renderWithin_of_fits fits, Artifact.renderWithin_of_fits fits']
  exact render_concurs mem alike width width' defaultMark

end Header

/-! ### All headers under two widths -/

/-- Artifacts of which each is rendered twice, or fails twice for the same cause,
have the same errors, and their files come in pairs. -/
theorem exists_gather_pairs {γ : Type} {render render' : Artifact γ → RenderResult}
    {manifest : List (Artifact γ)} {Same : Artifact γ → Rendered → Rendered → Prop}
    (concur : ∀ artifact ∈ manifest,
      (∃ output output', render artifact = .rendered output ∧
        render' artifact = .rendered output' ∧ Same artifact output output') ∨
      ∃ cause, render artifact = .failed cause ∧ render' artifact = .failed cause) :
    ∃ result result', gather (manifest.map fun artifact => (artifact, render artifact)) =
        some result ∧
      gather (manifest.map fun artifact => (artifact, render' artifact)) = some result' ∧
      result.errors = result'.errors ∧ ∃ entries : List (Artifact γ × Rendered × Rendered),
        result.outputs = entries.map (·.2.1) ∧ result'.outputs = entries.map (·.2.2) ∧
        (entries.map (·.1)).Sublist manifest ∧ ∀ entry ∈ entries,
          render entry.1 = .rendered entry.2.1 ∧ render' entry.1 = .rendered entry.2.2 ∧
            Same entry.1 entry.2.1 entry.2.2 := by
  induction manifest with
  | nil => exact ⟨{}, {}, rfl, rfl, rfl, [], rfl, rfl, .slnil, by simp⟩
  | cons artifact rest ih =>
    obtain ⟨here, later⟩ := List.forall_mem_cons.mp concur
    obtain ⟨result, result', first, second, errors, entries, outputs, outputs', sublist, each⟩ :=
      ih later
    rcases here with ⟨output, output', shown, shown', same⟩ | ⟨cause, failed, failed'⟩
    · refine ⟨{ result with outputs := output :: result.outputs },
        { result' with outputs := output' :: result'.outputs }, ?_, ?_, errors,
        (artifact, output, output') :: entries, ?_, ?_, sublist.cons_cons artifact, ?_⟩
      · simp only [List.map_cons, gather, first, shown]
      · simp only [List.map_cons, gather, second, shown']
      · rw [outputs, List.map_cons]
      · rw [outputs', List.map_cons]
      · exact List.forall_mem_cons.mpr ⟨⟨shown, shown', same⟩, each⟩
    · refine ⟨{ result with errors := ⟨artifact.relativePath, cause⟩ :: result.errors },
        { result' with errors := ⟨artifact.relativePath, cause⟩ :: result'.errors }, ?_, ?_, ?_,
        entries, outputs, outputs', sublist.cons artifact, each⟩
      · simp only [List.map_cons, gather, first, failed]
      · simp only [List.map_cons, gather, second, failed']
      · rw [errors]

namespace Library

/-- **What the options of a conversion can influence.** Of two conversions of a
library that agree on the mark and on whether misuses are overruled, and both of which
have room for all headers, both are refused for the same cause, or both have a result.
The results come from the same headers: these fail alike, and those that do not fail
have the same path and the same mark and show the same lines, each indented by its
level. The headers that write at the margin have the same text. -/
theorem convert_options [PatternEngine] (library : Library) {options options' : Options}
    {room : Nat} (mark : options.byteOrderMark = options'.byteOrderMark)
    (strictness : options.ignoreMisuses = options'.ignoreMisuses)
    (fits : library.FitsWithin Header.target options room)
    (fits' : library.FitsWithin Header.target options' room) :
    (∃ cause, library.convertWithin Header.target options room = .error cause ∧
      library.convertWithin Header.target options' room = .error cause) ∨
    ∃ collection collection' result result',
      library.collect Header.target options = .ok collection ∧
      library.collect Header.target options' = .ok collection' ∧
      collection.manifest = collection'.manifest ∧
      library.convertWithin Header.target options room = .ok result ∧
      library.convertWithin Header.target options' room = .ok result' ∧
      result.errors = result'.errors ∧ ∃ entries : List (Artifact × Rendered × Rendered),
        result.outputs = entries.map (·.2.1) ∧ result'.outputs = entries.map (·.2.2) ∧
        (entries.map (·.1)).Sublist collection.manifest ∧
        ∀ artifact output output', (artifact, output, output') ∈ entries →
          artifact.renderWithin collection.aggregate options.indentWidth room
            (options.defaultMark Header.target) = .rendered output ∧
          artifact.renderWithin collection'.aggregate options'.indentWidth room
            (options'.defaultMark Header.target) = .rendered output' ∧
          output.SameLines options.indentWidth options'.indentWidth output' ∧
          (Header.AtMargin library.name artifact → output.content = output'.content) := by
  let collection : Collection := (library.aggregate options).collect Header.target
  let collection' : Collection := (library.aggregate options').collect Header.target
  have alike : (library.overview options).Alike (library.overview options') :=
    Alike.overview ⟨rfl, rfl⟩ options options'
  have placed : collection.aggregate.toOverview.Alike collection'.aggregate.toOverview := alike
  have manifest : collection.manifest = collection'.manifest := Header.manifest_congr alike
  have marks : options'.defaultMark Header.target = options.defaultMark Header.target := by
    rw [Options.defaultMark, Options.defaultMark, mark]
  have concur := fun artifact (mem : artifact ∈ collection.manifest) =>
    Header.renderWithin_concurs mem placed (fitsWithin_iff.mp fits artifact mem)
      (fitsWithin_iff.mp fits' artifact (manifest ▸ mem)) (options.defaultMark Header.target)
  obtain ⟨result, result', first, second, errors, entries, outputs, outputs', sublist, each⟩ :=
    exists_gather_pairs concur
  rw [manifest] at second
  rw [convertWithin, convertWithin, convertBy_eq, convertBy_eq, ← strictness]
  split
  · exact .inl ⟨_, rfl, rfl⟩
  · refine .inr ⟨collection, collection', result, result', library.collect_eq _ _,
      library.collect_eq _ _, manifest, ?_, ?_, errors, entries, outputs, outputs', sublist, ?_⟩
    · rw [Collection.renderWithin, Collection.renderBy, first]
      rfl
    · rw [Collection.renderWithin, Collection.renderBy, marks, second]
      rfl
    · intro artifact output output' mem
      rw [marks]
      exact each (artifact, output, output') mem

end Library

/-- Options that have other namespaces and narrower levels than the default. -/
def Options.narrow : Options :=
  { mappings := [("App", "Lib")], normalization := .lowerCase, indentWidth := 2 }

theorem Library.convert_options_sketch :
    let room := 2 ^ 63 - 1
    sketch.FitsWithin Header.target {} room ∧
    sketch.FitsWithin Header.target Options.narrow room ∧
    ∃ result result', sketch.convertWithin Header.target {} room = .ok result ∧
      sketch.convertWithin Header.target Options.narrow room = .ok result' ∧
      result.errors = result'.errors ∧
      (∃ entries : List (Artifact × Rendered × Rendered),
        result.outputs = entries.map (·.2.1) ∧ result'.outputs = entries.map (·.2.2) ∧
        ∀ entry ∈ entries, entry.2.1.SameLines 4 2 entry.2.2) ∧
      result.outputs.length = 5 ∧ result ≠ result' := by
  intro room
  have fits : sketch.FitsWithin Header.target {} room :=
    Header.fitsWithin_iff.mpr (by decide +kernel)
  have fits' : sketch.FitsWithin Header.target Options.narrow room :=
    Header.fitsWithin_iff.mpr (by decide +kernel)
  have checked : ((sketch.convert Header.target {}).toOption.bind fun result =>
      (sketch.convert Header.target Options.narrow).toOption.map fun result' =>
        decide (result.outputs.length = 5 ∧ result ≠ result')) = some true := by decide +kernel
  rw [← Library.convertWithin_of_fits fits, ← Library.convertWithin_of_fits fits'] at checked
  refine ⟨fits, fits', ?_⟩
  rcases @Library.convert_options _ sketch {} Options.narrow room rfl rfl fits fits' with
    ⟨cause, refused, -⟩ |
    ⟨_, _, result, result', -, -, -, converted, converted', errors, entries, outputs, outputs', -,
      each⟩
  · rw [refused] at checked
    cases checked
  · rw [converted, converted'] at checked
    exact ⟨result, result', converted, converted', errors,
      ⟨entries, outputs, outputs', fun entry mem => (each _ _ _ mem).2.2.1⟩,
      of_decide_eq_true (Option.some.inj checked)⟩

end Bindery
