/-
The headers of a library, and the one that includes them.

The manifest meets the modules on the way through the forest, and the header of
the library takes them from the list of those registered; both have the names in
the order of first mention. The main statements are

* `Artifact.render_of_spells`, that an artifact shows the text that its strokes
  spell;
* `Library.manifest_headers`, all headers of a library in order;
* `Library.collect_headers`, the paths of the headers, and the text of the header
  that includes them.
-/

import Bindery.Proofs.Context.ModuleOrder
import Bindery.Proofs.Header.Failures
import Bindery.Proofs.Layout.Spelling

namespace Bindery

open Bindery.Layout

/-- An artifact whose strokes spell a text is rendered to that text, whatever the
width of a level. -/
theorem Artifact.render_of_spells {γ : Type} [ContentGenerator γ] (artifact : Artifact γ)
    {aggregate : Aggregate γ} {text : String}
    (plain : (artifact.generate aggregate).Plain)
    (ok : (artifact.generate aggregate).failure? = none)
    (spells : Stroke.Spells ((artifact.script aggregate).strokes 0) text) (width : Nat)
    (defaultMark : Bool) :
    artifact.render aggregate width defaultMark =
      .rendered
        { relativePath := artifact.relativePath
          content := String.ofList (unifyLineEnds text.toList)
          byteOrderMark := artifact.byteOrderMark.getD defaultMark } := by
  rw [render_of_plain plain, ok, ← spells.text_draw width]
  rfl

/-! ### All headers -/

namespace Header

theorem contextHeaders_eq (aggregate : Aggregate) (id : ContextId) :
    contextHeaders aggregate id = (aggregate.forest.moduleAt? id).toList.map moduleHeader := by
  rw [contextHeaders, ContextForest.moduleAt?, ContextForest.kind?]
  cases aggregate.forest.get? id with
  | none => rfl
  | some context =>
    obtain ⟨kind, parent, children⟩ := context
    cases kind <;> rfl

end Header

/-- **The headers of a library** are those of the modules that its surviving
declarations name, each at its first mention, and those of the library as a
whole. -/
theorem Library.manifest_headers [PatternEngine] (library : Library) (options : Options) :
    ((library.aggregate options).collect Header.target).manifest =
      (modulesNamed library.survivors).map Header.moduleHeader ++
        [Header.umbrellaHeader library.name, Header.exportsHeader, Header.typesHeader,
          Header.scalarsHeader] := by
  let aggregate : Aggregate := library.aggregate options
  have modules : aggregate.forest.preOrder.flatMap (Header.contextHeaders aggregate) =
      (modulesNamed library.survivors).map Header.moduleHeader := by
    rw [← library.modules_preOrder options, List.filterMap_eq_flatMap_toList, List.map_flatMap]
    exact List.flatMap_congr fun id _ => Header.contextHeaders_eq aggregate id
  rw [library.manifest_eq options Header.target, ← modules]
  rfl

/-! ### The header that includes the modules -/

namespace Header

/-- The lines in front of the modules. -/
def umbrellaPrologue : List String :=
  ["/* This file was generated. DO NOT EDIT! */", "#pragma once", "", "#include \"libdefs.h\"",
    "#include \"Types.h\"", "", "// Modules"]

/-- The text that includes modules, one line for each. -/
def umbrellaText (modules : List String) : String :=
  String.join (umbrellaPrologue.map (· ++ "\n")) ++
    String.join (modules.map fun name => "#include \"" ++ name ++ ".h\"\n")

theorem spells_moduleInclude (name : String) :
    Stroke.Spells ((moduleInclude name).strokes 0) ("#include \"" ++ name ++ ".h\"\n") := by
  have strokes : (moduleInclude name).strokes 0 =
      [.write 0 "#include \"", .write 0 name, .line 0 ".h\""] := rfl
  rw [strokes]
  refine ⟨?_, ?_, ?_⟩
  · simp [Stroke.write, Stroke.line]
  · -- The name stands between marks, so that it may have any line ends.
    rw [String.append_assoc, ← String.empty_append (s := "#include \"" ++ _),
      unifyLineEnds_mark "", ← String.append_empty (s := ".h\"\n"), unifyLineEnds_mark name]
    · simp [Stroke.write, Stroke.line, unifyLineEnds]
    all_goals decide
  · have last : ".h\"\n".toList.getLast? = some '\n' := by decide
    rw [String.toList_append, List.getLast?_append, last]
    simp

theorem spells_umbrellaScript (modules : List String) :
    Stroke.Spells ((Script.line banner (umbrellaScript modules)).strokes 0)
      (umbrellaText modules) := by
  let front : Script NamingError :=
    .lines ["#pragma once", "", includeLine exportsFile, includeLine typesFile, "", "// Modules"]
  have includes : includeLine exportsFile = "#include \"libdefs.h\"" ∧
      includeLine typesFile = "#include \"Types.h\"" := by decide
  have strokes : (Script.line banner (umbrellaScript modules)).strokes 0 =
      umbrellaPrologue.map (.line 0) ++
        modules.flatMap fun name => (moduleInclude name).strokes 0 := by
    calc (Script.line banner (umbrellaScript modules)).strokes 0
      _ = .line 0 banner :: (front ++ .sequence (modules.map moduleInclude)).strokes 0 := rfl
      _ = .line 0 banner :: (front.strokes 0 ++
          modules.flatMap fun name => (moduleInclude name).strokes 0) := by
        rw [Script.strokes_append_of_ok (Script.failure?_lines _),
          Script.strokes_sequence fun _ _ => rfl]
      _ = _ := by
        simp only [front, includes]
        rfl
  rw [strokes]
  refine (Stroke.Spells.lines (by decide)).append (.flatMap ?_)
  exact List.forall₂_map_right_iff.mpr (List.forall₂_same.mpr fun name _ =>
    spells_moduleInclude name)

/-- **The header of the library includes its modules**, whatever the width of a
level. -/
theorem render_umbrellaHeader (library : String) (aggregate : Aggregate) (width : Nat)
    (defaultMark : Bool) :
    (umbrellaHeader library).render aggregate width defaultMark =
      .rendered
        { relativePath := library ++ ".h"
          content :=
            String.ofList (unifyLineEnds (umbrellaText (moduleNames aggregate.toOverview)).toList)
          byteOrderMark := defaultMark } :=
  (umbrellaHeader library).render_of_spells (plain_umbrellaScript _) (failure?_umbrellaScript _)
    (spells_umbrellaScript _) width defaultMark

end Header

/-- **The headers of a library and the one that includes them agree.** The modules
are registered under the names that surviving declarations mention, in the order
of first mention, and no name is registered twice. The paths of the headers are
these names, each with its suffix, and then the four headers of the library. The
header of the library shows, with all line ends unified, its prologue and one line
for each of the same names in the same order. -/
theorem Library.collect_headers [PatternEngine] (library : Library) (options : Options) :
    ∃ collection, library.collect Header.target options = .ok collection ∧
      let assembly := collection.aggregate.assembly
      let names := assembly.moduleIds.map assembly.forest.name
      let mark := options.defaultMark Header.target
      names = (library.survivors.filterMap (·.attributes.moduleName)).eraseDups ∧
      names = assembly.modules.map Prod.fst ∧ names.Nodup ∧
      collection.manifest = names.map Header.moduleHeader ++
        [Header.umbrellaHeader library.name, Header.exportsHeader, Header.typesHeader,
          Header.scalarsHeader] ∧
      collection.manifest.map (·.relativePath) = names.map (· ++ ".h") ++
        [library.name ++ ".h", "libdefs.h", "Types.h", "CBBaseTypes.h"] ∧
      (Header.umbrellaHeader library.name).render collection.aggregate options.indentWidth mark =
        .rendered
          { relativePath := library.name ++ ".h"
            content := String.ofList (unifyLineEnds (Header.umbrellaText names).toList)
            byteOrderMark := mark } := by
  let collection : Collection := (library.aggregate options).collect Header.target
  let assembly := collection.aggregate.assembly
  have sound : assembly.Sound := (library.records options.rule).sound.assembly
  have registered : assembly.modules.map Prod.fst = modulesNamed library.survivors :=
    library.map_fst_modules options
  have named : assembly.moduleIds.map assembly.forest.name = modulesNamed library.survivors := by
    rw [modulesNamed, ← library.map_decl_outline, List.filterMap_map]
    exact (library.records options.rule).map_name_moduleIds
  have manifest := library.manifest_headers options
  rw [← named] at manifest
  refine ⟨collection, library.collect_eq Header.target options, named,
    named.trans registered.symm, ?_, manifest, ?_, Header.render_umbrellaHeader _ _ _ _⟩
  · rw [named, ← registered]
    exact sound.names_nodup
  · rw [manifest, List.map_append, List.map_map]
    rfl

end Bindery
