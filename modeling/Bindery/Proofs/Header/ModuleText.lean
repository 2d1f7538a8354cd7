/-
The text of a module.

The header of a module writes at the margin only, in many small pieces, which
together spell its text. The main statements are

* `Header.Declares.spells_moduleFunction`, for the declaration of a function;
* `Header.render_moduleHeader`, for the header of a module;
* `Library.collect_moduleText`, the text of a module, from the declarations of its
  library.
-/

import Bindery.Proofs.Header.Umbrella

namespace Bindery

open Bindery.Layout

theorem Text.joinWith_eq_intercalate (sep : String) (parts : List String) :
    Text.joinWith sep parts = sep.intercalate parts := by
  induction parts with
  | nil => rfl
  | cons part rest ih =>
    cases rest with
    | nil => simp [joinWith]
    | cons next rest => rw [joinWith, ih, String.intercalate_cons_cons]

/-- Where every item of a list is related to something, the list is related to a
list. -/
theorem exists_forall₂ {α β : Type} {R : α → β → Prop} {items : List α}
    (each : ∀ item ∈ items, ∃ b, R item b) : ∃ images, List.Forall₂ R items images := by
  induction items with
  | nil => exact ⟨[], .nil⟩
  | cons item rest ih =>
    obtain ⟨⟨b, here⟩, later⟩ := List.forall_mem_cons.mp each
    obtain ⟨images, related⟩ := ih later
    exact ⟨b :: images, .cons here related⟩

namespace Header

/-! ### Functions -/

/-- How a parameter is spelled: its type and its name. -/
def SpellsParam (param : Param) (text : String) : Prop :=
  ∃ type, spellType param.type = .ok type ∧ text = type ++ " " ++ param.name

/-- The text that declares a method, with an empty line behind it. -/
def Declares (api : String) (method : Method) (text : String) : Prop :=
  ∃ returns params, spellType method.signature.returns = .ok returns ∧
    List.Forall₂ SpellsParam method.signature.params params ∧
    text = api ++ " " ++ returns ++ " " ++ method.attributes.explicitBinding.getD method.name ++
      "(" ++ ", ".intercalate params ++ ");\n\n"

theorem spellParam_eq_ok_iff {param : Param} {text : String} :
    spellParam param = .ok text ↔ SpellsParam param text := by
  rw [spellParam, SpellsParam]
  cases spellType param.type <;> simp [bind, Except.bind, pure, Except.pure, eq_comm]

theorem spellParams_eq_ok_iff {params : List Param} {texts : List String} :
    spellParams params = .ok texts ↔ List.Forall₂ SpellsParam params texts := by
  induction params generalizing texts with
  | nil => simp [spellParams, eq_comm]
  | cons param rest ih =>
    rw [List.forall₂_cons_left_iff, spellParams]
    simp only [← ih, ← spellParam_eq_ok_iff]
    cases spellParam param with
    | error e => simp [bind, Except.bind]
    | ok text =>
      cases spellParams rest <;> simp [bind, Except.bind, pure, Except.pure, eq_comm]

theorem paramList_eq_ok_iff {params : List Param} {text : String} :
    paramList params = .ok text ↔
      ∃ texts, List.Forall₂ SpellsParam params texts ∧ text = ", ".intercalate texts := by
  simp only [← spellParams_eq_ok_iff, ← Text.joinWith_eq_intercalate, paramList]
  cases spellParams params <;> simp [bind, Except.bind, pure, Except.pure, eq_comm]

/-- A function has a declaration unless it fails. -/
theorem exists_declares {api : String} {method : Method}
    (ok : (moduleFunction api method).failure? = none) : ∃ text, Declares api method text := by
  rw [moduleFunction] at ok
  cases returns : spellType method.signature.returns with
  | error e => simp [returns, spelled, Script.failure?] at ok
  | ok returned =>
    cases params : paramList method.signature.params with
    | error e => simp [returns, params, spelled, Script.failure?] at ok
    | ok list =>
      obtain ⟨texts, spelled, -⟩ := paramList_eq_ok_iff.mp params
      exact ⟨_, returned, texts, returns, spelled, rfl⟩

/-- **A function writes its declaration**, and an empty line. -/
theorem Declares.spells_moduleFunction {api text : String} {method : Method}
    (declares : Declares api method text) :
    (moduleFunction api method).failure? = none ∧
      Stroke.Spells ((moduleFunction api method).strokes 0) text := by
  obtain ⟨returns, params, returned, spelled, rfl⟩ := declares
  have list : paramList method.signature.params = .ok (", ".intercalate params) :=
    paramList_eq_ok_iff.mpr ⟨params, spelled, rfl⟩
  have script : moduleFunction api method =
      .writer (functionDeclaration api returns (functionName method) (", ".intercalate params))
        .newline := by
    rw [moduleFunction, returned, list]
    rfl
  have strokes : (moduleFunction api method).strokes 0 =
      [.write 0 api, .write 0 " ", .write 0 returns, .write 0 " ", .write 0 (functionName method),
        .write 0 "(", .write 0 (", ".intercalate params), .line 0 ");", .line 0 ""] := by
    rw [script]
    rfl
  rw [strokes]
  refine ⟨by rw [script]; rfl, ?_, ?_, ?_⟩
  · simp [Stroke.write, Stroke.line]
  · -- Every piece that is not known has a mark behind it.
    simp only [String.append_assoc]
    rw [unifyLineEnds_mark api, unifyLineEnds_mark returns,
      unifyLineEnds_mark (method.attributes.explicitBinding.getD method.name),
      ← String.append_empty (s := ");\n\n"), unifyLineEnds_mark (", ".intercalate params)]
    · simp [Stroke.write, Stroke.line, functionName, unifyLineEnds]
    all_goals decide
  · have last : ");\n\n".toList.getLast? = some '\n' := by decide
    rw [String.toList_append, List.getLast?_append, last]
    simp

/-! ### Modules -/

/-- The lines in front of the functions of a module. -/
def modulePrologue : List String :=
  ["/* This file was generated. DO NOT EDIT! */", "#pragma once", "", "#include \"libdefs.h\"",
    "#include \"Types.h\"", "", "#ifdef __cplusplus", "extern \"C\"", "\x7b", "#endif", ""]

/-- The lines behind the functions of a module. -/
def moduleEpilogue : List String :=
  ["#ifdef __cplusplus", "\x7d", "#endif"]

/-- The text of a module: its functions between the prologue and the epilogue. -/
def moduleText (functions : List String) : String :=
  String.join (modulePrologue.map (· ++ "\n")) ++ String.join functions ++
    String.join (moduleEpilogue.map (· ++ "\n"))

/-- The lines in front of the functions and behind them, as strokes. -/
theorem strokes_linkage :
    (Script.line banner (.lines
        ["#pragma once", "", includeLine exportsFile, includeLine typesFile, ""] ++
          openLinkage "" ++ .newline) : Script NamingError).strokes 0 =
        modulePrologue.map (.line 0) ∧
      (closeLinkage "" : Script NamingError).strokes 0 = moduleEpilogue.map (.line 0) := by
  have includes : includeLine exportsFile = "#include \"libdefs.h\"" ∧
      includeLine typesFile = "#include \"Types.h\"" := by decide
  rw [includes.1, includes.2, openLinkage, closeLinkage, String.append_empty]
  exact ⟨rfl, rfl⟩

/-- **A module writes its prologue, its functions and its epilogue.** -/
theorem spells_moduleScript {api : String} {methods : List Method} {functions : List String}
    (declared : List.Forall₂ (Declares api) methods functions) :
    (moduleScript api methods).failure? = none ∧
      Stroke.Spells ((Script.line banner (moduleScript api methods)).strokes 0)
        (moduleText functions) := by
  obtain ⟨ok, spelled⟩ := (List.forall₂_and_left _ _).mp
    (declared.imp fun _ _ declares => declares.spells_moduleFunction)
  let front : Script NamingError :=
    .lines ["#pragma once", "", includeLine exportsFile, includeLine typesFile, ""] ++
      openLinkage "" ++ .newline
  let middle := Script.sequence (methods.map (moduleFunction api))
  have frontOk : front.failure? = none := by
    simp [front, openLinkage, Script.newline, Script.failure?]
  have middleOk : (front ++ middle).failure? = none := by
    simpa [middle, frontOk] using ok
  have strokes : (Script.line banner (moduleScript api methods)).strokes 0 =
      modulePrologue.map (.line 0) ++
        methods.flatMap (fun method => (moduleFunction api method).strokes 0) ++
          moduleEpilogue.map (.line 0) := by
    calc (Script.line banner (moduleScript api methods)).strokes 0
      _ = .line 0 banner :: (front ++ middle ++ closeLinkage "").strokes 0 := rfl
      _ = .line 0 banner ::
          (front.strokes 0 ++ middle.strokes 0 ++ (closeLinkage "").strokes 0) := by
        rw [Script.strokes_append_of_ok middleOk, Script.strokes_append_of_ok frontOk]
      _ = _ := by
        rw [Script.strokes_sequence ok, strokes_linkage.2, ← strokes_linkage.1]
        rfl
  refine ⟨?_, ?_⟩
  · show (front ++ middle ++ closeLinkage "").failure? = none
    rw [Script.failure?_append, middleOk, closeLinkage, Script.failure?_lines]
    rfl
  · rw [strokes]
    exact ((Stroke.Spells.lines (by decide)).append (.flatMap spelled)).append
      (.lines (by decide))

/-- **The header of a module whose functions can be declared.** -/
theorem render_moduleHeader {aggregate : Aggregate} {name : String} {functions : List String}
    (declared : List.Forall₂ (Declares (apiMacro aggregate.libraryName))
      ((aggregate.assembly.methodsOf? name).getD []) functions) (width : Nat)
    (defaultMark : Bool) :
    (moduleHeader name).render aggregate width defaultMark =
      .rendered
        { relativePath := name ++ ".h"
          content := String.ofList (unifyLineEnds (moduleText functions).toList)
          byteOrderMark := defaultMark } := by
  obtain ⟨ok, spells⟩ := spells_moduleScript declared
  exact (moduleHeader name).render_of_spells (plain_moduleScript _ _) ok spells width defaultMark

/-- The functions of a module that is rendered have declarations. -/
theorem exists_declares_of_rendered {aggregate : Aggregate} {name : String} {width : Nat}
    {defaultMark : Bool} {output : Rendered}
    (rendered : (moduleHeader name).render aggregate width defaultMark = .rendered output) :
    ∃ functions, List.Forall₂ (Declares (apiMacro aggregate.libraryName))
      ((aggregate.assembly.methodsOf? name).getD []) functions := by
  let api := apiMacro aggregate.libraryName
  let methods := (aggregate.assembly.methodsOf? name).getD []
  have plain : ((moduleHeader name).generate aggregate).Plain := plain_moduleScript _ _
  have ok : (moduleScript api methods).failure? = none :=
    Artifact.failure?_of_rendered plain rendered
  apply exists_forall₂
  intro method mem
  apply exists_declares
  rw [failure?_moduleScript, moduleFaults, List.head?_flatMap, List.findSome?_eq_none_iff] at ok
  rw [failure?_moduleFunction]
  exact ok method mem

end Header

/-! ### Libraries -/

namespace Library

/-- The methods of a module, read off the declarations of the library. -/
theorem getD_methodsOf? (library : Library) (options : Options) (name : String) :
    ((library.overview options).assembly.methodsOf? name).getD [] =
      (library.survivors.filter fun decl => decl.attributes.moduleName = some name).flatMap
        Decl.exportedMethods := by
  let progress := ({} : Progress).along options.rule library.outline
  have records : Progress.Records options.rule library.outline progress :=
    library.records options.rule
  show (progress.survey.assembly.methodsOf? name).getD [] = _
  have listed : library.survivors = (progress.ids.zip library.outline).map (·.2.decl) := by
    have stops := congrArg (List.map Stop.decl) records.map_snd_zip
    rw [library.map_decl_outline, List.map_map] at stops
    exact stops.symm
  rw [Assembly.methodsOf?, listed, List.filter_map, List.flatMap_map]
  cases known : progress.survey.assembly.module? name with
  | some id =>
    rw [Option.map_some, Option.getD_some,
      ContextForest.moduleMethods_eq (records.map_kind?_children known), List.flatMap_map]
    rfl
  | none =>
    have unnamed := (records.module?_eq_none_iff name).mp known
    rw [List.filter_eq_nil_iff.mpr]
    · rfl
    · intro entry mem
      simpa using unnamed entry.2 (List.of_mem_zip mem).2

/-- A module that a surviving declaration names has a header. -/
theorem moduleHeader_mem_manifest [PatternEngine] {library : Library} {options : Options}
    {name : String} {decl : Decl} (mem : decl ∈ library.survivors)
    (named : decl.attributes.moduleName = some name) :
    Header.moduleHeader name ∈ ((library.aggregate options).collect Header.target).manifest := by
  rw [library.manifest_headers]
  refine List.mem_append_left _ (List.mem_map_of_mem ?_)
  exact mem_modulesNamed_iff.mpr ⟨decl, mem, named⟩

/-- **The text of a module.** Every module that a surviving declaration names has a
header. It is rendered if and only if each of its functions can be declared, and
then it shows, with all line ends unified and whatever the width of a level, the
prologue, the declarations of the native methods that are not left out of the
declarations that name the module, one after the other, and the epilogue. -/
theorem collect_moduleText [PatternEngine] (library : Library) (options : Options) :
    ∃ collection, library.collect Header.target options = .ok collection ∧ ∀ name,
      let naming := library.survivors.filter fun decl => decl.attributes.moduleName = some name
      let methods := naming.flatMap fun decl =>
        decl.methods.filter fun method => method.native && !method.attributes.isIgnored
      (naming ≠ [] → Header.moduleHeader name ∈ collection.manifest) ∧
      ∀ output,
        (Header.moduleHeader name).render collection.aggregate options.indentWidth
            (options.defaultMark Header.target) = .rendered output ↔
          ∃ functions,
            List.Forall₂ (Header.Declares (Naming.upper library.name ++ "_SHARED_API")) methods
              functions ∧
            output =
              { relativePath := name ++ ".h"
                content := String.ofList (unifyLineEnds (Header.moduleText functions).toList)
                byteOrderMark := options.defaultMark Header.target } := by
  have api : Naming.upper library.name ++ "_SHARED_API" = Header.apiMacro library.name := by
    rw [Header.apiMacro, Header.libraryMacro, String.append_assoc]
    rfl
  let collection : Collection := (library.aggregate options).collect Header.target
  refine ⟨collection, library.collect_eq Header.target options, fun name => ?_⟩
  have methods : (collection.aggregate.assembly.methodsOf? name).getD [] =
      (library.survivors.filter fun decl => decl.attributes.moduleName = some name).flatMap
        Decl.exportedMethods := library.getD_methodsOf? options name
  intro naming methods'
  refine ⟨fun named => ?_, fun output => ?_⟩
  · obtain ⟨decl, mem⟩ := List.exists_mem_of_ne_nil _ named
    obtain ⟨survives, named⟩ := List.mem_filter.mp mem
    exact moduleHeader_mem_manifest survives (of_decide_eq_true named)
  · rw [api]
    constructor
    · intro rendered
      obtain ⟨functions, declared⟩ := Header.exists_declares_of_rendered rendered
      have shown := Header.render_moduleHeader declared options.indentWidth
        (options.defaultMark Header.target)
      rw [methods] at declared
      exact ⟨functions, declared, RenderResult.rendered.inj (rendered.symm.trans shown)⟩
    · rintro ⟨functions, declared, rfl⟩
      refine Header.render_moduleHeader ?_ _ _
      rw [methods]
      exact declared

end Library

end Bindery
