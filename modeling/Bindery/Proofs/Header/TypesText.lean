/-
The text of the shared types.

The header with the shared types has a section for each catalogue, and a block or a
line for each declaration in it. Where no string of the library has a line end,
each of these is set line by line: the constants of enums and the fields of
structs one level deep, everything else at the margin. The main statements are

* `Header.DefinesEnum.sets_enumType`, `Header.DefinesCallback.sets_callbackType` and
  `Header.DefinesStruct.sets_structType`, for one declaration;
* `Header.DefinesTypes.sets_typesScript`, for the header;
* `Library.collect_typesText`, the text of the shared types, from the declarations
  of the library.
-/

import Bindery.Proofs.Context.Catalogues
import Bindery.Proofs.Header.ModuleText
import Bindery.Proofs.Naming.Unbroken
import Bindery.Proofs.Pattern.Replacement

namespace Bindery

open Bindery.Layout

/-- An artifact whose script sets lines is rendered to these lines. -/
theorem Artifact.render_of_sets {γ : Type} [ContentGenerator γ] (artifact : Artifact γ)
    {aggregate : Aggregate γ} {lines : List Line}
    (plain : (artifact.generate aggregate).Plain)
    (sets : (artifact.script aggregate).Sets 0 lines) (width : Nat) (defaultMark : Bool) :
    artifact.render aggregate width defaultMark =
      .rendered
        { relativePath := artifact.relativePath
          content := Line.renderEnded width lines
          byteOrderMark := artifact.byteOrderMark.getD defaultMark } := by
  have ok := sets.ok
  rw [failure?_script] at ok
  rw [render_of_plain plain, ok, ← sets.text_draw width]
  rfl

/-- No string of the declaration has a line end. -/
def Decl.Unbroken (decl : Decl) : Prop :=
  ∀ text ∈ decl.strings, Layout.Unbroken text.toList

namespace Header

/-- Lines that are not indented. -/
def atMargin (texts : List String) : List Line :=
  texts.map (Line.mk 0)

/-! ### Spellings -/

theorem unbroken_spellType {type : TypeRef} {text : String} (spelled : spellType type = .ok text)
    (unbroken : Unbroken type.name.toList) : Unbroken text.toList := by
  cases type with
  | named name =>
    cases spelled
    exact unbroken
  | predefined name =>
    rw [spellType] at spelled
    cases found : predefinedType? name with
    | none => simp [found] at spelled
    | some spelling =>
      simp only [found, Except.ok.injEq] at spelled
      subst spelled
      revert found
      unfold predefinedType?
      split <;> (intro found; cases found) <;> decide

theorem unbroken_toString (value : Int) : Unbroken (toString value).toList := by
  have digits (n : Nat) : Unbroken n.repr.toList := by
    intro c mem
    rw [Nat.repr, String.toList_ofList] at mem
    have digit := Nat.isDigit_of_mem_toDigits (by decide) (by decide) mem
    constructor <;>
    · rintro rfl
      revert digit
      decide
  cases value with
  | ofNat n => exact digits n
  | negSucc n =>
    have minus : Unbroken "-".toList := by decide
    show Unbroken ("-" ++ (n + 1).repr).toList
    rw [String.toList_append]
    exact minus.append (digits _)

/-! ### Enums -/

/-- The stem of an enum, and what stands behind it in the names of its constants: the
words of an identifier, or what the substitution makes of it, in upper case. -/
def NamesConstants [PatternEngine] (decl : Decl) (stem : String) (tail : String → String) : Prop :=
  decl.attributes.stem = some stem ∧
    match decl.attributes.substitution with
    | none => tail = fun identifier =>
        "_".intercalate ((Naming.words identifier).map Naming.upper)
    | some (pattern, replacement) =>
      ∃ replaceAll, PatternEngine.compile pattern = .ok replaceAll ∧
        tail = fun identifier => Naming.upper
          (replaceAll (String.ofList (Naming.braceNumbers replacement.toList)) identifier)

/-- The lines that define an enum: a constant for each member that is not left out,
with its value, then the sentinel, and an empty line behind. -/
def DefinesEnum [PatternEngine] (decl : Decl) (lines : List Line) : Prop :=
  ∃ stem tail, NamesConstants decl stem tail ∧
    lines = atMargin ["typedef enum", "\x7b"] ++
      ((decl.enumMembers.filter fun member => !member.attributes.isIgnored).map fun member =>
        ⟨1, member.attributes.explicitBinding.getD (stem ++ "_" ++ tail member.name) ++ " = " ++
          toString member.value ++ ","⟩) ++
      [⟨1, "__" ++ stem ++ "__ = 0xFFFFFFFF,"⟩] ++
      atMargin ["\x7d " ++ decl.bindingName ++ ";", ""]

theorem namesConstants_iff [PatternEngine] {decl : Decl} {stem : String}
    {tail : String → String} :
    NamesConstants decl stem tail ↔
      ∃ naming, Naming.ConstantNaming.of decl = .ok naming ∧ naming.stem = stem ∧
        naming.tail = tail := by
  rw [NamesConstants, Naming.ConstantNaming.of]
  cases decl.attributes.stem with
  | none => simp
  | some own =>
    cases decl.attributes.substitution with
    | none =>
      have plain : Naming.ConstantNaming.tail ⟨own, none⟩ = fun identifier =>
          "_".intercalate ((Naming.words identifier).map Naming.upper) :=
        funext fun identifier => Text.joinWith_eq_intercalate _ _
      simp [plain, eq_comm]
    | some substitution =>
      obtain ⟨pattern, replacement⟩ := substitution
      cases compiled : PatternEngine.compile pattern with
      | error reason => simp [compiled]
      | ok replaceAll =>
        let template := String.ofList (Naming.braceNumbers replacement.toList)
        have substituted : Naming.ConstantNaming.tail ⟨own, some ⟨replaceAll, template⟩⟩ =
            fun identifier => Naming.upper (replaceAll template identifier) := rfl
        simp [compiled, substituted, template, eq_comm]

/-- A member with an explicit binding takes it, and any other the stem and what stands
behind it. -/
theorem constant_eq_getD (naming : Naming.ConstantNaming) (member : EnumMember) :
    naming.constant member =
      member.attributes.explicitBinding.getD (naming.stem ++ "_" ++ naming.tail member.name) := by
  rw [Naming.ConstantNaming.constant]
  cases member.attributes.explicitBinding <;> rfl

theorem exists_definesEnum [PatternEngine] {decl : Decl} (ok : (enumType decl).failure? = none) :
    ∃ lines, DefinesEnum decl lines := by
  rw [failure?_enumType, ← fault?_constantNaming] at ok
  cases named : Naming.ConstantNaming.of decl with
  | error e => simp [named, fault?] at ok
  | ok naming =>
    exact ⟨_, naming.stem, naming.tail, namesConstants_iff.mpr ⟨naming, named, rfl, rfl⟩, rfl⟩

/-- A constant as it is written. -/
def constantText (constant : Naming.Constant) : String :=
  constant.name ++ " = " ++ constant.value.render ++ ","

theorem sets_constantLine {level : Nat} {constant : Naming.Constant}
    (name : Unbroken constant.name.toList) (value : Unbroken constant.value.render.toList) :
    (constantLine constant).Sets level [⟨level, constantText constant⟩] := by
  refine .pieces [constant.name, " = ", constant.value.render] "," ?_ (by decide) rfl ?_
  · simpa using ⟨name, by decide, value⟩
  · simp [constantText, String.append_assoc]

theorem constantText_sentinel (binding : Naming.EnumBinding) :
    constantText binding.sentinel = "__" ++ binding.stem ++ "__ = 0xFFFFFFFF," := by
  have tail : "__" ++ " = " ++ "0xFFFFFFFF" ++ "," = "__ = 0xFFFFFFFF," := by decide
  rw [← tail]
  simp only [← String.append_assoc]
  rfl

theorem sets_enumBlock {binding : Naming.EnumBinding} (name : Unbroken binding.name.toList)
    (stem : Unbroken binding.stem.toList)
    (constants : ∀ constant ∈ binding.constants,
      Unbroken constant.name.toList ∧ Unbroken constant.value.render.toList) :
    (enumBlock binding).Sets 0
      (atMargin ["typedef enum", "\x7b"] ++
        (binding.constants.map constantText).map (Line.mk 1) ++
        [⟨1, "__" ++ binding.stem ++ "__ = 0xFFFFFFFF,"⟩] ++
        atMargin ["\x7d " ++ binding.name ++ ";", ""]) := by
  have body : (Script.sequence (binding.allConstants.map constantLine)).Sets 1
      ((binding.allConstants.map constantText).map (Line.mk 1)) := by
    refine .each (List.forall₂_map_right_iff.mpr (List.forall₂_same.mpr fun constant mem => ?_))
    rcases List.mem_append.mp mem with ofMember | sentinel
    · exact sets_constantLine (constants constant ofMember).1 (constants constant ofMember).2
    · rw [List.mem_singleton.mp sentinel]
      have value : Unbroken Naming.ConstantValue.sentinel.render.toList := by decide
      exact sets_constantLine (stem.between (by decide) (by decide)) value
  have texts : binding.allConstants.map constantText =
      binding.constants.map constantText ++ ["__" ++ binding.stem ++ "__ = 0xFFFFFFFF,"] := by
    rw [Naming.EnumBinding.allConstants, List.map_append, List.map_singleton,
      constantText_sentinel]
  rw [texts] at body
  have opening : (Script.lines ["typedef enum", "\x7b"] : Script NamingError).Sets 0 _ :=
    .lines (by decide)
  have blank : (Script.newline : Script NamingError).Sets 0 _ := .line (by decide)
  have closing : Unbroken ("\x7d " ++ binding.name ++ ";").toList :=
    name.between (by decide) (by decide)
  have set : (enumBlock binding).Sets 0 _ := (opening.append (body.block closing)).append blank
  simpa [atMargin] using set

/-- **An enum sets the lines that define it.** -/
theorem DefinesEnum.sets_enumType [PatternEngine] (adds : PatternEngine.AddsNothing)
    {decl : Decl} {lines : List Line} (defines : DefinesEnum decl lines)
    (unbroken : decl.Unbroken) : (enumType decl).Sets 0 lines := by
  obtain ⟨stem, tail, names, rfl⟩ := defines
  obtain ⟨naming, named, rfl, rfl⟩ := namesConstants_iff.mp names
  let binding : Naming.EnumBinding :=
    { name := decl.bindingName
      stem := naming.stem
      constants := (decl.enumMembers.filter fun m => !m.attributes.isIgnored).map fun m =>
        ⟨naming.constant m, .declared m.value⟩ }
  have script : enumType decl = enumBlock binding := by
    rw [enumType, Naming.EnumBinding.of, named]
    rfl
  have constants : ∀ constant ∈ binding.constants,
      Unbroken constant.name.toList ∧ Unbroken constant.value.render.toList := by
    intro constant mem
    obtain ⟨member, kept, rfl⟩ := List.mem_map.mp mem
    have name := Naming.ConstantNaming.unbroken_constant adds named unbroken
      (List.mem_of_mem_filter kept)
    exact ⟨name, unbroken_toString member.value⟩
  have set := sets_enumBlock (unbroken _ decl.bindingName_mem_strings)
    (Naming.ConstantNaming.unbroken_of adds named unbroken).stem constants
  rw [List.map_map, List.map_map] at set
  rw [script]
  simp only [← constant_eq_getD]
  exact set

/-! ### Callbacks -/

/-- The line that defines a callback as a pointer to a function. -/
def DefinesCallback (decl : Decl) (text : String) : Prop :=
  ∃ returns params, spellType (decl.signature.getD {}).returns = .ok returns ∧
    List.Forall₂ SpellsParam (decl.signature.getD {}).params params ∧
    text = "typedef " ++ returns ++ "(*" ++ decl.bindingName ++ ")(" ++
      ", ".intercalate params ++ ");"

theorem exists_definesCallback {decl : Decl} (ok : (callbackType decl).failure? = none) :
    ∃ text, DefinesCallback decl text := by
  rw [callbackType] at ok
  cases returned : spellType (decl.signature.getD {}).returns with
  | error e => simp [returned, spelled, Script.failure?] at ok
  | ok returns =>
    cases params : paramList (decl.signature.getD {}).params with
    | error e => simp [returned, params, spelled, Script.failure?] at ok
    | ok list =>
      obtain ⟨texts, spelled, -⟩ := paramList_eq_ok_iff.mp params
      exact ⟨_, returns, texts, returned, spelled, rfl⟩

theorem unbroken_signature {decl : Decl} (unbroken : decl.Unbroken) :
    ∀ text ∈ (decl.signature.getD {}).strings, Unbroken text.toList := by
  cases signed : decl.signature with
  | none => decide
  | some signature =>
    exact fun text mem => unbroken text (Decl.signature_subset_strings signed mem)

theorem unbroken_params {params : List Param} {texts : List String}
    (unbroken : ∀ param ∈ params, Unbroken param.name.toList ∧ Unbroken param.type.name.toList)
    (spelled : List.Forall₂ SpellsParam params texts) :
    ∀ text ∈ texts, Unbroken text.toList := by
  induction spelled with
  | nil => simp
  | cons here _ ih =>
    obtain ⟨first, later⟩ := List.forall_mem_cons.mp unbroken
    obtain ⟨type, typed, rfl⟩ := here
    refine List.forall_mem_cons.mpr ⟨?_, ih later⟩
    have space : Unbroken " ".toList := by decide
    rw [String.toList_append, String.toList_append]
    exact ((unbroken_spellType typed first.2).append space).append first.1

/-- **A callback sets the line that defines it.** -/
theorem DefinesCallback.sets_callbackType {decl : Decl} {text : String}
    (defines : DefinesCallback decl text) (unbroken : decl.Unbroken) :
    (callbackType decl).Sets 0 [⟨0, text⟩] := by
  obtain ⟨returns, params, returned, spelled, rfl⟩ := defines
  have signature := unbroken_signature unbroken
  have list : paramList (decl.signature.getD {}).params = .ok (", ".intercalate params) :=
    paramList_eq_ok_iff.mpr ⟨params, spelled, rfl⟩
  have whole : Unbroken (", ".intercalate params).toList := by
    rw [← Text.joinWith_eq_intercalate]
    refine Text.unbroken_joinWith (by decide) (unbroken_params (fun param mem => ?_) spelled)
    have own : ∀ text ∈ [param.name, param.type.name],
        text ∈ (decl.signature.getD {}).strings := fun text inside =>
      List.mem_cons_of_mem _ (List.mem_flatMap.mpr ⟨param, mem, inside⟩)
    exact ⟨signature _ (own _ (by simp)), signature _ (own _ (by simp))⟩
  have type := unbroken_spellType returned (signature _ List.mem_cons_self)
  have name := unbroken _ decl.bindingName_mem_strings
  refine .pieces ["typedef ", returns, "(*", decl.bindingName, ")(", ", ".intercalate params] ");"
    ?_ (by decide) ?_ ?_
  · simp only [List.mem_cons, List.not_mem_nil, or_false, forall_eq_or_imp, forall_eq]
    exact ⟨by decide, type, by decide, name, by decide, whole⟩
  · rw [callbackType, returned, list]
    rfl
  · simp [String.append_assoc]

/-! ### Structs -/

/-- How a field is declared: its type and its name. -/
def SpellsField (field : Field) (text : String) : Prop :=
  ∃ type, spellType field.type = .ok type ∧ text = type ++ " " ++ field.name ++ ";"

/-- The lines that define a struct: a field for each that is not left out, and an
empty line behind. -/
def DefinesStruct (decl : Decl) (lines : List Line) : Prop :=
  ∃ fields, List.Forall₂ SpellsField
      (decl.fields.filter fun field => !field.attributes.isIgnored) fields ∧
    lines = atMargin ["struct " ++ decl.bindingName, "\x7b"] ++ fields.map (Line.mk 1) ++
      atMargin ["\x7d;", ""]

theorem exists_definesStruct {decl : Decl} (ok : (structType decl).failure? = none) :
    ∃ lines, DefinesStruct decl lines := by
  have each : ∀ field ∈ decl.fields.filter fun field => !field.attributes.isIgnored,
      ∃ text, SpellsField field text := by
    intro field mem
    rw [failure?_structType, structFaults, List.head?_filterMap, List.findSome?_eq_none_iff] at ok
    have spelled := ok field mem
    rw [← fault?_spellType] at spelled
    cases typed : spellType field.type with
    | error e => simp [typed, fault?] at spelled
    | ok type => exact ⟨_, type, typed, rfl⟩
  obtain ⟨fields, spelled⟩ := exists_forall₂ each
  exact ⟨_, fields, spelled, rfl⟩

theorem SpellsField.sets_fieldLine {level : Nat} {field : Field} {text : String}
    (spells : SpellsField field text) (unbroken : ∀ text ∈ field.strings, Unbroken text.toList) :
    (fieldLine field).Sets level [⟨level, text⟩] := by
  obtain ⟨type, typed, rfl⟩ := spells
  have name := unbroken field.name List.mem_cons_self
  have spelled := unbroken_spellType typed
    (unbroken _ (List.mem_cons_of_mem _ List.mem_cons_self))
  refine .pieces [type, " ", field.name] ";" ?_ (by decide) ?_ ?_
  · simpa using ⟨spelled, by decide, name⟩
  · rw [fieldLine, typed]
    rfl
  · simp [String.append_assoc]

/-- **A struct sets the lines that define it.** -/
theorem DefinesStruct.sets_structType {decl : Decl} {lines : List Line}
    (defines : DefinesStruct decl lines) (unbroken : decl.Unbroken) :
    (structType decl).Sets 0 lines := by
  obtain ⟨fields, spelled, rfl⟩ := defines
  have body : (Script.sequence ((decl.fields.filter fun field =>
      !field.attributes.isIgnored).map fieldLine)).Sets 1 (fields.map (Line.mk 1)) := by
    have own : ∀ field ∈ decl.fields.filter fun field => !field.attributes.isIgnored,
        ∀ text ∈ field.strings, Unbroken text.toList := fun field mem text inside =>
      unbroken text (Decl.field_subset_strings (List.mem_of_mem_filter mem) inside)
    refine .each (((List.forall₂_and_left _ _).mpr ⟨own, spelled⟩).imp ?_)
    rintro field text ⟨whole, spells⟩
    exact spells.sets_fieldLine whole
  have name : (Script.write "struct " (.line decl.bindingName .done) : Script NamingError).Sets 0
      [⟨0, "struct " ++ decl.bindingName⟩] := by
    refine .pieces ["struct "] decl.bindingName (by decide)
      (unbroken _ decl.bindingName_mem_strings) rfl ?_
    simp
  have opening : (Script.line "\x7b" .done : Script NamingError).Sets 0 _ := .line (by decide)
  have blank : (Script.newline : Script NamingError).Sets 0 _ := .line (by decide)
  have set : (structType decl).Sets 0 _ :=
    ((name.append opening).append (body.block (by decide))).append blank
  simpa [atMargin] using set

/-! ### The header -/

/-- The lines of the shared types: the names of the opaque types, the lines of each
enum, the line of each callback and the lines of each struct. -/
def typesLines (opaques : List String) (enums : List (List Line)) (callbacks : List String)
    (structs : List (List Line)) : List Line :=
  atMargin ["#pragma once", "", "#include \"CBBaseTypes.h\"", ""] ++
  (if opaques = [] then []
    else atMargin ["// Opaque types", ""] ++
      atMargin (opaques.map fun name => "#define " ++ name ++ " void") ++ atMargin [""]) ++
  atMargin ["#ifdef __cplusplus", "extern \"C\"", "\x7b", "#endif // __cplusplus"] ++
  (atMargin ["// Enums", ""] ++ enums.flatten) ++
  (atMargin ["// Function pointer delegates", ""] ++ atMargin callbacks) ++
  (if structs = [] then [] else atMargin ["// Struct types", ""] ++ structs.flatten) ++
  atMargin [""] ++
  atMargin ["#ifdef __cplusplus", "\x7d", "#endif // __cplusplus"]

theorem sets_opaqueSection {decls : List Decl} (unbroken : ∀ decl ∈ decls, decl.Unbroken) :
    (opaqueSection decls).Sets 0
      (if decls.map Decl.bindingName = [] then []
        else atMargin ["// Opaque types", ""] ++
          atMargin ((decls.map Decl.bindingName).map fun name => "#define " ++ name ++ " void") ++
          atMargin [""]) := by
  cases decls with
  | nil => exact .done -- Without opaque types there is no section at all.
  | cons decl rest =>
    have types : (Script.sequence ((decl :: rest).map opaqueType)).Sets 0
        (atMargin (((decl :: rest).map Decl.bindingName).map fun name =>
          "#define " ++ name ++ " void")) := by
      rw [List.map_map]
      refine .each (List.forall₂_map_right_iff.mpr (List.forall₂_same.mpr fun decl mem => ?_))
      have name := unbroken decl mem _ decl.bindingName_mem_strings
      refine .pieces ["#define ", decl.bindingName] " void" ?_ (by decide) rfl ?_
      · simpa using ⟨by decide, name⟩
      · simp [String.append_assoc]
    exact ((Script.Sets.lines (by decide)).append types).append (.line (by decide))

theorem sets_enumSection [PatternEngine] (adds : PatternEngine.AddsNothing) {decls : List Decl}
    {enums : List (List Line)}
    (defined : List.Forall₂ DefinesEnum decls enums)
    (unbroken : ∀ decl ∈ decls, decl.Unbroken) :
    (enumSection decls).Sets 0 (atMargin ["// Enums", ""] ++ enums.flatten) := by
  refine (Script.Sets.lines (by decide)).append
    (.sequence (((List.forall₂_and_left _ _).mpr ⟨unbroken, defined⟩).imp ?_))
  rintro decl lines ⟨whole, defines⟩
  exact defines.sets_enumType adds whole

theorem sets_callbackSection {decls : List Decl} {callbacks : List String}
    (defined : List.Forall₂ DefinesCallback decls callbacks)
    (unbroken : ∀ decl ∈ decls, decl.Unbroken) :
    (callbackSection decls).Sets 0
      (atMargin ["// Function pointer delegates", ""] ++ atMargin callbacks) := by
  refine (Script.Sets.lines (by decide)).append
    (.each (((List.forall₂_and_left _ _).mpr ⟨unbroken, defined⟩).imp ?_))
  rintro decl text ⟨whole, defines⟩
  exact defines.sets_callbackType whole

theorem sets_structSection {decls : List Decl} {structs : List (List Line)}
    (defined : List.Forall₂ DefinesStruct decls structs)
    (unbroken : ∀ decl ∈ decls, decl.Unbroken) :
    (structSection decls).Sets 0
      (if structs = [] then [] else atMargin ["// Struct types", ""] ++ structs.flatten) := by
  have each : List.Forall₂ (fun decl lines => (structType decl).Sets 0 lines) decls structs := by
    refine ((List.forall₂_and_left _ _).mpr ⟨unbroken, defined⟩).imp ?_
    rintro decl lines ⟨whole, defines⟩
    exact defines.sets_structType whole
  cases defined with
  | nil => exact .done
  | cons here later => exact (Script.Sets.lines (by decide)).append (.sequence each)

/-- The catalogues of a library of which every declaration can be defined. -/
structure DefinesTypes [PatternEngine] (overview : Overview) (enums : List (List Line))
    (callbacks : List String) (structs : List (List Line)) : Prop where
  enums : List.Forall₂ DefinesEnum overview.enums enums
  callbacks : List.Forall₂ DefinesCallback overview.callbacks callbacks
  structs : List.Forall₂ DefinesStruct overview.structs structs

/-- **The shared types set the lines of all sections**, one after the other. -/
theorem DefinesTypes.sets_typesScript [PatternEngine] (adds : PatternEngine.AddsNothing)
    {overview : Overview} {enums : List (List Line)} {callbacks : List String}
    {structs : List (List Line)} (defines : DefinesTypes overview enums callbacks structs)
    (unbroken : ∀ decl ∈ overview.opaques ++ overview.enums ++ overview.callbacks ++
      overview.structs, decl.Unbroken) :
    (typesScript overview).Sets 0
      (typesLines (overview.opaques.map Decl.bindingName) enums callbacks structs) := by
  simp only [List.forall_mem_append] at unbroken
  obtain ⟨⟨⟨ofOpaques, ofEnums⟩, ofCallbacks⟩, ofStructs⟩ := unbroken
  have shared : includeLine scalarsFile = "#include \"CBBaseTypes.h\"" ∧
      "#endif" ++ " // __cplusplus" = "#endif // __cplusplus" := by decide
  rw [typesScript, openLinkage, closeLinkage, shared.1, shared.2]
  refine .append (.append (.append (.append (.append (.append (.append (.lines ?_)
    (sets_opaqueSection ofOpaques)) (.lines ?_)) (sets_enumSection adds defines.enums ofEnums))
    (sets_callbackSection defines.callbacks ofCallbacks))
    (sets_structSection defines.structs ofStructs)) (.line ?_)) (.lines ?_)
  all_goals decide

/-- The declarations of shared types that are rendered can be defined. -/
theorem exists_definesTypes [PatternEngine] {overview : Overview}
    (ok : (typesScript overview).failure? = none) :
    ∃ enums callbacks structs, DefinesTypes overview enums callbacks structs := by
  rw [failure?_typesScript, typesFaults, List.head?_eq_none_iff] at ok
  simp only [List.append_eq_nil_iff, List.flatMap_eq_nil_iff] at ok
  obtain ⟨⟨ofEnums, ofCallbacks⟩, ofStructs⟩ := ok
  have enums : ∀ decl ∈ overview.enums, ∃ lines, DefinesEnum decl lines := fun decl mem =>
    exists_definesEnum (by rw [failure?_enumType, ofEnums decl mem]; rfl)
  have callbacks : ∀ decl ∈ overview.callbacks, ∃ text, DefinesCallback decl text :=
    fun decl mem =>
      exists_definesCallback (by rw [failure?_callbackType, ofCallbacks decl mem]; rfl)
  have structs : ∀ decl ∈ overview.structs, ∃ lines, DefinesStruct decl lines := fun decl mem =>
    exists_definesStruct (by rw [failure?_structType, ofStructs decl mem]; rfl)
  -- What can be defined one by one can be defined together.
  obtain ⟨enums, ofEnums⟩ := exists_forall₂ enums
  obtain ⟨callbacks, ofCallbacks⟩ := exists_forall₂ callbacks
  obtain ⟨structs, ofStructs⟩ := exists_forall₂ structs
  exact ⟨enums, callbacks, structs, ofEnums, ofCallbacks, ofStructs⟩

end Header

/-! ### Libraries -/

/-- **The text of the shared types of a library** none of whose strings has a line
end. They have a header, which is rendered if and only if each of its enums,
callbacks and structs can be defined. Then it shows the prologue, the opaque types,
the enums, the callbacks and the structs, every surviving declaration that belongs
to a section once and in the order of discovery, and the epilogue, each line
indented by its level. -/
theorem Library.collect_typesText [PatternEngine] (adds : PatternEngine.AddsNothing)
    (library : Library) (options : Options)
    (unbroken : ∀ text ∈ library.strings, '\r' ∉ text.toList ∧ '\n' ∉ text.toList) :
    ∃ collection, library.collect Header.target options = .ok collection ∧
      let aggregate := collection.aggregate
      let bound (kinds : List DeclKind) := library.survivors.filter fun decl =>
        decl.attributes.explicitBinding.isSome && kinds.contains decl.kind
      Header.typesHeader ∈ collection.manifest ∧
      aggregate.opaques = bound [.classType, .interface] ∧
      aggregate.enums = bound [.enumType] ∧
      aggregate.callbacks = library.survivors.filter (·.kind = .delegate) ∧
      aggregate.structs = bound [.structType] ∧
      ∀ output,
        Header.typesHeader.render aggregate options.indentWidth
            (options.defaultMark Header.target) = .rendered output ↔
          ∃ enums callbacks structs,
            List.Forall₂ Header.DefinesEnum aggregate.enums enums ∧
            List.Forall₂ Header.DefinesCallback aggregate.callbacks callbacks ∧
            List.Forall₂ Header.DefinesStruct aggregate.structs structs ∧
            output =
              { relativePath := "Types.h"
                content := Line.renderEnded options.indentWidth
                  (Header.typesLines (aggregate.opaques.map Decl.bindingName) enums callbacks
                    structs)
                byteOrderMark := options.defaultMark Header.target } := by
  let collection : Collection := (library.aggregate options).collect Header.target
  have files : collection.aggregate.toSurvey.Files library.survivors := library.files options
  have manifest : Header.typesHeader ∈ collection.manifest := by
    rw [library.manifest_headers options]
    simp
  have whole : ∀ decl ∈ collection.aggregate.opaques ++ collection.aggregate.enums ++
      collection.aggregate.callbacks ++ collection.aggregate.structs, decl.Unbroken := by
    intro decl mem text inside
    have survives : decl ∈ library.survivors := by
      rw [files.opaques, files.enums, files.callbacks, files.structs] at mem
      simp only [List.mem_append, List.mem_filter] at mem
      grind
    exact unbroken_iff.mpr (unbroken text (library.strings_subset survives inside))
  have plain : (Header.typesHeader.generate collection.aggregate).Plain :=
    Header.plain_typesScript _
  refine ⟨collection, library.collect_eq Header.target options, manifest, files.opaques,
    files.enums, files.callbacks, files.structs, fun output => ?_⟩
  have shown : ∀ {enums callbacks structs},
      Header.DefinesTypes collection.aggregate.toOverview enums callbacks structs →
        Header.typesHeader.render collection.aggregate options.indentWidth
          (options.defaultMark Header.target) = _ := fun defines =>
    Header.typesHeader.render_of_sets plain (defines.sets_typesScript adds whole) _ _
  constructor
  · intro rendered
    obtain ⟨enums, callbacks, structs, defines⟩ :=
      Header.exists_definesTypes (Artifact.failure?_of_rendered plain rendered)
    exact ⟨enums, callbacks, structs, defines.enums, defines.callbacks, defines.structs,
      RenderResult.rendered.inj (rendered.symm.trans (shown defines))⟩
  · rintro ⟨enums, callbacks, structs, ofEnums, ofCallbacks, ofStructs, rfl⟩
    exact shown ⟨ofEnums, ofCallbacks, ofStructs⟩

/-- A library with a declaration for every section of its shared types, and with
members that are left out. -/
def Library.pages : Library where
  name := "Pages"
  types :=
    [⟨.classType, "Document", "Pages", [.explicitBinding "PGDocument"],
        [.nested ⟨.enumType, "Side", "Pages", [.explicitBinding "PGSide", .stem "PG_SIDE"],
          [.enumMember ⟨"LeftHand", -1, []⟩, .enumMember ⟨"None", 0, [.ignore]⟩,
            .enumMember ⟨"Right", 1, [.explicitBinding "PGRight"]⟩], none⟩],
        none⟩,
      ⟨.delegate, "Progress", "Pages", [], [],
        some ⟨.predefined "bool",
          [⟨"done", .predefined "float"⟩, ⟨"page", .named "PGDocument*"⟩]⟩⟩,
      ⟨.structType, "Size", "Pages", [.explicitBinding "PGSize"],
        [.field ⟨"width", .predefined "float", []⟩,
          .field ⟨"cache", .predefined "object", [.ignore]⟩], none⟩]

/-- The shared types of that library, with two spaces for each level. -/
def Library.pagesTypes : String :=
  "\n".intercalate
    ["#pragma once", "", "#include \"CBBaseTypes.h\"", "", "// Opaque types", "",
      "#define PGDocument void", "", "#ifdef __cplusplus", "extern \"C\"", "\x7b",
      "#endif // __cplusplus", "// Enums", "", "typedef enum", "\x7b",
      "  PG_SIDE_LEFT_HAND = -1,", "  PGRight = 1,", "  __PG_SIDE__ = 0xFFFFFFFF,", "\x7d PGSide;",
      "", "// Function pointer delegates", "",
      "typedef cbbool(*Progress)(float done, PGDocument* page);", "// Struct types", "",
      "struct PGSize", "\x7b", "  float width;", "\x7d;", "", "", "#ifdef __cplusplus", "\x7d",
      "#endif // __cplusplus", ""]

theorem Library.collect_typesText_pages :
    (∀ text ∈ pages.strings, '\r' ∉ text.toList ∧ '\n' ∉ text.toList) ∧
    ∃ collection enums callbacks structs,
      pages.collect Header.target { indentWidth := 2 } = .ok collection ∧
      Header.typesHeader.render collection.aggregate 2 true =
        .rendered ⟨"Types.h", pagesTypes, true⟩ ∧
      List.Forall₂ Header.DefinesEnum collection.aggregate.enums enums ∧
      List.Forall₂ Header.DefinesCallback collection.aggregate.callbacks callbacks ∧
      List.Forall₂ Header.DefinesStruct collection.aggregate.structs structs ∧
      pagesTypes = Line.renderEnded 2 (Header.typesLines
        (collection.aggregate.opaques.map Decl.bindingName) enums callbacks structs) := by
  have unbroken : ∀ text ∈ pages.strings, '\r' ∉ text.toList ∧ '\n' ∉ text.toList := by
    decide +kernel
  have checked : (pages.collect Header.target { indentWidth := 2 }).toOption.map
      (fun collection => Header.typesHeader.render collection.aggregate 2 true) =
        some (.rendered ⟨"Types.h", pagesTypes, true⟩) := by decide +kernel
  obtain ⟨collection, collected, -, -, -, -, -, shown⟩ :=
    pages.collect_typesText Pattern.addsNothing_engine { indentWidth := 2 } unbroken
  rw [collected] at checked
  have rendered := Option.some.inj checked
  obtain ⟨enums, callbacks, structs, ofEnums, ofCallbacks, ofStructs, output⟩ :=
    (shown _).mp rendered
  exact ⟨unbroken, collection, enums, callbacks, structs, collected, rendered, ofEnums,
    ofCallbacks, ofStructs, congrArg Rendered.content output⟩

end Bindery
