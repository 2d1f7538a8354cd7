/-
What the headers read of a library.

Of a declaration the headers read little: its face. Two surveys are alike when
they show the same faces in the same places. The main statements are

* `Survey.Alike.entered`, that entering declarations with the same face keeps
  surveys alike, whatever the namespaces are mapped to;
* `Header.respects_manifest`, that every header writes the same script for
  alike overviews;
* `Library.Alike.render` and `Library.Alike.convert_eq_ok`, that alike libraries
  are converted alike.

A statement about two conversions is so reduced to one about the faces of the
declarations on two outlines, in which neither forests nor scripts occur.
-/

import Bindery.Conversion
import Bindery.Header.Target
import Bindery.Proofs.Artifact.Manifest
import Bindery.Proofs.Context.Visits

namespace Bindery

/-! ### Faces -/

/-- What the headers read of a method: the name and the signature of its
function. -/
def Method.face (method : Method) : String × Signature :=
  (Header.functionName method, method.signature)

/-- What the headers read of a declaration. -/
structure Face where
  kind : DeclKind
  identifier : String
  binding : Option String
  moduleName : Option String
  signature : Option Signature
  /-- The constants of an enum, or why they have no names. -/
  constants : Except NamingError Naming.EnumBinding
  /-- The fields that are not left out. -/
  fields : List (String × TypeRef)
  /-- The functions that it gives to its module. -/
  functions : List (String × Signature)

/-- The face of a declaration. -/
def Decl.face [PatternEngine] (decl : Decl) : Face where
  kind := decl.kind
  identifier := decl.identifier
  binding := decl.attributes.explicitBinding
  moduleName := decl.attributes.moduleName
  signature := decl.signature
  constants := Naming.EnumBinding.of decl
  fields := (decl.fields.filter fun field => !field.attributes.isIgnored).map fun field =>
    (field.name, field.type)
  functions := decl.exportedMethods.map Method.face

/-- What the headers read of the kind of a context. -/
inductive KindFace where
  | type (identifier : String)
  | module (name : String)
  | share (functions : List (String × Signature))

/-- The face of a kind. -/
def ContextKind.face : ContextKind → KindFace
  | type decl _ => .type decl.identifier
  | module name => .module name
  | share _ methods => .share (methods.map Method.face)

/-- What the headers read of a context: its kind and its place. -/
def Context.face (context : Context) : KindFace × Option ContextId × List ContextId :=
  (context.kind.face, context.parent, context.children)

/-! ### Alike forests -/

namespace ContextForest

/-- Forests that show the same faces in the same places. -/
structure Alike (forest other : ContextForest) : Prop where
  size : forest.size = other.size
  roots : forest.roots = other.roots
  contexts : ∀ id, (forest.get? id).map Context.face = (other.get? id).map Context.face

namespace Alike

variable {forest other : ContextForest} {kind kind' : ContextKind}

theorem insert (alike : forest.Alike other) (same : kind.face = kind'.face) :
    (forest.insert kind).2.Alike (other.insert kind').2 where
  size := by rw [size_insert, size_insert, alike.size]
  roots := alike.roots
  contexts id := by
    rw [get?_insert, get?_insert, alike.size]
    by_cases fresh : id = other.size
    · rw [if_pos fresh, if_pos fresh]
      exact congrArg (fun face => some (face, none, [])) same
    · rw [if_neg fresh, if_neg fresh]
      exact alike.contexts id

theorem link (alike : forest.Alike other) (parent child : ContextId) :
    (forest.link parent child).Alike (other.link parent child) where
  size := by rw [size_link, size_link, alike.size]
  roots := alike.roots
  contexts id := by
    -- A link changes the face of a context by its place alone.
    let relink : KindFace × Option ContextId × List ContextId →
        KindFace × Option ContextId × List ContextId := fun face =>
      (face.1, if child = id then some parent else face.2.1,
        if parent = id then face.2.2 ++ [child] else face.2.2)
    have relinked : ∀ forest : ContextForest,
        ((forest.link parent child).get? id).map Context.face =
          ((forest.get? id).map Context.face).map relink := by
      intro forest
      rw [get?_link, Option.map_map, Option.map_map]
      rfl
    rw [relinked, relinked, alike.contexts id]

/-- At every number there is a context in both forests, with the same face, or
in neither. -/
theorem get?_cases (alike : forest.Alike other) (id : ContextId) :
    (forest.get? id = none ∧ other.get? id = none) ∨
      ∃ context context', forest.get? id = some context ∧ other.get? id = some context' ∧
        context.face = context'.face := by
  have same := alike.contexts id
  cases here : forest.get? id with
  | none =>
    rw [here] at same
    exact .inl ⟨rfl, Option.map_eq_none_iff.mp same.symm⟩
  | some context =>
    rw [here] at same
    obtain ⟨context', there, face⟩ := Option.map_eq_some_iff.mp same.symm
    exact .inr ⟨context, context', rfl, there, face.symm⟩

theorem children (alike : forest.Alike other) (id : ContextId) :
    forest.children id = other.children id := by
  unfold ContextForest.children
  rcases alike.get?_cases id with ⟨here, there⟩ | ⟨context, context', here, there, face⟩
  · rw [here, there]
  · rw [here, there]
    exact congrArg (·.2.2) face

theorem walk (alike : forest.Alike other) (fuel : Nat) (stack : List ContextId) :
    forest.walk fuel stack = other.walk fuel stack := by
  induction fuel generalizing stack with
  | zero => cases stack <;> rfl
  | succ fuel ih =>
    cases stack with
    | nil => rfl
    | cons id stack => rw [ContextForest.walk, ContextForest.walk, alike.children id, ih]

theorem preOrder (alike : forest.Alike other) : forest.preOrder = other.preOrder := by
  rw [ContextForest.preOrder, ContextForest.preOrder, alike.walk, alike.size, alike.roots]

theorem nameWithin (alike : forest.Alike other) (fuel : Nat) (id : ContextId) :
    forest.nameWithin fuel id = other.nameWithin fuel id := by
  induction fuel generalizing id with
  | zero =>
    unfold ContextForest.nameWithin
    rcases alike.get?_cases id with
      ⟨here, there⟩ | ⟨⟨kind, _, _⟩, ⟨kind', _, _⟩, here, there, face⟩
    · rw [here, there]
    · rw [here, there]
      cases kind <;> cases kind' <;> simp_all [Context.face, ContextKind.face]
  | succ fuel ih =>
    unfold ContextForest.nameWithin
    rcases alike.get?_cases id with
      ⟨here, there⟩ | ⟨⟨kind, parent, _⟩, ⟨kind', parent', _⟩, here, there, face⟩
    · rw [here, there]
    · rw [here, there]
      obtain rfl : parent = parent' := congrArg (·.2.1) face
      cases kind <;> cases kind' <;> cases parent <;>
        simp_all [Context.face, ContextKind.face]

theorem name (alike : forest.Alike other) : forest.name = other.name := by
  funext id
  rw [ContextForest.name, ContextForest.name, alike.size, alike.nameWithin]

/-- The functions of a module are the same. -/
theorem moduleMethods (alike : forest.Alike other) (id : ContextId) :
    (forest.moduleMethods id).map Method.face = (other.moduleMethods id).map Method.face := by
  unfold ContextForest.moduleMethods
  rw [List.map_flatMap, List.map_flatMap, alike.children id]
  apply List.flatMap_congr
  intro child _
  rcases alike.get?_cases child with
    ⟨here, there⟩ | ⟨⟨kind, _, _⟩, ⟨kind', _, _⟩, here, there, face⟩
  · rw [here, there]
  · rw [here, there]
    cases kind <;> cases kind' <;> simp_all [Context.face, ContextKind.face]

end Alike

end ContextForest

/-! ### Alike assemblies -/

namespace Assembly

/-- Assemblies with the same modules in alike forests. -/
structure Alike (assembly other : Assembly) : Prop where
  forest : assembly.forest.Alike other.forest
  modules : assembly.modules = other.modules

namespace Alike

variable {assembly other : Assembly} {methods methods' : List Method}

theorem module? (alike : assembly.Alike other) (name : String) :
    assembly.module? name = other.module? name := by
  rw [Assembly.module?, Assembly.module?, alike.modules]

theorem methodsOf? (alike : assembly.Alike other) (name : String) :
    ((assembly.methodsOf? name).getD []).map Method.face =
      ((other.methodsOf? name).getD []).map Method.face := by
  rw [Assembly.methodsOf?, Assembly.methodsOf?, alike.module? name]
  cases other.module? name with
  | none => rfl
  | some id => exact alike.forest.moduleMethods id

theorem withPlaced (alike : assembly.Alike other) {kind kind' : ContextKind}
    (same : kind.face = kind'.face) (parent : Option ContextId) :
    (assembly.withPlaced kind parent).Alike (other.withPlaced kind' parent) := by
  have inserted := alike.forest.insert same
  have fresh := alike.forest.size
  cases parent with
  | none =>
    refine ⟨⟨inserted.size, ?_, inserted.contexts⟩, alike.modules⟩
    simp only [Assembly.withPlaced, alike.forest.roots, fresh]
  | some parent =>
    refine ⟨?_, alike.modules⟩
    rw [Assembly.withPlaced, Assembly.withPlaced, fresh]
    exact inserted.link parent _

theorem withShare (alike : assembly.Alike other) (parent : ContextId) {origin origin' : ContextId}
    (same : methods.map Method.face = methods'.map Method.face) :
    (assembly.withShare parent origin methods).Alike (other.withShare parent origin' methods') := by
  have face : (ContextKind.share origin methods).face = (ContextKind.share origin' methods').face :=
    congrArg KindFace.share same
  have inserted := alike.forest.insert face
  refine ⟨?_, alike.modules⟩
  rw [Assembly.withShare, Assembly.withShare, alike.forest.size]
  exact inserted.link parent _

theorem withModule (alike : assembly.Alike other) (name : String) :
    (assembly.withModule name).Alike (other.withModule name) := by
  have inserted := alike.forest.insert (rfl : (ContextKind.module name).face = _)
  refine ⟨⟨inserted.size, ?_, inserted.contexts⟩, ?_⟩
  · simp only [Assembly.withModule, alike.forest.roots, alike.forest.size]
  · simp only [Assembly.withModule, alike.modules, alike.forest.size]

theorem withAttached (alike : assembly.Alike other) (name : String) {origin origin' : ContextId}
    (same : methods.map Method.face = methods'.map Method.face) :
    (assembly.withAttached name origin methods).Alike
      (other.withAttached name origin' methods') := by
  unfold Assembly.withAttached
  rw [alike.module? name]
  cases other.module? name with
  | some parent => exact alike.withShare parent same
  | none =>
    rw [alike.forest.size]
    exact (alike.withModule name).withShare _ same

end Alike

end Assembly

/-! ### Functions and fields -/

namespace Header

/-- A function that reads faces only maps lists of the same faces alike. -/
theorem map_congr_of_faces {α β γ : Type} {face : α → β} {f : α → γ}
    (reads : ∀ {a b}, face a = face b → f a = f b) {items items' : List α}
    (same : items.map face = items'.map face) : items.map f = items'.map f := by
  induction items generalizing items' with
  | nil => rw [List.map_eq_nil_iff.mp same.symm]
  | cons item rest ih =>
    cases items' with
    | nil => cases same
    | cons item' rest' =>
      obtain ⟨first, later⟩ := List.cons.inj same
      rw [List.map_cons, List.map_cons, reads first, ih later]

theorem fieldLine_congr {field field' : Field}
    (same : (field.name, field.type) = (field'.name, field'.type)) :
    fieldLine field = fieldLine field' := by
  obtain ⟨name, type⟩ := Prod.mk.inj same
  rw [fieldLine, fieldLine, name, type]

theorem moduleFunction_congr (api : String) {method method' : Method}
    (same : method.face = method'.face) :
    moduleFunction api method = moduleFunction api method' := by
  have name : functionName method = functionName method' := congrArg Prod.fst same
  have signature : method.signature = method'.signature := congrArg Prod.snd same
  rw [moduleFunction, moduleFunction, name, signature]

end Header

variable [PatternEngine]

/-! ### Alike surveys -/

namespace Survey

/-- Surveys with alike assemblies that have filed declarations of the same
faces. -/
structure Alike (survey other : Survey) : Prop where
  assembly : survey.assembly.Alike other.assembly
  enums : survey.enums.map Decl.face = other.enums.map Decl.face
  callbacks : survey.callbacks.map Decl.face = other.callbacks.map Decl.face
  opaques : survey.opaques.map Decl.face = other.opaques.map Decl.face
  structs : survey.structs.map Decl.face = other.structs.map Decl.face

namespace Alike

variable {survey other : Survey} {decl decl' : Decl}

theorem recordNamespace (alike : survey.Alike other) (path path' : String) :
    (survey.recordNamespace path).Alike (other.recordNamespace path') := by
  obtain ⟨assembly, enums, callbacks, opaques, structs⟩ := alike
  unfold Survey.recordNamespace
  split <;> split <;> exact ⟨assembly, enums, callbacks, opaques, structs⟩

theorem catalogue (alike : survey.Alike other) (same : decl.face = decl'.face) :
    (survey.catalogue decl).Alike (other.catalogue decl') := by
  have kind : decl.kind = decl'.kind := congrArg Face.kind same
  have binding : decl.attributes.explicitBinding = decl'.attributes.explicitBinding :=
    congrArg Face.binding same
  have filed : ∀ {decls decls' : List Decl}, decls.map Decl.face = decls'.map Decl.face →
      (decls ++ [decl]).map Decl.face = (decls' ++ [decl']).map Decl.face := by
    intro decls decls' before
    rw [List.map_append, List.map_append, before, List.map_singleton, List.map_singleton, same]
  obtain ⟨assembly, enums, callbacks, opaques, structs⟩ := alike
  unfold Survey.catalogue
  rw [kind, binding]
  split
  · exact ⟨assembly, enums, filed callbacks, opaques, structs⟩
  · exact ⟨assembly, enums, callbacks, opaques, structs⟩
  · exact ⟨assembly, filed enums, callbacks, opaques, structs⟩
  · exact ⟨assembly, enums, callbacks, filed opaques, structs⟩
  · exact ⟨assembly, enums, callbacks, filed opaques, structs⟩
  · exact ⟨assembly, enums, callbacks, opaques, filed structs⟩

theorem withType (alike : survey.Alike other) (rule rule' : NamespaceRule)
    (same : decl.face = decl'.face) (parent : Option ContextId) :
    (survey.withType rule decl parent).Alike (other.withType rule' decl' parent) := by
  have face : (ContextKind.type decl (rule.mapped? decl)).face =
      (ContextKind.type decl' (rule'.mapped? decl')).face :=
    congrArg (fun face : Face => KindFace.type face.identifier) same
  have placed := alike.assembly.withPlaced face parent
  obtain ⟨-, enums, callbacks, opaques, structs⟩ := alike
  have noted : ({ survey with assembly := _ } : Survey).Alike { other with assembly := _ } :=
    ⟨placed, enums, callbacks, opaques, structs⟩
  exact (noted.recordNamespace _ _).catalogue same

/-- **Declarations with the same face are entered alike**, whatever their
namespaces are mapped to. -/
theorem entered (alike : survey.Alike other) (rule rule' : NamespaceRule)
    (same : decl.face = decl'.face) (parent : Option ContextId) :
    (survey.entered rule decl parent).Alike (other.entered rule' decl' parent) := by
  have noted := alike.withType rule rule' same parent
  have named : decl.attributes.moduleName = decl'.attributes.moduleName :=
    congrArg Face.moduleName same
  have functions : decl.exportedMethods.map Method.face = decl'.exportedMethods.map Method.face :=
    congrArg Face.functions same
  unfold Survey.entered
  rw [named]
  cases decl'.attributes.moduleName with
  | none => exact noted
  | some name =>
    obtain ⟨assembly, enums, callbacks, opaques, structs⟩ := noted
    exact ⟨assembly.withAttached name functions, enums, callbacks, opaques, structs⟩

end Alike

end Survey

/-- What the headers read of a stop. -/
def Stop.face (stop : Stop) : Option Nat × Face :=
  (stop.parent, stop.decl.face)

/-- Passes over outlines with the same faces stay alike. -/
theorem Progress.along_alike {progress other : Progress} (ids : progress.ids = other.ids)
    (alike : progress.survey.Alike other.survey) (rule rule' : NamespaceRule)
    {stops stops' : List Stop} (same : stops.map Stop.face = stops'.map Stop.face) :
    (progress.along rule stops).survey.Alike (other.along rule' stops').survey := by
  induction stops generalizing progress other stops' with
  | nil =>
    obtain rfl := List.map_eq_nil_iff.mp same.symm
    exact alike
  | cons stop rest ih =>
    cases stops' with
    | nil => cases same
    | cons stop' rest' =>
      obtain ⟨first, later⟩ := List.cons.inj same
      have parent : stop.parent = stop'.parent := congrArg Prod.fst first
      show ((progress.advance rule stop).along rule rest).survey.Alike
        ((other.advance rule' stop').along rule' rest').survey
      refine ih ?_ ?_ later
      · rw [advance, advance, ids, alike.assembly.forest.size]
      · rw [advance, advance, ids, parent]
        exact alike.entered rule rule' (congrArg Prod.snd first) _

/-! ### Alike scripts -/

namespace Header

open Bindery.Layout

section Types

variable {decl decl' : Decl}

theorem bindingName_congr (same : decl.face = decl'.face) :
    decl.bindingName = decl'.bindingName :=
  congrArg (fun face : Face => face.binding.getD face.identifier) same

theorem opaqueType_congr (same : decl.face = decl'.face) : opaqueType decl = opaqueType decl' := by
  rw [opaqueType, opaqueType, bindingName_congr same]

theorem enumType_congr (same : decl.face = decl'.face) : enumType decl = enumType decl' :=
  congrArg (fun face : Face => spelled face.constants enumBlock) same

theorem callbackType_congr (same : decl.face = decl'.face) :
    callbackType decl = callbackType decl' := by
  have signature : decl.signature = decl'.signature := congrArg Face.signature same
  rw [callbackType, callbackType, bindingName_congr same, signature]

theorem structType_congr (same : decl.face = decl'.face) : structType decl = structType decl' := by
  have fields : (decl.fields.filter fun field => !field.attributes.isIgnored).map fieldLine =
      (decl'.fields.filter fun field => !field.attributes.isIgnored).map fieldLine :=
    map_congr_of_faces fieldLine_congr (congrArg Face.fields same)
  rw [structType, structType, bindingName_congr same, fields]

end Types

theorem isEmpty_congr {decls decls' : List Decl}
    (same : decls.map Decl.face = decls'.map Decl.face) : decls.isEmpty = decls'.isEmpty := by
  rw [← List.isEmpty_map, same, List.isEmpty_map]

end Header

/-! ### Alike overviews -/

/-- Overviews of libraries of the same name with alike surveys. -/
structure Overview.Alike (overview other : Overview) : Prop where
  survey : overview.toSurvey.Alike other.toSurvey
  libraryName : overview.libraryName = other.libraryName

/-- An artifact that reads faces only. -/
def Artifact.Respects (artifact : Artifact) : Prop :=
  ∀ overview other : Overview, overview.Alike other →
    artifact.generator.generate overview = artifact.generator.generate other

namespace Header

open Bindery.Layout

theorem respects_moduleHeader (name : String) : (moduleHeader name).Respects := by
  intro overview other alike
  have methods := alike.survey.assembly.methodsOf? name
  simp only [moduleHeader, moduleScript, alike.libraryName]
  rw [map_congr_of_faces (moduleFunction_congr _) methods]

theorem respects_umbrellaHeader (library : String) : (umbrellaHeader library).Respects := by
  intro overview other alike
  have names : moduleNames overview = moduleNames other := by
    rw [moduleNames, moduleNames, Assembly.moduleIds, Assembly.moduleIds,
      alike.survey.assembly.modules]
    exact congrArg (List.map · _) alike.survey.assembly.forest.name
  simp only [umbrellaHeader, names]

theorem respects_exportsHeader : exportsHeader.Respects := fun _ _ alike =>
  congrArg exportsScript alike.libraryName

theorem respects_scalarsHeader : scalarsHeader.Respects := fun _ _ _ => rfl

theorem respects_typesHeader : typesHeader.Respects := by
  intro overview other alike
  obtain ⟨-, enums, callbacks, opaques, structs⟩ := alike.survey
  simp only [typesHeader, typesScript, opaqueSection, enumSection, callbackSection, structSection,
    isEmpty_congr opaques, isEmpty_congr structs, map_congr_of_faces opaqueType_congr opaques,
    map_congr_of_faces enumType_congr enums, map_congr_of_faces callbackType_congr callbacks,
    map_congr_of_faces structType_congr structs]

/-- Contexts in the same place have the same headers. -/
theorem contextHeaders_congr {aggregate other : Aggregate}
    (alike : aggregate.toOverview.Alike other.toOverview) (id : ContextId) :
    contextHeaders aggregate id = contextHeaders other id := by
  unfold contextHeaders
  rcases alike.survey.assembly.forest.get?_cases id with
    ⟨here, there⟩ | ⟨⟨kind, _, _⟩, ⟨kind', _, _⟩, here, there, face⟩
  · rw [Overview.forest, Overview.forest, here, there]
  · rw [Overview.forest, Overview.forest, here, there]
    cases kind <;> cases kind' <;> simp_all [Context.face, ContextKind.face]

/-- Aggregates with alike overviews have the same headers in the same order. -/
theorem manifest_congr {aggregate other : Aggregate}
    (alike : aggregate.toOverview.Alike other.toOverview) :
    (aggregate.collect target).manifest = (other.collect target).manifest := by
  have forests : aggregate.forest.Alike other.forest := alike.survey.assembly.forest
  have contexts : aggregate.forest.preOrder.flatMap (aggregate.collect target).artifactsAt =
      other.forest.preOrder.flatMap (other.collect target).artifactsAt := by
    rw [forests.preOrder]
    apply List.flatMap_congr
    intro id _
    rw [Aggregate.artifactsAt_collect, Aggregate.artifactsAt_collect, forests.preOrder,
      forests.size]
    simp only [target, contextHeaders_congr alike id]
  have headers : libraryHeaders aggregate = libraryHeaders other := by
    rw [libraryHeaders, libraryHeaders, alike.libraryName]
  exact congrArg₂ (· ++ ·) contexts headers

/-- The headers are those of modules and those of the library. -/
theorem mem_manifest {aggregate : Aggregate} {artifact : Artifact}
    (mem : artifact ∈ (aggregate.collect target).manifest) :
    (∃ name, artifact = moduleHeader name) ∨
      artifact = umbrellaHeader aggregate.libraryName ∨ artifact = exportsHeader ∨
        artifact = typesHeader ∨ artifact = scalarsHeader := by
  rw [Collection.manifest_eq] at mem
  rcases List.mem_append.mp mem with ofContext | ofLibrary
  · obtain ⟨id, -, here⟩ := List.mem_flatMap.mp ofContext
    rw [Aggregate.artifactsAt_collect] at here
    split at here
    · simp only [target, contextHeaders] at here
      split at here
      · exact .inl ⟨_, List.mem_singleton.mp here⟩
      · exact absurd here List.not_mem_nil
    · exact absurd here List.not_mem_nil
  · have header : artifact ∈ libraryHeaders aggregate := ofLibrary
    simp only [libraryHeaders, List.mem_cons, List.not_mem_nil, or_false] at header
    exact .inr header

/-- **Every header writes the same script for alike overviews.** -/
theorem respects_manifest (aggregate : Aggregate) :
    ∀ artifact ∈ (aggregate.collect target).manifest, artifact.Respects := by
  intro artifact mem
  rcases mem_manifest mem with ⟨name, rfl⟩ | rfl | rfl | rfl | rfl
  · exact respects_moduleHeader name
  · exact respects_umbrellaHeader _
  · exact respects_exportsHeader
  · exact respects_typesHeader
  · exact respects_scalarsHeader

end Header

/-! ### Alike libraries -/

/-- An artifact that reads faces only is rendered alike. -/
theorem Artifact.Respects.render {artifact : Artifact} (respects : artifact.Respects)
    {aggregate other : Aggregate} (alike : aggregate.toOverview.Alike other.toOverview)
    (width : Nat) (defaultMark : Bool) :
    artifact.render aggregate width defaultMark = artifact.render other width defaultMark := by
  have generate : artifact.generate aggregate = artifact.generate other :=
    respects _ _ alike
  have script : artifact.script aggregate = artifact.script other := by
    rw [Artifact.script, Artifact.script, generate]
  rw [Artifact.render, Artifact.render, script]

namespace Library

variable {library other : Library}

/-- Libraries of the same name whose outlines show the same faces. -/
structure Alike (library other : Library) : Prop where
  name : library.name = other.name
  outline : library.outline.map Stop.face = other.outline.map Stop.face

theorem Alike.overview (alike : library.Alike other) (options options' : Options) :
    (library.overview options).Alike (other.overview options') where
  survey := by
    have start : ({} : Survey).Alike {} := by
      refine ⟨⟨⟨rfl, rfl, fun _ => rfl⟩, rfl⟩, rfl, rfl, rfl, rfl⟩
    exact Progress.along_alike rfl start _ _ alike.outline
  libraryName := alike.name

/-- **Alike libraries are rendered alike.** -/
theorem Alike.render (alike : library.Alike other) (options : Options) :
    ((library.aggregate options).collect Header.target).render Header.target options =
      ((other.aggregate options).collect Header.target).render Header.target options := by
  have overviews : (library.aggregate options : Aggregate).toOverview.Alike
      (other.aggregate options : Aggregate).toOverview := alike.overview options options
  have placed : ((library.aggregate options).collect Header.target).aggregate.toOverview.Alike
      ((other.aggregate options).collect Header.target).aggregate.toOverview := overviews
  rw [Collection.render, Collection.render, Collection.renderBy, Collection.renderBy,
    Header.manifest_congr overviews]
  apply congrArg gather
  apply List.map_congr_left
  intro artifact mem
  rw [(Header.respects_manifest _ artifact mem).render placed]

/-- **Alike libraries are converted alike**, unless one is refused that the other
is not. -/
theorem Alike.convert_eq_ok (alike : library.Alike other) {options : Options} {result : Result}
    (valid : library.misuses = [] → other.misuses = [])
    (converted : library.convert Header.target options = .ok result) :
    other.convert Header.target options = .ok result := by
  rw [Library.convert_eq] at converted ⊢
  split at converted
  · cases converted
  · rename_i accepted
    have accepted' : ¬(!other.misuses.isEmpty && !options.ignoreMisuses) = true := by
      cases ignoring : options.ignoreMisuses with
      | true => simp
      | false =>
        have none : library.misuses = [] := by simpa [ignoring] using accepted
        simp [valid none]
    rw [if_neg accepted', ← alike.render options]
    exact converted

end Library

end Bindery
