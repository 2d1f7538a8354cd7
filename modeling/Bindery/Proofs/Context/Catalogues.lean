/-
The catalogues of a library.

Along the way a survey files every surviving declaration in at most one
catalogue and notes its namespace. `Survey.Files` says what the catalogues and
the namespaces are once some declarations were entered: views of the list of
these declarations. The main statements are

* `Survey.Files.entered` and `Progress.files_along`, one step and the whole way;
* `NamespaceMap.resolve_ofList_of_last`, that the last mapping of a source wins;
* `Library.collect_catalogues`, the catalogues, the namespaces and the mapped
  namespaces of a collected library.
-/

import Bindery.Proofs.Context.Shape
import Bindery.Proofs.Naming.LongestMatch

namespace Bindery

/-! ### Filing a declaration -/

/-- The declaration has an explicit binding, and its kind is one of `kinds`. -/
def Decl.boundAs (kinds : List DeclKind) (decl : Decl) : Bool :=
  decl.attributes.explicitBinding.isSome && kinds.contains decl.kind

/-- The namespaces of some declarations that are not empty, each once, in the
order of first mention. -/
def Decl.namespacesOf (decls : List Decl) : List String :=
  ((decls.map Decl.namespacePath).filter (· ≠ "")).eraseDups

theorem Decl.namespacesOf_concat (decls : List Decl) (decl : Decl) :
    namespacesOf (decls ++ [decl]) = namespacesOf decls ++
      if decl.namespacePath = "" ∨ decl.namespacePath ∈ namespacesOf decls then []
      else [decl.namespacePath] := by
  unfold namespacesOf
  rw [List.map_append, List.map_singleton, List.filter_append]
  by_cases global : decl.namespacePath = ""
  · simp [global]
  · rw [List.filter_cons_of_pos (by simpa using global), List.filter_nil, eraseDups_concat]
    simp only [global, false_or, List.mem_eraseDups]

namespace Survey

variable {survey : Survey} {decls : List Decl}

/-- The catalogues and the namespaces are those of the given declarations. -/
structure Files (survey : Survey) (decls : List Decl) : Prop where
  enums : survey.enums = decls.filter (Decl.boundAs [.enumType])
  opaques : survey.opaques = decls.filter (Decl.boundAs [.classType, .interface])
  structs : survey.structs = decls.filter (Decl.boundAs [.structType])
  callbacks : survey.callbacks = decls.filter (·.kind = .delegate)
  namespaces : survey.namespaces = Decl.namespacesOf decls

theorem files_nil : ({} : Survey).Files [] :=
  ⟨rfl, rfl, rfl, rfl, rfl⟩

/-- What is filed does not depend on the contexts. -/
theorem Files.withAssembly (files : survey.Files decls) (assembly : Assembly) :
    { survey with assembly }.Files decls := by
  obtain ⟨enums, opaques, structs, callbacks, namespaces⟩ := files
  exact ⟨enums, opaques, structs, callbacks, namespaces⟩

/-- The namespaces once one more is noted. -/
theorem namespaces_recordNamespace (files : survey.Files decls) (decl : Decl) :
    (survey.recordNamespace decl.namespacePath).namespaces =
      Decl.namespacesOf (decls ++ [decl]) := by
  rw [Decl.namespacesOf_concat, ← files.namespaces, recordNamespace]
  by_cases noted : decl.namespacePath = "" ∨ decl.namespacePath ∈ survey.namespaces
  · rw [if_pos (by simpa using noted), if_pos noted, List.append_nil]
  · rw [if_neg (by simpa using noted), if_neg noted]

/-- Noting a namespace files nothing. -/
theorem recordNamespace_eq (survey : Survey) (path : String) :
    survey.recordNamespace path =
      { survey with namespaces := (survey.recordNamespace path).namespaces } := by
  unfold recordNamespace
  split <;> rfl

theorem Files.filed (files : survey.Files decls) (decl : Decl) :
    ((survey.recordNamespace decl.namespacePath).catalogue decl).Files (decls ++ [decl]) := by
  have namespaces := namespaces_recordNamespace files decl
  rw [recordNamespace_eq, namespaces]
  -- The kind and the binding decide on the catalogue.
  cases kind : decl.kind <;> cases binding : decl.attributes.explicitBinding <;>
    exact ⟨by simp [catalogue, kind, binding, Decl.boundAs, files.enums],
      by simp [catalogue, kind, binding, Decl.boundAs, files.opaques],
      by simp [catalogue, kind, binding, Decl.boundAs, files.structs],
      by simp [catalogue, kind, binding, files.callbacks],
      by simp [catalogue, kind, binding]⟩

/-- **A declaration that is entered is filed behind the others.** -/
theorem Files.entered (files : survey.Files decls) (rule : NamespaceRule) (decl : Decl)
    (parent : Option ContextId) : (survey.entered rule decl parent).Files (decls ++ [decl]) := by
  have noted : (survey.withType rule decl parent).Files (decls ++ [decl]) :=
    (files.withAssembly _).filed decl
  unfold Survey.entered
  cases decl.attributes.moduleName with
  | none => exact noted
  | some name => exact noted.withAssembly _

end Survey

/-- A survey on its way has filed the declarations of the stops that were
made. -/
theorem Progress.files_along {progress : Progress} {decls : List Decl} (rule : NamespaceRule)
    (files : progress.survey.Files decls) (stops : List Stop) :
    (progress.along rule stops).survey.Files (decls ++ stops.map Stop.decl) := by
  induction stops generalizing progress decls with
  | nil =>
    rw [List.map_nil, List.append_nil]
    exact files
  | cons stop rest ih =>
    have next : (progress.advance rule stop).survey.Files (decls ++ [stop.decl]) :=
      files.entered rule stop.decl _
    have later := ih next
    rwa [List.append_assoc, List.singleton_append, ← List.map_cons] at later

/-- The survey of a library has filed its surviving declarations. -/
theorem Library.files (library : Library) (options : Options) :
    (library.overview options).toSurvey.Files library.survivors := by
  rw [← library.map_decl_outline]
  have start : ({} : Progress).survey.Files [] := Survey.files_nil
  exact Progress.files_along options.rule start library.outline

/-! ### No declaration is filed twice -/

theorem Survey.Files.pairwise_disjoint {survey : Survey} {decls : List Decl}
    (files : survey.Files decls) :
    [survey.enums, survey.opaques, survey.structs, survey.callbacks].Pairwise List.Disjoint := by
  obtain ⟨enums, opaques, structs, callbacks, -⟩ := files
  -- Conditions that exclude each other select different declarations.
  have apart : ∀ {p q : Decl → Bool}, (∀ decl, p decl = true → q decl = false) →
      (decls.filter p).Disjoint (decls.filter q) := by
    intro p q excludes decl first second
    have other := (List.mem_filter.mp second).2
    rw [excludes decl (List.mem_filter.mp first).2] at other
    cases other
  simp only [enums, opaques, structs, callbacks, List.pairwise_cons, List.mem_cons,
    List.not_mem_nil, or_false, forall_eq_or_imp, forall_eq, false_imp_iff, implies_true,
    List.Pairwise.nil, and_true]
  refine ⟨⟨apart ?_, apart ?_, apart ?_⟩, ⟨apart ?_, apart ?_⟩, apart ?_⟩ <;>
  · intro decl
    simp only [Decl.boundAs]
    cases decl.kind <;> simp

/-! ### The last mapping of a source -/

/-- **Of the mappings with the same source the last one counts.** -/
theorem NamespaceMap.resolve_ofList_of_last {earlier later : List (String × String)}
    {mapping : String × String} (last : ∀ other ∈ later, other.1 ≠ mapping.1) :
    (ofList (earlier ++ mapping :: later)).resolve mapping.1 = (some mapping.2, none) := by
  let path := Text.segments '.' mapping.1
  have different : ∀ other ∈ later, Text.segments '.' other.1 ≠ path := by
    intro other mem same
    apply last other mem
    rw [← Text.joinWith_segments '.' other.1, same, Text.joinWith_segments]
  have pushed : (ofList (earlier ++ mapping :: later)).targetAt? path = some mapping.2 := by
    have none' : later.filter (fun other => Text.segments '.' other.1 = path) = [] :=
      List.filter_eq_nil_iff.mpr fun other mem => by simpa using different other mem
    rw [targetAt?_ofList, List.filter_append, List.filter_cons_of_pos (by simp [path]), none',
      List.getLast?_concat]
    rfl
  obtain ⟨reached, found, target⟩ := Option.bind_eq_some_iff.mp pushed
  obtain ⟨matched, reached', within, descends, here, greatest⟩ :=
    (ofList (earlier ++ mapping :: later)).exists_descend path
  have whole : matched = path.length := by
    refine Nat.le_antisymm within (greatest _ (Nat.le_refl _) ?_)
    rw [List.take_length, found]
    rfl
  rw [whole, List.take_length, found, Option.some.injEq] at here
  have nonempty : matched ≠ 0 := by
    rw [whole]
    exact Nat.ne_of_gt (List.length_pos_iff.mpr (Text.segments_ne_nil '.' mapping.1))
  rw [resolve_of_descend descends within, if_neg nonempty, ← here, target]
  exact congrArg (Prod.mk _) (if_pos whole)

/-! ### The collection of a library -/

/-- **The catalogues and the namespaces of a library.** The enums, the opaque
types and the structs are the surviving declarations with an explicit binding
that are enums, classes or interfaces, and structs; the callbacks are all
surviving delegates; each of them in the order of discovery, and no declaration
is in two catalogues. The namespaces are those of the surviving declarations that
are not empty, in the order of first mention. The context of a surviving
declaration has the namespace that its own is mapped to, by the mappings pushed
in order, of which the last one counts for each source. -/
theorem Library.collect_catalogues {γ : Type} (library : Library) (target : Target γ)
    (options : Options) :
    ∃ collection, library.collect target options = .ok collection ∧
      let aggregate := collection.aggregate
      let forest := aggregate.forest
      let bound (kinds : List DeclKind) := library.survivors.filter fun decl =>
        decl.attributes.explicitBinding.isSome && kinds.contains decl.kind
      aggregate.enums = bound [.enumType] ∧
      aggregate.opaques = bound [.classType, .interface] ∧
      aggregate.structs = bound [.structType] ∧
      aggregate.callbacks = library.survivors.filter (·.kind = .delegate) ∧
      [aggregate.enums, aggregate.opaques, aggregate.structs,
        aggregate.callbacks].Pairwise List.Disjoint ∧
      aggregate.namespaces =
        ((library.survivors.map Decl.namespacePath).filter (· ≠ "")).eraseDups ∧
      let mappings := options.mappings.foldl (fun map mapping => map.push mapping.1 mapping.2)
        NamespaceMap.empty
      (∀ before decl after, library.survivors = before ++ decl :: after →
        forest.kind? (contextCount before) =
          some (.type decl (mappings.mapped? decl.namespacePath options.normalization))) ∧
      (∀ id decl mapped, forest.kind? id = some (.type decl mapped) →
        ∃ before after, library.survivors = before ++ decl :: after ∧ id = contextCount before) ∧
      ∀ earlier mapping later, options.mappings = earlier ++ mapping :: later →
        (∀ other ∈ later, other.1 ≠ mapping.1) →
          mappings.resolve mapping.1 = (some mapping.2, none) := by
  have records := library.records options.rule
  have numbered := library.numbered options.rule
  have files := library.files options
  refine ⟨_, library.collect_eq target options, files.enums, files.opaques, files.structs,
    files.callbacks, files.pairwise_disjoint, files.namespaces, ?_, ?_, ?_⟩
  · intro before decl after split
    obtain ⟨first, stop, rest, outline, rfl, rfl⟩ := Library.exists_stop split
    exact numbered.kind?_at records outline
  · intro id decl mapped kind
    obtain ⟨first, stop, rest, outline, rfl, number⟩ := numbered.exists_of_kind? records kind
    refine ⟨first.map Stop.decl, rest.map Stop.decl, ?_, number⟩
    rw [← library.map_decl_outline, outline, List.map_append, List.map_cons]
  · intro earlier mapping later split last
    rw [split]
    exact NamespaceMap.resolve_ofList_of_last last

end Bindery
