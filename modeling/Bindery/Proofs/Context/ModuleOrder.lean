/-
The modules in the order of the forest.

The modules of a library are listed twice: in the order in which they were
registered, and on the way through the forest. The two agree. A context of a
module is a root, where it was put when the module was registered, so that the
way through the forest meets the modules as the roots list them. The main
statements are

* `ContextForest.Walked.filterMap_moduleAt?`, that a walk meets no module but those
  that it starts from, where none is below another context;
* `Progress.registers_along`, that a survey registers every module that has a
  context;
* `Library.modules_preOrder`, the modules of a library in the order of its forest.
-/

import Bindery.Proofs.Context.Numbering

namespace Bindery

/-! ### Modules on a walk -/

namespace ContextForest

variable {forest : ContextForest} {id : ContextId} {name : String}

/-- The name of the module that a context stands for. -/
def moduleAt? (forest : ContextForest) (id : ContextId) : Option String :=
  match forest.kind? id with
  | some (.module name) => some name
  | _ => none

theorem moduleAt?_eq_some_iff :
    forest.moduleAt? id = some name ↔ forest.kind? id = some (.module name) := by
  unfold moduleAt?
  split
  · next other kind => simp [kind]
  · next other => simpa using other name

/-- Where no module is below another context, a walk meets the modules that it
starts from and no others. -/
theorem Walked.filterMap_moduleAt? {stack order : List ContextId}
    (onTop : ∀ {id child}, child ∈ forest.children id → forest.moduleAt? child = none)
    (walked : forest.Walked stack order) :
    order.filterMap forest.moduleAt? = stack.filterMap forest.moduleAt? := by
  induction walked with
  | done => rfl
  | @visit id context stack order found _ ih =>
    have below : context.children.filterMap forest.moduleAt? = [] := by
      rw [List.filterMap_eq_nil_iff, ← children_of_get? found]
      exact fun child mem => onTop mem
    rw [List.filterMap_append, below, List.nil_append] at ih
    rw [List.filterMap_cons, List.filterMap_cons, ih]

end ContextForest

/-! ### Registered modules -/

namespace Assembly

variable {assembly : Assembly}

/-- Every module that has a context is registered. -/
def Registers (assembly : Assembly) : Prop :=
  ∀ id name, assembly.forest.kind? id = some (.module name) → (name, id) ∈ assembly.modules

namespace Registers

theorem withPlaced (registers : assembly.Registers) (decl : Decl) (mapped : Option String)
    (parent : Option ContextId) : (assembly.withPlaced (.type decl mapped) parent).Registers := by
  intro id name kind
  rw [kind?_withPlaced] at kind
  rw [modules_withPlaced]
  split at kind
  · cases kind
  · exact registers id name kind

theorem withShare (registers : assembly.Registers) (parent origin : ContextId)
    (methods : List Method) : (assembly.withShare parent origin methods).Registers := by
  intro id name kind
  rw [kind?_withShare] at kind
  split at kind
  · cases kind
  · exact registers id name kind

theorem withModule (registers : assembly.Registers) (name : String) :
    (assembly.withModule name).Registers := by
  intro id other kind
  rw [kind?_withModule] at kind
  split at kind
  · next fresh =>
    cases kind
    rw [fresh]
    exact List.mem_append_right _ List.mem_cons_self
  · exact List.mem_append_left _ (registers id other kind)

theorem withAttached (registers : assembly.Registers) (name : String) (origin : ContextId)
    (methods : List Method) : (assembly.withAttached name origin methods).Registers := by
  unfold Assembly.withAttached
  cases assembly.module? name with
  | some parent => exact registers.withShare parent origin methods
  | none => exact (registers.withModule name).withShare _ origin methods

/-- The roots that are modules are the registered ones, in order. -/
theorem filter_roots (registers : assembly.Registers) (sound : assembly.Sound) :
    assembly.forest.roots.filter (fun id => (assembly.forest.moduleAt? id).isSome) =
      assembly.moduleIds := by
  have known : ∀ id ∈ assembly.moduleIds, (assembly.forest.moduleAt? id).isSome = true := by
    intro id mem
    obtain ⟨⟨name, _⟩, listed, rfl⟩ := List.mem_map.mp mem
    rw [ContextForest.moduleAt?_eq_some_iff.mpr (sound.module_kind? listed)]
    rfl
  have sublist : assembly.moduleIds.Sublist
      (assembly.forest.roots.filter fun id => (assembly.forest.moduleAt? id).isSome) := by
    have filtered := sound.moduleIds_sublist.filter fun id =>
      (assembly.forest.moduleAt? id).isSome
    rwa [List.filter_eq_self.mpr known] at filtered
  have nodup := sound.forest.roots_nodup
  have same : assembly.moduleIds.Perm
      (assembly.forest.roots.filter fun id => (assembly.forest.moduleAt? id).isSome) := by
    refine (List.perm_ext_iff_of_nodup (nodup.sublist sound.moduleIds_sublist)
      (nodup.filter _)).mpr fun id => ⟨fun mem => sublist.subset mem, fun mem => ?_⟩
    obtain ⟨name, named⟩ := Option.isSome_iff_exists.mp (List.mem_filter.mp mem).2
    exact List.mem_map.mpr
      ⟨(name, id), registers _ _ (ContextForest.moduleAt?_eq_some_iff.mp named), rfl⟩
  exact (sublist.eq_of_length same.length_eq).symm

/-- **The way through the forest meets the modules as they were registered.** -/
theorem filterMap_preOrder (registers : assembly.Registers) (sound : assembly.Sound) :
    assembly.forest.preOrder.filterMap assembly.forest.moduleAt? =
      assembly.modules.map Prod.fst := by
  have onTop : ∀ {id child}, child ∈ assembly.forest.children id →
      assembly.forest.moduleAt? child = none := by
    intro id child below
    rw [Option.eq_none_iff_forall_ne_some]
    intro name named
    have listed := registers _ _ (ContextForest.moduleAt?_eq_some_iff.mp named)
    have parentless := sound.forest.root_parentless
      (sound.moduleIds_sublist.subset (List.mem_map_of_mem (f := Prod.snd) listed))
    rw [sound.forest.mem_children_iff.mp below] at parentless
    cases parentless
  calc assembly.forest.preOrder.filterMap assembly.forest.moduleAt?
    _ = assembly.forest.roots.filterMap assembly.forest.moduleAt? :=
      sound.forest.walked_preOrder.filterMap_moduleAt? onTop
    _ = assembly.moduleIds.filterMap assembly.forest.moduleAt? := by
      rw [← registers.filter_roots sound, List.filterMap_filter]
      congr 1
      funext id
      cases assembly.forest.moduleAt? id <;> rfl
    _ = assembly.modules.map Prod.fst := by
      rw [Assembly.moduleIds, List.filterMap_map, ← List.filterMap_eq_map]
      apply List.filterMap_congr
      intro entry mem
      exact ContextForest.moduleAt?_eq_some_iff.mpr (sound.module_kind? mem)

end Registers

end Assembly

namespace Progress

theorem registers_advance {progress : Progress} (registers : progress.survey.assembly.Registers)
    (rule : NamespaceRule) (stop : Stop) :
    (progress.advance rule stop).survey.assembly.Registers := by
  rw [Progress.advance, Survey.assembly_entered]
  have placed := registers.withPlaced stop.decl (rule.mapped? stop.decl)
    (stop.parent.bind (progress.ids[·]?))
  cases stop.decl.attributes.moduleName with
  | none => exact placed
  | some name => exact placed.withAttached name _ _

/-- A survey registers every module that has a context. -/
theorem registers_along {progress : Progress} (registers : progress.survey.assembly.Registers)
    (rule : NamespaceRule) (stops : List Stop) :
    (progress.along rule stops).survey.assembly.Registers := by
  induction stops generalizing progress with
  | nil => exact registers
  | cons stop rest ih => exact ih (registers_advance registers rule stop)

end Progress

/-! ### The modules of a library -/

namespace Library

/-- The modules of a library by the names under which they were registered. -/
theorem map_fst_modules (library : Library) (options : Options) :
    (library.overview options).assembly.modules.map Prod.fst =
      modulesNamed library.survivors := by
  have records := library.records options.rule
  have names := records.holds.names
  rw [Stop.map_name_contributions, records.map_snd_zip] at names
  rw [modulesNamed, ← library.map_decl_outline, List.filterMap_map]
  exact names

/-- **The modules of a library in the order of its forest** are those that its
surviving declarations name, each at its first mention. -/
theorem modules_preOrder (library : Library) (options : Options) :
    let forest := (library.overview options).forest
    forest.preOrder.filterMap forest.moduleAt? = modulesNamed library.survivors := by
  have start : ({} : Progress).survey.assembly.Registers := by
    intro id name kind
    simp [ContextForest.kind?, ContextForest.get?] at kind
  have registers : (library.overview options).assembly.Registers :=
    Progress.registers_along start options.rule library.outline
  rw [← library.map_fst_modules options]
  exact registers.filterMap_preOrder (library.records options.rule).sound.assembly

end Library

end Bindery
