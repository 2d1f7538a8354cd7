/-
The modules of an assembly under any sequence of changes.

Modules are registered by name, either on their own or with the first share that
is attached to them. `Change.moduleName?` is the name that a change wants to be a
module. The forest and the list of modules are changed by different hands, since
contexts can be put anywhere and contexts of modules can be inserted without
being registered. The main statements are

* `Assembly.map_fst_modules_perform`, that the modules are the names that the history
  wanted, each at its first mention;
* `Assembly.exists_attach`, that a share is always attached unless a trace aborts it,
  adds its methods behind those of its module and changes those of no other context;
* `Assembly.perform_modules`, all that holds between the modules and the forest
  after every history, and what the next change of a module does.
-/

import Bindery.Proofs.Context.ModuleSurface
import Mathlib.Data.List.Induction

namespace Bindery

namespace Assembly

variable {assembly : Assembly} {name : String} {id origin : ContextId} {methods : List Method}

/-! ### The names of the modules -/

/-- The name that a change wants to be a module. -/
def Change.moduleName? : Change → Option String
  | .register name => some name
  | .attach _ name _ _ => some name
  | .insert _ | .addRoot _ | .addChild _ _ => none

/-- The names that some changes want to be modules. -/
def Change.moduleNames (changes : List Change) : List String :=
  changes.filterMap Change.moduleName?

theorem Change.moduleNames_concat (changes : List Change) (change : Change) :
    moduleNames (changes ++ [change]) = moduleNames changes ++ change.moduleName?.toList := by
  rw [moduleNames, List.filterMap_append]
  cases named : change.moduleName? with
  | none => rw [List.filterMap_cons_none named]; rfl
  | some name => rw [List.filterMap_cons_some named]; rfl

theorem isSome_module?_iff :
    (assembly.module? name).isSome = true ↔ name ∈ assembly.modules.map Prod.fst := by
  rw [Option.isSome_iff_ne_none, ne_eq, module?_eq_none_iff, Decidable.not_not]

theorem apply_of_ok {change : Change} {after : Assembly}
    (changed : assembly.change change = .ok after) : assembly.apply change = after := by
  rw [apply, changed]

theorem apply_of_error {change : Change} {reason : Conflict}
    (refused : assembly.change change = .error reason) : assembly.apply change = assembly := by
  rw [apply, refused]

/-- A change of the forest alone leaves the modules alone. -/
theorem modules_apply_of_none {change : Change} (unnamed : change.moduleName? = none) :
    (assembly.apply change).modules = assembly.modules := by
  cases change with
  | insert kind => rfl
  | addRoot id =>
    cases added : assembly.forest.addRoot id <;>
      simp [apply, change, Assembly.addRoot, added, bind, Except.bind, pure, Except.pure]
  | addChild parent child =>
    cases added : assembly.forest.addChild parent child <;>
      simp [apply, change, Assembly.addChild, added, bind, Except.bind, pure, Except.pure]
  | register name => cases unnamed
  | attach traced name origin methods => cases unnamed

/-- A module is there after it was registered, be it for the first time or in vain. -/
theorem apply_register (sound : assembly.Sound) (name : String) :
    assembly.apply (.register name) = (assembly.withObtained name).2 := by
  rw [withObtained]
  cases known : assembly.module? name with
  | some id =>
    have refused := register_of_known (by rw [known]; rfl)
    exact apply_of_error (by rw [change, refused]; rfl)
  | none =>
    refine apply_of_ok ?_
    rw [change, register_of_unknown sound known]
    rfl

/-- A change that wants a module obtains it, and leaves the other modules alone. -/
theorem modules_apply_of_some (sound : assembly.Sound) {change : Change}
    (named : change.moduleName? = some name) :
    (assembly.apply change).modules = (assembly.withObtained name).2.modules := by
  cases change with
  | insert kind => cases named
  | addRoot id => cases named
  | addChild parent child => cases named
  | register wanted =>
    cases named
    rw [apply_register sound]
  | attach traced wanted origin methods =>
    cases named
    have traces := attachTraced_eq sound traced name origin methods
    split at traces <;>
    · rw [apply, Assembly.change, traces]
      rfl

/-- **The modules are the names that the history wanted, each at its first
mention.** -/
theorem map_fst_modules_perform (changes : List Change) :
    (({} : Assembly).perform changes).modules.map Prod.fst =
      (Change.moduleNames changes).eraseDups := by
  induction changes using List.reverseRecOn with
  | nil => rfl
  | append_singleton changes change ih =>
    have sound := (sound_empty.perform changes).1
    have last : ({} : Assembly).perform (changes ++ [change]) =
        (({} : Assembly).perform changes).apply change := by
      rw [perform, List.foldl_append]
      rfl
    rw [last, Change.moduleNames_concat]
    cases named : change.moduleName? with
    | none =>
      rw [modules_apply_of_none named, Option.toList_none, List.append_nil]
      exact ih
    | some name =>
      rw [Option.toList_some, eraseDups_concat]
      rw [modules_apply_of_some sound named, withObtained]
      cases known : (({} : Assembly).perform changes).module? name with
      | some id =>
        have mentioned := isSome_module?_iff.mp (by rw [known]; rfl)
        rw [ih, List.mem_eraseDups] at mentioned
        rw [if_pos mentioned, List.append_nil]
        exact ih
      | none =>
        have unmentioned := module?_eq_none_iff.mp known
        rw [ih, List.mem_eraseDups] at unmentioned
        rw [if_neg unmentioned, withModule, List.map_append, ih]
        rfl

/-! ### The methods of the modules -/

/-- A new module has no methods, and the others keep theirs. -/
theorem moduleMethods_withModule (sound : assembly.Sound) (name : String) (id : ContextId) :
    (assembly.withModule name).forest.moduleMethods id = assembly.forest.moduleMethods id := by
  have children : (assembly.withModule name).forest.children id = assembly.forest.children id :=
    ContextForest.children_insert _ _ _
  rw [ContextForest.moduleMethods_eq_flatMap_kind?, ContextForest.moduleMethods_eq_flatMap_kind?,
    children, (grows_withModule sound name).map_kind?_children sound.forest]

/-- A share adds its methods behind those of the context above it, and changes
those of no other. -/
theorem moduleMethods_withShare (sound : assembly.Sound) {parent : ContextId}
    (issued : parent < assembly.forest.size) (origin : ContextId) (methods : List Method)
    (id : ContextId) :
    (assembly.withShare parent origin methods).forest.moduleMethods id =
      assembly.forest.moduleMethods id ++ if parent = id then methods else [] := by
  have children : (assembly.withShare parent origin methods).forest.children id =
      assembly.forest.children id ++ if parent = id then [assembly.forest.size] else [] := by
    have issued' : parent < (assembly.forest.insert (.share origin methods)).2.size := by
      rw [ContextForest.size_insert]
      exact Nat.lt_succ_of_lt issued
    rw [withShare, ContextForest.children_link issued', ContextForest.children_insert]
    split <;> simp
  have new : (assembly.withShare parent origin methods).forest.kind? assembly.forest.size =
      some (.share origin methods) := by
    rw [kind?_withShare, if_pos rfl]
  have old := (grows_withShare sound issued origin methods).map_kind?_children sound.forest id
  rw [ContextForest.moduleMethods_eq_flatMap_kind?, ContextForest.moduleMethods_eq_flatMap_kind?,
    children, List.map_append, old, List.flatMap_append]
  split
  · rw [List.map_singleton, new]
    simp [ContextKind.methods]
  · rfl

/-- Nothing is contributed to a context that was not issued. -/
theorem moduleMethods_of_size_le (beyond : assembly.forest.size ≤ id) :
    assembly.forest.moduleMethods id = [] := by
  rw [ContextForest.moduleMethods, ContextForest.children,
    ContextForest.get?_eq_none_iff.mpr beyond]
  rfl

/-- A module that was obtained is known under its name. -/
theorem module?_withObtained (sound : assembly.Sound) (name : String) :
    (assembly.withObtained name).2.module? name = some (assembly.withObtained name).1 := by
  rw [withObtained]
  cases known : assembly.module? name with
  | some id => exact known
  | none =>
    exact (sound.withModule known).module?_of_mem (List.mem_append_right _ List.mem_cons_self)

/-- Obtaining a module gives no context other methods. -/
theorem moduleMethods_withObtained (sound : assembly.Sound) (name : String) (id : ContextId) :
    (assembly.withObtained name).2.forest.moduleMethods id = assembly.forest.moduleMethods id := by
  rw [withObtained]
  cases assembly.module? name with
  | some id => rfl
  | none => exact moduleMethods_withModule sound name id

/-- The methods that a module has before it is obtained. -/
theorem getD_methodsOf?_eq (assembly : Assembly) (name : String) :
    (assembly.methodsOf? name).getD [] =
      assembly.forest.moduleMethods (assembly.withObtained name).1 := by
  rw [methodsOf?, withObtained]
  cases assembly.module? name with
  | some id => rfl
  | none => exact (moduleMethods_of_size_le (Nat.le_refl _)).symm

/-- **A share that is not traced is always attached, whatever its origin. It comes
below the module of its name, adds its methods behind those of the module, and changes
those of no other context.** A trace changes nothing if there is a context of the
number of the origin when the module is there; it aborts the share otherwise, and the
module is all that is added. -/
theorem exists_attach (sound : assembly.Sound) (name : String) (origin : ContextId)
    (methods : List Method) :
    ∃ child after parent, assembly.attach name origin methods = .ok (child, after) ∧
      (∀ traced, assembly.attachTraced traced name origin methods =
        .ok (if traced = true ∧ (assembly.apply (.register name)).forest.size ≤ origin then
            .aborted (assembly.apply (.register name))
          else .attached child after)) ∧
      after.module? name = some parent ∧
      after.forest.parent? child = some parent ∧
      after.forest.kind? child = some (.share origin methods) ∧
      after.forest.moduleMethods parent = (assembly.methodsOf? name).getD [] ++ methods ∧
      ∀ id < assembly.forest.size, id ≠ parent →
        after.forest.moduleMethods id = assembly.forest.moduleMethods id := by
  obtain ⟨sound', -, issued⟩ := sound.withObtained name
  refine ⟨_, _, _, attach_of_sound sound name origin methods, fun traced => ?_,
    module?_withObtained sound name, ?_, ?_, ?_, ?_⟩
  · rw [apply_register sound]
    exact attachTraced_eq sound traced name origin methods
  · rw [withShare, ContextForest.parent?_link (by simp), if_pos rfl]
  · rw [kind?_withShare, if_pos rfl]
  · rw [moduleMethods_withShare sound' issued, if_pos rfl, moduleMethods_withObtained sound,
      getD_methodsOf?_eq]
  · intro id _ other
    rw [moduleMethods_withShare sound' issued, if_neg (Ne.symm other), List.append_nil,
      moduleMethods_withObtained sound]

/-! ### The modules and the forest -/

/-- **Whatever is done to an assembly, its modules and its forest stay in
step.** The modules are the names that were asked for so far, in the order in
which they were first asked for; their contexts are different roots, in the
order of the roots, none has a parent, and each is the context of a module of
that very name. Where nothing is traced, the next share is attached whatever its
origin, and adds its methods to those of its module and to no others. Where shares are
traced, this holds as well unless there is no context of the number of the origin, not
even that of a module just registered; then the share is aborted, and the module is
there nonetheless. The next registration is refused exactly for a name that was asked
for before, and then nothing changes. -/
theorem perform_modules (changes : List Change) :
    let assembly := ({} : Assembly).perform changes
    let forest := assembly.forest
    let names := Change.moduleNames changes
    assembly.moduleIds.Nodup ∧
    assembly.moduleIds.Sublist forest.roots ∧
    assembly.modules.map Prod.fst = names.eraseDups ∧
    (∀ name, (assembly.module? name).isSome = true ↔ name ∈ names) ∧
    (∀ name other id, assembly.module? name = some id → assembly.module? other = some id →
      name = other) ∧
    (∀ name id, assembly.module? name = some id →
      id ∈ forest.roots ∧ forest.parent? id = none ∧ forest.kind? id = some (.module name)) ∧
    (∀ name origin methods, ∃ child after parent,
      assembly.attach name origin methods = .ok (child, after) ∧
      (∀ traced, assembly.attachTraced traced name origin methods =
        .ok (if traced = true ∧ (assembly.apply (.register name)).forest.size ≤ origin then
            .aborted (assembly.apply (.register name))
          else .attached child after)) ∧
      after.module? name = some parent ∧
      after.forest.parent? child = some parent ∧
      after.forest.kind? child = some (.share origin methods) ∧
      after.forest.moduleMethods parent = (assembly.methodsOf? name).getD [] ++ methods ∧
      ∀ id < forest.size, id ≠ parent →
        after.forest.moduleMethods id = forest.moduleMethods id) ∧
    (∀ name ∈ names, assembly.register name = .error (.duplicateModule name) ∧
      assembly.apply (.register name) = assembly) ∧
    ∀ name ∉ names, ∃ id after, assembly.register name = .ok (id, after) ∧
      after.module? name = some id := by
  intro assembly forest names
  have sound : assembly.Sound := (sound_empty.perform changes).1
  have inOrder : assembly.modules.map Prod.fst = names.eraseDups :=
    map_fst_modules_perform changes
  have known_iff : ∀ name, (assembly.module? name).isSome = true ↔ name ∈ names := by
    intro name
    rw [isSome_module?_iff, inOrder, List.mem_eraseDups]
  have kind : ∀ name id, assembly.module? name = some id →
      forest.kind? id = some (.module name) :=
    fun name id found => sound.module_kind? (module?_mem found)
  refine ⟨sound.forest.roots_nodup.sublist sound.moduleIds_sublist, sound.moduleIds_sublist,
    inOrder, known_iff, ?_, ?_, exists_attach sound, ?_, ?_⟩
  · intro name other id found found'
    have same := (kind name id found).symm.trans (kind other id found')
    rw [Option.some.injEq, ContextKind.module.injEq] at same
    exact same
  · intro name id found
    have root := sound.module_root (module?_mem found)
    exact ⟨root, sound.forest.root_parentless root, kind name id found⟩
  · intro name asked
    have refused := register_of_known ((known_iff name).mpr asked)
    have refused' : assembly.change (.register name) = .error (.duplicateModule name) := by
      rw [change, refused]
      rfl
    exact ⟨refused, apply_of_error refused'⟩
  · intro name fresh
    have unknown : assembly.module? name = none :=
      Option.not_isSome_iff_eq_none.mp (mt (known_iff name).mp fresh)
    exact ⟨_, _, register_of_unknown sound unknown, (sound.withModule unknown).module?_of_mem
      (List.mem_append_right _ List.mem_cons_self)⟩

end Assembly

end Bindery
