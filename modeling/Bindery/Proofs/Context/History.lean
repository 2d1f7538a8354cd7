/-
Assemblies under any sequence of changes.

A `Change` is one call on an assembly, with any numbers and names. A change
that is refused leaves the assembly as it was; none is refused half way, since
`register` refuses a known name before anything else (`register_of_known`) and
`attach` is never refused (`attach_of_sound`). With a trace it can be aborted, and
leaves its module behind (`attachTraced_eq`). The main statements are

* `Assembly.change_cases`, all that a change can do;
* `Assembly.Sound.change`, that a change keeps an assembly sound, which means
  that its forest is a forest and its modules are roots of it under different
  names, and only adds to the forest (`ContextForest.Grows`);
* `Assembly.perform_isForest`, both for every history of changes.
-/

import Bindery.Context.Assembly
import Bindery.Proofs.Context.Traversal
import Mathlib.Data.List.Nodup

namespace Bindery

/-! ### Growth -/

/-- A forest only grows: the roots and the children of every context at the end
of their lists, parents where there were none, and never another kind. -/
structure ContextForest.Grows (before after : ContextForest) : Prop where
  roots : before.roots <+: after.roots
  contexts : ∀ {id context}, before.get? id = some context → ∃ later, after.get? id = some later ∧
    later.kind = context.kind ∧ context.children <+: later.children ∧
    ∀ parent, context.parent = some parent → later.parent = some parent

namespace ContextForest

variable {forest : ContextForest} {id parent child : ContextId}

namespace Grows

theorem refl (forest : ContextForest) : forest.Grows forest where
  roots := List.prefix_refl _
  contexts found := ⟨_, found, rfl, List.prefix_refl _, fun _ set => set⟩

theorem trans {first second third : ContextForest} (early : first.Grows second)
    (late : second.Grows third) : first.Grows third where
  roots := early.roots.trans late.roots
  contexts found := by
    obtain ⟨middle, found', kind', children', parent'⟩ := early.contexts found
    obtain ⟨last, found'', kind'', children'', parent''⟩ := late.contexts found'
    exact ⟨last, found'', kind''.trans kind', children'.trans children'',
      fun parent set => parent'' parent (parent' parent set)⟩

/-- What was issued stays issued. -/
theorem lt_size {before after : ContextForest} (grows : before.Grows after)
    (issued : id < before.size) : id < after.size := by
  obtain ⟨context, found⟩ := exists_get?_of_lt issued
  obtain ⟨later, found', -⟩ := grows.contexts found
  exact lt_size_of_get? found'

theorem insert (forest : ContextForest) (kind : ContextKind) :
    forest.Grows (forest.insert kind).2 where
  roots := List.prefix_refl _
  contexts {id context} found := by
    refine ⟨context, ?_, rfl, List.prefix_refl _, fun _ set => set⟩
    rw [get?_insert_of_lt (lt_size_of_get? found), found]

theorem addRoot {after : ContextForest} (added : forest.addRoot id = .ok after) :
    forest.Grows after := by
  obtain ⟨-, -, -, rfl⟩ := addRoot_eq_ok_iff.mp added
  exact ⟨List.prefix_append _ _,
    fun found => ⟨_, found, rfl, List.prefix_refl _, fun _ set => set⟩⟩

/-- The child had no parent, so no parent is replaced. -/
theorem addChild {after : ContextForest} (added : forest.addChild parent child = .ok after) :
    forest.Grows after := by
  obtain ⟨-, -, -, -, parentless, -, rfl⟩ := addChild_eq_ok_iff.mp added
  refine ⟨List.prefix_refl _, fun {id context} found =>
    ⟨_, get?_link_of_get? found parent child, rfl, ?_, fun above set => ?_⟩⟩
  · show context.children <+: if parent = id then context.children ++ [child] else context.children
    split
    · exact List.prefix_append _ _
    · exact List.prefix_refl _
  · have other : child ≠ id := by
      rintro rfl
      rw [parent?_of_get? found, set] at parentless
      cases parentless
    show (if child = id then some parent else context.parent) = some above
    rw [if_neg other, set]

end Grows

end ContextForest

namespace Assembly

variable {assembly : Assembly} {name : String} {id origin : ContextId} {methods : List Method}

/-! ### Modules and their shares -/

/-- The forest is sound, and the modules are roots of it under different
names. -/
structure Sound (assembly : Assembly) : Prop where
  forest : assembly.forest.Sound
  names_nodup : (assembly.modules.map Prod.fst).Nodup
  moduleIds_sublist : assembly.moduleIds.Sublist assembly.forest.roots
  module_kind : ∀ {name id}, (name, id) ∈ assembly.modules →
    ∃ context, assembly.forest.get? id = some context ∧ context.kind = .module name

/-- The assembly with one more module, which is a root. -/
def withModule (assembly : Assembly) (name : String) : Assembly :=
  { forest :=
      { (assembly.forest.insert (.module name)).2 with
        roots := assembly.forest.roots ++ [assembly.forest.size] }
    modules := assembly.modules ++ [(name, assembly.forest.size)] }

/-- The assembly with one more share, which is below the module at `parent`. -/
def withShare (assembly : Assembly) (parent origin : ContextId) (methods : List Method) :
    Assembly :=
  { assembly with
    forest := (assembly.forest.insert (.share origin methods)).2.link parent assembly.forest.size }

theorem module?_mem (found : assembly.module? name = some id) : (name, id) ∈ assembly.modules := by
  unfold module? at found
  rw [List.lookup_eq_some_iff] at found
  obtain ⟨front, back, split, -⟩ := found
  rw [split]
  exact List.mem_append_right _ List.mem_cons_self

/-- A name is unknown exactly when no module has it. -/
theorem module?_eq_none_iff : assembly.module? name = none ↔
    name ∉ assembly.modules.map Prod.fst := by
  unfold module?
  rw [List.lookup_eq_none_iff]
  constructor
  · intro differs mem
    obtain ⟨entry, mem, same⟩ := List.mem_map.mp mem
    exact absurd (differs entry mem) (by simp [same])
  · intro absent entry mem
    exact bne_iff_ne.mpr fun same => absent (List.mem_map.mpr ⟨entry, mem, same.symm⟩)

namespace Sound

theorem module_root (sound : assembly.Sound) (mem : (name, id) ∈ assembly.modules) :
    id ∈ assembly.forest.roots :=
  sound.moduleIds_sublist.subset (List.mem_map.mpr ⟨_, mem, rfl⟩)

theorem module_issued (sound : assembly.Sound) (found : assembly.module? name = some id) :
    id < assembly.forest.size :=
  sound.forest.roots_issued (sound.module_root (module?_mem found))

end Sound

/-- A known name is refused before anything is changed. -/
theorem register_of_known (known : (assembly.module? name).isSome = true) :
    assembly.register name = .error (.duplicateModule name) := by
  unfold register
  rw [if_pos known]
  rfl

/-- An unknown name becomes a module. -/
theorem register_of_unknown (sound : assembly.Sound) (unknown : assembly.module? name = none) :
    assembly.register name = .ok (assembly.forest.size, assembly.withModule name) := by
  have rooted := ContextForest.addRoot_insert sound.forest (.module name)
  simp only [register, unknown, Option.isSome_none, insert, addRoot, ContextForest.fst_insert,
    rooted]
  rfl

/-! ### Sound assemblies -/

/-- The assembly without contexts is sound. -/
theorem sound_empty : ({} : Assembly).Sound where
  forest := ContextForest.sound_empty
  names_nodup := List.nodup_nil
  moduleIds_sublist := List.Sublist.refl _
  module_kind mem := absurd mem List.not_mem_nil

namespace Sound

/-- A module keeps its kind while the forest grows. -/
theorem module_kind_of_grows (sound : assembly.Sound) {after : ContextForest}
    (grows : assembly.forest.Grows after) (mem : (name, id) ∈ assembly.modules) :
    ∃ context, after.get? id = some context ∧ context.kind = .module name := by
  obtain ⟨context, found, kind⟩ := sound.module_kind mem
  obtain ⟨later, found', kind', -, -⟩ := grows.contexts found
  exact ⟨later, found', kind'.trans kind⟩

/-- A change of the forest alone that keeps it sound keeps the assembly sound. -/
theorem withForest (sound : assembly.Sound) {after : ContextForest} (forest : after.Sound)
    (grows : assembly.forest.Grows after) : { assembly with forest := after }.Sound where
  forest := forest
  names_nodup := sound.names_nodup
  moduleIds_sublist := sound.moduleIds_sublist.trans grows.roots.sublist
  module_kind mem := sound.module_kind_of_grows grows mem

theorem withModule (sound : assembly.Sound) (unknown : assembly.module? name = none) :
    (assembly.withModule name).Sound where
  forest := (sound.forest.insert _).addRoot (ContextForest.addRoot_insert sound.forest _)
  names_nodup := by
    rw [Assembly.withModule, List.map_append]
    refine List.nodup_append.mpr ⟨sound.names_nodup, by simp, fun old mem new added same => ?_⟩
    have fresh : new = name := List.mem_singleton.mp added
    exact module?_eq_none_iff.mp unknown (fresh ▸ same ▸ mem)
  moduleIds_sublist := by
    rw [moduleIds, Assembly.withModule, List.map_append]
    exact sound.moduleIds_sublist.append (List.Sublist.refl _)
  module_kind {other id} mem := by
    rcases List.mem_append.mp mem with old | new
    · exact sound.module_kind_of_grows ((ContextForest.Grows.insert _ _).trans
        (ContextForest.Grows.addRoot (ContextForest.addRoot_insert sound.forest _))) old
    · rw [List.mem_singleton, Prod.mk.injEq] at new
      obtain ⟨rfl, rfl⟩ := new
      exact ⟨_, (ContextForest.get?_insert _ _ _).trans (if_pos rfl), rfl⟩

theorem withShare (sound : assembly.Sound) (issued : id < assembly.forest.size)
    (origin : ContextId) (methods : List Method) :
    (assembly.withShare id origin methods).Sound := by
  have linked := ContextForest.addChild_insert sound.forest (.share origin methods) issued
  exact sound.withForest ((sound.forest.insert _).addChild linked)
    ((ContextForest.Grows.insert _ _).trans (ContextForest.Grows.addChild linked))

end Sound

@[simp] theorem size_withModule (assembly : Assembly) (name : String) :
    (assembly.withModule name).forest.size = assembly.forest.size + 1 :=
  ContextForest.size_insert _ _

/-- A share below an issued context makes a forest grow. -/
theorem grows_withShare (sound : assembly.Sound) (issued : id < assembly.forest.size)
    (origin : ContextId) (methods : List Method) :
    assembly.forest.Grows (assembly.withShare id origin methods).forest :=
  (ContextForest.Grows.insert _ _).trans (ContextForest.Grows.addChild
    (ContextForest.addChild_insert sound.forest (.share origin methods) issued))

/-- A new module makes a forest grow. -/
theorem grows_withModule (sound : assembly.Sound) (name : String) :
    assembly.forest.Grows (assembly.withModule name).forest :=
  (ContextForest.Grows.insert _ _).trans
    (ContextForest.Grows.addRoot (ContextForest.addRoot_insert sound.forest _))

/-! ### Obtaining modules and adding shares -/

/-- The number of a module and the assembly in which it is registered. -/
def withObtained (assembly : Assembly) (name : String) : ContextId × Assembly :=
  match assembly.module? name with
  | some id => (id, assembly)
  | none => (assembly.forest.size, assembly.withModule name)

theorem obtain_eq (sound : assembly.Sound) (name : String) :
    assembly.obtain name = .ok (assembly.withObtained name) := by
  rw [obtain, withObtained]
  cases known : assembly.module? name with
  | some id => rfl
  | none => exact register_of_unknown sound known

/-- A module that was obtained is there, and obtaining it only adds to the forest. -/
theorem Sound.withObtained (sound : assembly.Sound) (name : String) :
    (assembly.withObtained name).2.Sound ∧
      assembly.forest.Grows (assembly.withObtained name).2.forest ∧
      (assembly.withObtained name).1 < (assembly.withObtained name).2.forest.size := by
  rw [Assembly.withObtained]
  cases known : assembly.module? name with
  | some id => exact ⟨sound, .refl _, sound.module_issued known⟩
  | none => exact ⟨sound.withModule known, grows_withModule sound name, by simp⟩

/-- A share below an issued context is never refused. -/
theorem addShare_eq (sound : assembly.Sound) (issued : id < assembly.forest.size)
    (origin : ContextId) (methods : List Method) :
    assembly.addShare id origin methods =
      .ok (assembly.forest.size, assembly.withShare id origin methods) := by
  have linked := ContextForest.addChild_insert sound.forest (.share origin methods) issued
  simp only [addShare, bind, Except.bind, insert, addChild, ContextForest.fst_insert, linked]
  rfl

/-- A share below the module that was obtained for it. -/
theorem Sound.withObtainedShare (sound : assembly.Sound) (name : String) (origin : ContextId)
    (methods : List Method) :
    let found := assembly.withObtained name
    (found.2.withShare found.1 origin methods).Sound ∧
      assembly.forest.Grows (found.2.withShare found.1 origin methods).forest := by
  obtain ⟨obtained, grows, issued⟩ := sound.withObtained name
  exact ⟨obtained.withShare issued origin methods,
    grows.trans (grows_withShare obtained issued origin methods)⟩

/-- A share that is not traced is never refused: it is put below the module that was
obtained for it. -/
theorem attach_of_sound (sound : assembly.Sound) (name : String) (origin : ContextId)
    (methods : List Method) :
    assembly.attach name origin methods =
      .ok ((assembly.withObtained name).2.forest.size,
        (assembly.withObtained name).2.withShare (assembly.withObtained name).1 origin
          methods) := by
  obtain ⟨sound', -, issued⟩ := sound.withObtained name
  rw [attach, obtain_eq sound]
  exact addShare_eq sound' issued origin methods

/-- A share is aborted if and only if it is traced and there is no context of the
number of its origin, and then its module is there. -/
theorem attachTraced_eq (sound : assembly.Sound) (traced : Bool) (name : String)
    (origin : ContextId) (methods : List Method) :
    assembly.attachTraced traced name origin methods =
      .ok (if traced = true ∧ (assembly.withObtained name).2.forest.size ≤ origin then
          .aborted (assembly.withObtained name).2
        else .attached (assembly.withObtained name).2.forest.size
          ((assembly.withObtained name).2.withShare (assembly.withObtained name).1 origin
            methods)) := by
  obtain ⟨sound', -, issued⟩ := sound.withObtained name
  have nameless : ((assembly.withObtained name).2.forest.name? origin).isNone = true ↔
      (assembly.withObtained name).2.forest.size ≤ origin := by
    simp [ContextForest.name?]
  simp only [attachTraced, obtain_eq sound, bind, Except.bind, addShare_eq sound' issued,
    Bool.and_eq_true, nameless]
  split <;> rfl

/-- A trace changes nothing where there is a context of the number of the origin. -/
theorem attachTraced_of_issued (sound : assembly.Sound) (issued : origin < assembly.forest.size)
    (traced : Bool) (name : String) (methods : List Method) :
    assembly.attachTraced traced name origin methods =
      (assembly.attach name origin methods).map fun added => .attached added.1 added.2 := by
  have there := (sound.withObtained name).2.1.lt_size issued
  rw [attachTraced_eq sound, if_neg (fun beyond => absurd there (Nat.not_lt.mpr beyond.2)),
    attach_of_sound sound]
  rfl

/-! ### Histories -/

/-- A call that changes an assembly, if it is not refused. Shares are attached with a
trace or without, as it is told at each call. -/
inductive Change where
  | insert (kind : ContextKind)
  | addRoot (id : ContextId)
  | addChild (parent child : ContextId)
  | register (name : String)
  | attach (traced : Bool) (name : String) (origin : ContextId) (methods : List Method)

/-- The assembly after a change, or why the change is refused. A change that is
aborted leaves what was done before. -/
def change (assembly : Assembly) : Change → Except Conflict Assembly
  | .insert kind => .ok (assembly.insert kind).2
  | .addRoot id => assembly.addRoot id
  | .addChild parent child => assembly.addChild parent child
  | .register name => (assembly.register name).map Prod.snd
  | .attach traced name origin methods =>
    (assembly.attachTraced traced name origin methods).map Attachment.assembly

/-- The assembly after a change, which is as before when the change is
refused. -/
def apply (assembly : Assembly) (change : Change) : Assembly :=
  match assembly.change change with
  | .ok after => after
  | .error _ => assembly

/-- The assembly after a history of changes. -/
def perform (assembly : Assembly) (changes : List Change) : Assembly :=
  changes.foldl apply assembly

/-- What a change that is not refused can do. -/
theorem change_cases (sound : assembly.Sound) {change : Change} {after : Assembly}
    (changed : assembly.change change = .ok after) :
    (∃ kind, after = { assembly with forest := (assembly.forest.insert kind).2 }) ∨
    (∃ id forest, assembly.forest.addRoot id = .ok forest ∧ after = { assembly with forest }) ∨
    (∃ parent child forest, assembly.forest.addChild parent child = .ok forest ∧
      after = { assembly with forest }) ∨
    (∃ name, after = (assembly.withObtained name).2) ∨
    ∃ name origin methods, after =
      (assembly.withObtained name).2.withShare (assembly.withObtained name).1 origin methods := by
  cases change with
  | insert kind => exact .inl ⟨kind, (Except.ok.inj changed).symm⟩
  | addRoot id =>
    refine .inr (.inl ⟨id, ?_⟩)
    cases added : assembly.forest.addRoot id with
    | error reason => simp [Assembly.change, Assembly.addRoot, added, bind, Except.bind] at changed
    | ok forest =>
      refine ⟨forest, rfl, ?_⟩
      simpa [Assembly.change, Assembly.addRoot, added, bind, Except.bind, pure, Except.pure,
        eq_comm] using changed
  | addChild parent child =>
    refine .inr (.inr (.inl ⟨parent, child, ?_⟩))
    cases added : assembly.forest.addChild parent child with
    | error reason => simp [Assembly.change, Assembly.addChild, added, bind, Except.bind] at changed
    | ok forest =>
      refine ⟨forest, rfl, ?_⟩
      simpa [Assembly.change, Assembly.addChild, added, bind, Except.bind, pure, Except.pure,
        eq_comm] using changed
  | register name =>
    refine .inr (.inr (.inr (.inl ⟨name, ?_⟩)))
    cases known : assembly.module? name with
    | some id =>
      rw [Assembly.change, register_of_known (by rw [known]; rfl)] at changed
      cases changed
    | none =>
      rw [Assembly.change, register_of_unknown sound known] at changed
      rw [withObtained, known]
      exact (Except.ok.inj changed).symm
  | attach traced name origin methods =>
    rw [Assembly.change, attachTraced_eq sound] at changed
    split at changed
    · exact .inr (.inr (.inr (.inl ⟨name, (Except.ok.inj changed).symm⟩)))
    · exact .inr (.inr (.inr (.inr ⟨name, origin, methods, (Except.ok.inj changed).symm⟩)))

/-- A change keeps an assembly sound and makes its forest grow. -/
theorem Sound.change (sound : assembly.Sound) {change : Change} {after : Assembly}
    (changed : assembly.change change = .ok after) :
    after.Sound ∧ assembly.forest.Grows after.forest := by
  rcases change_cases sound changed with ⟨kind, rfl⟩ | ⟨id, forest, added, rfl⟩ |
    ⟨parent, child, forest, added, rfl⟩ | ⟨name, rfl⟩ | ⟨name, origin, methods, rfl⟩
  · have grows := ContextForest.Grows.insert assembly.forest kind
    exact ⟨sound.withForest (sound.forest.insert kind) grows, grows⟩
  · have grows := ContextForest.Grows.addRoot added
    exact ⟨sound.withForest (sound.forest.addRoot added) grows, grows⟩
  · have grows := ContextForest.Grows.addChild added
    exact ⟨sound.withForest (sound.forest.addChild added) grows, grows⟩
  · obtain ⟨obtained, grows, -⟩ := sound.withObtained name
    exact ⟨obtained, grows⟩
  · exact sound.withObtainedShare name origin methods

theorem Sound.apply (sound : assembly.Sound) (change : Change) :
    (assembly.apply change).Sound ∧ assembly.forest.Grows (assembly.apply change).forest := by
  unfold Assembly.apply
  split
  · rename_i after changed
    exact sound.change changed
  · exact ⟨sound, ContextForest.Grows.refl _⟩

/-- A history of changes keeps an assembly sound and makes its forest grow. -/
theorem Sound.perform (sound : assembly.Sound) (changes : List Change) :
    (assembly.perform changes).Sound ∧ assembly.forest.Grows (assembly.perform changes).forest := by
  induction changes generalizing assembly with
  | nil => exact ⟨sound, ContextForest.Grows.refl _⟩
  | cons change rest ih =>
    obtain ⟨sound', grows⟩ := sound.apply change
    obtain ⟨sound'', grows'⟩ := ih sound'
    exact ⟨sound'', grows.trans grows'⟩

/-- **Whatever is done to it, an assembly holds a forest.** After every history
of changes, all numbers in the roots, the parents and the lists of children are
issued; a context has a parent exactly when it is among its children, and then
it is there once; no root is there twice or has a parent; and no context is
above itself. So the ancestors of a context, its name and the order of all
contexts are found in finitely many steps that read issued contexts only. What
comes later only adds to the forest. -/
theorem perform_isForest (changes : List Change) :
    let assembly := ({} : Assembly).perform changes
    let forest := assembly.forest
    (∀ id ∈ forest.roots, id < forest.size) ∧
    (∀ id parent, forest.parent? id = some parent → id < forest.size ∧ parent < forest.size) ∧
    (∀ id, ∀ child ∈ forest.children id, child < forest.size) ∧
    (∀ child parent, forest.parent? child = some parent ↔ child ∈ forest.children parent) ∧
    (∀ child parent, forest.parent? child = some parent →
      (forest.children parent).count child = 1) ∧
    forest.roots.Nodup ∧
    (∀ id ∈ forest.roots, forest.parent? id = none) ∧
    (∀ id, ¬ Relation.TransGen forest.Below id id) ∧
    (∀ id < forest.size, forest.Lineage (some id) (id :: forest.ancestors id) ∧
      (forest.ancestors id).Nodup ∧ id ∉ forest.ancestors id ∧
      forest.Named id (forest.name id)) ∧
    forest.Walked forest.roots forest.preOrder ∧
    ∀ further, forest.Grows (assembly.perform further).forest := by
  intro assembly forest
  have sound : assembly.Sound := (sound_empty.perform changes).1
  have isForest : forest.Sound := sound.forest
  refine ⟨fun _ => isForest.roots_issued, ?_, fun _ _ => isForest.child_issued,
    fun _ _ => isForest.mem_children_iff.symm, ?_, isForest.roots_nodup,
    fun _ => isForest.root_parentless, isForest.acyclic, ?_, isForest.walked_preOrder, ?_⟩
  · intro id parent above
    exact ⟨ContextForest.lt_size_of_parent? above, isForest.parent_issued above⟩
  · intro child parent above
    exact List.count_eq_one_of_mem (isForest.children_nodup parent)
      (isForest.mem_children_iff.mpr above)
  · intro id issued
    exact ⟨isForest.lineage_ancestors issued, isForest.ancestors_nodup issued,
      isForest.not_mem_ancestors issued, isForest.named_name issued⟩
  · intro further
    exact (sound.perform further).2

end Assembly

end Bindery
