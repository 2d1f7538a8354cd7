/-
The numbers of the contexts of a library.

Contexts are numbered in the order in which they are made: at every stop one for
the declaration, one for the module that it is the first to name, if it is, and
one for its share of the module that it names, if it names one. So the number of
every context is known beforehand. `contextCount` counts the contexts that are
made for a list of declarations, and `Stop.gather` collects along an outline what
depends on the declarations before a stop. The main statements are

* `Progress.Records.size_advance`, `Progress.Records.roots_advance`,
  `Progress.Records.modules_advance` and `Progress.Records.children_advance`, all
  that one more stop adds to the forest;
* `Library.numbered`, the numbers of all contexts in the survey of a library:
  those of the types, the roots, the modules and the children of the types.
-/

import Bindery.Proofs.Artifact.Manifest
import Bindery.Proofs.Context.ModuleSurface

namespace Bindery

/-! ### Counting contexts -/

/-- The modules that declarations name, each at its first mention. -/
def modulesNamed (decls : List Decl) : List String :=
  (decls.filterMap (·.attributes.moduleName)).eraseDups

/-- The modules that declarations name and none before them does, each at its
first mention. -/
def newModules (before decls : List Decl) : List String :=
  ((decls.filterMap (·.attributes.moduleName)).filter (· ∉ modulesNamed before)).eraseDups

/-- The number of contexts for some declarations: one for each of them, one for
each module that they name, and one for each of them that names a module. -/
def contextCount (decls : List Decl) : Nat :=
  decls.length + (modulesNamed decls).length +
    (decls.filter (·.attributes.moduleName.isSome)).length

section Counting

variable {before : List Decl} {decl : Decl} {name : String}

theorem mem_modulesNamed_iff :
    name ∈ modulesNamed before ↔ ∃ decl ∈ before, decl.attributes.moduleName = some name := by
  simp [modulesNamed]

/-- More declarations add the modules that are new in them. -/
theorem modulesNamed_append (before decls : List Decl) :
    modulesNamed (before ++ decls) = modulesNamed before ++ newModules before decls := by
  simp only [newModules, modulesNamed, List.filterMap_append, List.eraseDups_append,
    List.removeAll, List.mem_eraseDups]
  congr 3
  funext name
  by_cases known : name ∈ before.filterMap (·.attributes.moduleName) <;> simp [known]

theorem newModules_append (before first second : List Decl) :
    newModules before (first ++ second) =
      newModules before first ++ newModules (before ++ first) second := by
  have both := modulesNamed_append before (first ++ second)
  rw [← List.append_assoc, modulesNamed_append, modulesNamed_append, List.append_assoc] at both
  exact (List.append_cancel_left both).symm

theorem newModules_cons (before : List Decl) (decl : Decl) (rest : List Decl) :
    newModules before (decl :: rest) =
      newModules before [decl] ++ newModules (before ++ [decl]) rest :=
  newModules_append before [decl] rest

theorem newModules_of_none (unnamed : decl.attributes.moduleName = none) :
    newModules before [decl] = [] := by
  simp [newModules, unnamed]

theorem newModules_of_some (named : decl.attributes.moduleName = some name) :
    newModules before [decl] = if name ∈ modulesNamed before then [] else [name] := by
  by_cases known : name ∈ modulesNamed before
  · simp [newModules, named, known]
  · simp [newModules, named, known, List.eraseDups_cons]

theorem contextCount_concat (before : List Decl) (decl : Decl) :
    contextCount (before ++ [decl]) =
      contextCount before + 1 + (newModules before [decl]).length +
        decl.attributes.moduleName.toList.length := by
  have shares : ([decl].filter (·.attributes.moduleName.isSome)).length =
      decl.attributes.moduleName.toList.length := by
    cases named : decl.attributes.moduleName <;> simp [named]
  simp only [contextCount, modulesNamed_append, List.filter_append, List.length_append, shares,
    List.length_singleton]
  omega

end Counting

/-! ### Along an outline -/

namespace Stop

/-- What is picked at each stop, from the declarations before it and the stop
itself. -/
def gather {α : Type} (pick : List Decl → Stop → List α) : List Decl → List Stop → List α
  | _, [] => []
  | before, stop :: rest => pick before stop ++ gather pick (before ++ [stop.decl]) rest

variable {α : Type} {pick : List Decl → Stop → List α}

theorem gather_append (before : List Decl) (first second : List Stop) :
    gather pick before (first ++ second) =
      gather pick before first ++ gather pick (before ++ first.map Stop.decl) second := by
  induction first generalizing before with
  | nil => simp [gather]
  | cons stop rest ih => simp [gather, ih]

theorem gather_concat (before : List Decl) (stops : List Stop) (stop : Stop) :
    gather pick before (stops ++ [stop]) =
      gather pick before stops ++ pick (before ++ stops.map Stop.decl) stop := by
  rw [gather_append]
  simp [gather]

theorem gather_eq_nil {before : List Decl} {stops : List Stop}
    (none : ∀ before, ∀ stop ∈ stops, pick before stop = []) : gather pick before stops = [] := by
  induction stops generalizing before with
  | nil => rfl
  | cons stop rest ih =>
    rw [gather, none before stop List.mem_cons_self,
      ih fun before stop mem => none before stop (List.mem_cons_of_mem _ mem)]
    rfl

theorem mem_gather {before : List Decl} {stops : List Stop} {item : α} :
    item ∈ gather pick before stops ↔ ∃ first stop rest, stops = first ++ stop :: rest ∧
      item ∈ pick (before ++ first.map Stop.decl) stop := by
  constructor
  · intro mem
    induction stops generalizing before with
    | nil => exact absurd mem List.not_mem_nil
    | cons stop rest ih =>
      rcases List.mem_append.mp mem with here | later
      · exact ⟨[], stop, rest, rfl, by simpa using here⟩
      · obtain ⟨first, other, others, rfl, found⟩ := ih later
        exact ⟨stop :: first, other, others, rfl, by simpa using found⟩
  · rintro ⟨first, stop, rest, rfl, found⟩
    rw [gather_append]
    exact List.mem_append_right _ (List.mem_append_left _ found)

theorem gather_congr {pick' : List Decl → Stop → List α} {before : List Decl} {stops : List Stop}
    (same : ∀ first stop rest, stops = first ++ stop :: rest →
      pick (before ++ first.map Stop.decl) stop = pick' (before ++ first.map Stop.decl) stop) :
    gather pick before stops = gather pick' before stops := by
  induction stops generalizing before with
  | nil => rfl
  | cons stop rest ih =>
    have here := same [] stop rest rfl
    rw [List.map_nil, List.append_nil] at here
    rw [gather, gather, here, ih]
    intro first other others split
    have later := same (stop :: first) other others (by rw [split, List.cons_append])
    rwa [List.map_cons, ← List.singleton_append, ← List.append_assoc] at later

theorem map_gather {β : Type} (f : α → β) (before : List Decl) (stops : List Stop) :
    (gather pick before stops).map f =
      gather (fun before stop => (pick before stop).map f) before stops := by
  induction stops generalizing before with
  | nil => rfl
  | cons stop rest ih => simp [gather, ih]

/-- What is picked at the stops below the one at `position`. -/
def below (position : Nat) (pick : List Decl → Stop → List α) (before : List Decl) (stop : Stop) :
    List α :=
  if stop.parent = some position then pick before stop else []

/-- What is picked at the stops that are below none. -/
def atTop (pick : List Decl → Stop → List α) (before : List Decl) (stop : Stop) : List α :=
  if stop.parent = none then pick before stop else []

/-- The context of a stop. -/
def context (before : List Decl) (_ : Stop) : List ContextId :=
  [contextCount before]

/-- The module that is registered at a stop. -/
def registered (before : List Decl) (stop : Stop) : List (String × ContextId) :=
  (newModules before [stop.decl]).map fun name => (name, contextCount before + 1)

/-- The roots that are made at a stop: its context, if it is at the top, and the
module that is registered. -/
def newRoots (before : List Decl) (stop : Stop) : List ContextId :=
  atTop context before stop ++ (registered before stop).map Prod.snd

end Stop

/-! ### What a context adds -/

namespace Assembly

variable {assembly : Assembly} {name : String} {id origin : ContextId} {methods : List Method}

theorem size_withPlaced (assembly : Assembly) (kind : ContextKind) (parent : Option ContextId) :
    (assembly.withPlaced kind parent).forest.size = assembly.forest.size + 1 := by
  cases parent with
  | none => exact ContextForest.size_insert _ _
  | some parent => exact (ContextForest.size_link _ _ _).trans (ContextForest.size_insert _ _)

theorem roots_withPlaced (assembly : Assembly) (kind : ContextKind) (parent : Option ContextId) :
    (assembly.withPlaced kind parent).forest.roots =
      assembly.forest.roots ++ if parent = none then [assembly.forest.size] else [] := by
  cases parent with
  | none => rfl
  | some parent => exact (List.append_nil _).symm

theorem modules_withPlaced (assembly : Assembly) (kind : ContextKind) (parent : Option ContextId) :
    (assembly.withPlaced kind parent).modules = assembly.modules := by
  cases parent <;> rfl

theorem children_withPlaced (kind : ContextKind) {parent : Option ContextId}
    (issued : ∀ id ∈ parent, id < assembly.forest.size) (id : ContextId) :
    (assembly.withPlaced kind parent).forest.children id =
      assembly.forest.children id ++ if parent = some id then [assembly.forest.size] else [] := by
  cases parent with
  | none => exact (ContextForest.children_insert assembly.forest kind id).trans (by simp)
  | some parent =>
    have above : parent < (assembly.forest.insert kind).2.size := by
      rw [ContextForest.size_insert]
      exact Nat.lt_succ_of_lt (issued parent rfl)
    have linked := ContextForest.children_link above assembly.forest.size id
    rw [ContextForest.children_insert] at linked
    by_cases here : parent = id
    · simpa [withPlaced, here] using linked
    · simpa [withPlaced, here] using linked

theorem size_withShare (assembly : Assembly) (parent origin : ContextId) (methods : List Method) :
    (assembly.withShare parent origin methods).forest.size = assembly.forest.size + 1 :=
  (ContextForest.size_link _ _ _).trans (ContextForest.size_insert _ _)

/-- A share changes the children of its module alone. -/
theorem children_withShare {parent : ContextId} (issued : parent < assembly.forest.size)
    (other : parent ≠ id) (origin : ContextId) (methods : List Method) :
    (assembly.withShare parent origin methods).forest.children id =
      assembly.forest.children id := by
  have issued' : parent < (assembly.forest.insert (.share origin methods)).2.size := by
    rw [ContextForest.size_insert]
    exact Nat.lt_succ_of_lt issued
  rw [withShare, ContextForest.children_link issued', if_neg other, ContextForest.children_insert]

/-- The name, unless there is a module of that name: what has to be registered
before something can be attached to it. -/
def unregistered (assembly : Assembly) (name : String) : List String :=
  if assembly.module? name = none then [name] else []

theorem unregistered_of_some (known : assembly.module? name = some id) :
    assembly.unregistered name = [] := by
  simp [unregistered, known]

theorem unregistered_of_none (unknown : assembly.module? name = none) :
    assembly.unregistered name = [name] :=
  if_pos unknown

theorem size_withAttached (assembly : Assembly) (name : String) (origin : ContextId)
    (methods : List Method) :
    (assembly.withAttached name origin methods).forest.size =
      assembly.forest.size + (assembly.unregistered name).length + 1 := by
  unfold withAttached
  cases known : assembly.module? name with
  | none =>
    rw [size_withShare, size_withModule, unregistered_of_none known]
    rfl
  | some parent =>
    rw [size_withShare, unregistered_of_some known]
    rfl

theorem roots_withAttached (assembly : Assembly) (name : String) (origin : ContextId)
    (methods : List Method) :
    (assembly.withAttached name origin methods).forest.roots =
      assembly.forest.roots ++ (assembly.unregistered name).map fun _ => assembly.forest.size := by
  unfold withAttached
  cases known : assembly.module? name with
  | none =>
    rw [unregistered_of_none known]
    rfl
  | some parent =>
    rw [unregistered_of_some known]
    exact (List.append_nil _).symm

theorem modules_withAttached (assembly : Assembly) (name : String) (origin : ContextId)
    (methods : List Method) :
    (assembly.withAttached name origin methods).modules =
      assembly.modules ++
        (assembly.unregistered name).map fun name => (name, assembly.forest.size) := by
  unfold withAttached
  cases known : assembly.module? name with
  | none =>
    rw [unregistered_of_none known]
    rfl
  | some parent =>
    rw [unregistered_of_some known]
    exact (List.append_nil _).symm

/-- Attaching changes the children of no issued context but modules. -/
theorem children_withAttached (sound : assembly.Sound) (name : String) (origin : ContextId)
    (methods : List Method) (issued : id < assembly.forest.size)
    (notModule : ∀ name, assembly.forest.kind? id ≠ some (.module name)) :
    (assembly.withAttached name origin methods).forest.children id =
      assembly.forest.children id := by
  unfold withAttached
  cases known : assembly.module? name with
  | some parent =>
    have other : parent ≠ id := by
      rintro rfl
      exact notModule name (sound.module_kind? (module?_mem known))
    exact children_withShare (sound.module_issued known) other origin methods
  | none =>
    have other : assembly.forest.size ≠ id := Nat.ne_of_gt issued
    rw [children_withShare (by simp) other]
    exact ContextForest.children_insert _ _ _

end Assembly

/-! ### Placed contexts -/

namespace ContextForest

/-- A forest that grows keeps its contexts placed. -/
theorem Placed.of_grows {before after : ContextForest} (placed : before.Placed)
    (grows : before.Grows after)
    (fresh : ∀ id, before.size ≤ id → id < after.size →
      id ∈ after.roots ∨ ∃ parent, after.parent? id = some parent) : after.Placed := by
  intro id issued
  by_cases old : id < before.size
  · rcases placed id old with root | ⟨parent, above⟩
    · exact .inl (grows.roots.subset root)
    · exact .inr ⟨parent, grows.parent? above⟩
  · exact fresh id (Nat.not_lt.mp old) issued

end ContextForest

namespace Assembly

variable {assembly : Assembly} {name : String} {id origin : ContextId} {methods : List Method}

theorem placed_withPlaced (sound : assembly.Sound) (placed : assembly.forest.Placed)
    (kind : ContextKind) {parent : Option ContextId}
    (issued : ∀ id ∈ parent, id < assembly.forest.size) :
    (assembly.withPlaced kind parent).forest.Placed := by
  refine placed.of_grows (sound.withPlaced kind issued).2 fun id new within => ?_
  rw [size_withPlaced] at within
  obtain rfl : id = assembly.forest.size := by omega
  cases parent with
  | none =>
    rw [roots_withPlaced]
    simp
  | some parent =>
    have fresh : assembly.forest.size < (assembly.forest.insert kind).2.size := by simp
    exact .inr ⟨parent, (ContextForest.parent?_link fresh parent _).trans (if_pos rfl)⟩

theorem placed_withShare (sound : assembly.Sound) (placed : assembly.forest.Placed)
    {parent : ContextId} (issued : parent < assembly.forest.size) (origin : ContextId)
    (methods : List Method) : (assembly.withShare parent origin methods).forest.Placed := by
  have below : (assembly.withPlaced (.share origin methods) (some parent)).forest.Placed :=
    placed_withPlaced sound placed _ fun id mem => Option.mem_some.mp mem ▸ issued
  exact below

theorem placed_withAttached (sound : assembly.Sound) (placed : assembly.forest.Placed)
    (name : String) (origin : ContextId) (methods : List Method) :
    (assembly.withAttached name origin methods).forest.Placed := by
  unfold withAttached
  cases known : assembly.module? name with
  | some parent => exact placed_withShare sound placed (sound.module_issued known) origin methods
  | none =>
    have rooted : (assembly.withPlaced (.module name) none).forest.Placed :=
      placed_withPlaced sound placed _ fun id mem => by cases mem
    exact placed_withShare (sound.withModule known) rooted (by simp) origin methods

end Assembly

/-! ### What a stop adds -/

namespace Progress.Records

variable {rule : NamespaceRule} {stops : List Stop} {progress : Progress}

/-- The module that is new at a stop is the one that has to be registered. -/
theorem unregistered_placed (records : Records rule stops progress) {decl : Decl} {name : String}
    (named : decl.attributes.moduleName = some name) (kind : ContextKind)
    (parent : Option ContextId) :
    (progress.survey.assembly.withPlaced kind parent).unregistered name =
      newModules (stops.map Stop.decl) [decl] := by
  have unknown : (progress.survey.assembly.withPlaced kind parent).module? name = none ↔
      name ∉ modulesNamed (stops.map Stop.decl) := by
    rw [Assembly.module?, Assembly.modules_withPlaced, ← Assembly.module?,
      records.module?_eq_none_iff, mem_modulesNamed_iff]
    simp
  rw [newModules_of_some named, Assembly.unregistered]
  by_cases known : name ∈ modulesNamed (stops.map Stop.decl)
  · rw [if_pos known, if_neg fun absent => unknown.mp absent known]
  · rw [if_neg known, if_pos (unknown.mpr known)]

/-- A stop is at the top when no context is above it. -/
theorem parent_eq_none_iff (records : Records rule stops progress) {stop : Stop}
    (earlier : ∀ position ∈ stop.parent, position < stops.length) :
    stop.parent.bind (progress.ids[·]?) = none ↔ stop.parent = none := by
  cases around : stop.parent with
  | none => simp
  | some position =>
    have within : position < progress.ids.length := by
      rw [records.length]
      exact earlier position around
    simp [within]

/-- A stop is below a context when it is below the stop of that context. -/
theorem parent_eq_some_iff (records : Records rule stops progress) {stop : Stop}
    {position : Nat} {id : ContextId} (here : progress.ids[position]? = some id) :
    stop.parent.bind (progress.ids[·]?) = some id ↔ stop.parent = some position := by
  constructor
  · intro above
    obtain ⟨other, around, found⟩ := Option.bind_eq_some_iff.mp above
    obtain ⟨within, _⟩ := List.getElem?_eq_some_iff.mp here
    have distinct : progress.ids.Nodup := records.increasing.imp Nat.ne_of_lt
    rw [around, (List.getElem?_inj within distinct).mp (here.trans found.symm)]
  · intro around
    rw [around, Option.bind_some, here]

theorem size_advance (records : Records rule stops progress) (stop : Stop) :
    (progress.advance rule stop).survey.assembly.forest.size =
      progress.survey.assembly.forest.size + 1 +
        (newModules (stops.map Stop.decl) [stop.decl]).length +
          stop.decl.attributes.moduleName.toList.length := by
  rw [Progress.advance, Survey.assembly_entered]
  cases named : stop.decl.attributes.moduleName with
  | none =>
    rw [newModules_of_none named, Assembly.size_withPlaced]
    rfl
  | some name =>
    dsimp only
    rw [Assembly.size_withAttached, records.unregistered_placed named, Assembly.size_withPlaced]
    rfl

theorem roots_advance (records : Records rule stops progress) {stop : Stop}
    (earlier : ∀ position ∈ stop.parent, position < stops.length) :
    (progress.advance rule stop).survey.assembly.forest.roots =
      progress.survey.assembly.forest.roots ++
        (if stop.parent = none then [progress.survey.assembly.forest.size] else []) ++
          (newModules (stops.map Stop.decl) [stop.decl]).map fun _ =>
            progress.survey.assembly.forest.size + 1 := by
  simp only [← records.parent_eq_none_iff earlier]
  rw [Progress.advance, Survey.assembly_entered]
  cases named : stop.decl.attributes.moduleName with
  | none =>
    rw [newModules_of_none named, ← Assembly.roots_withPlaced]
    exact (List.append_nil _).symm
  | some name =>
    dsimp only
    rw [Assembly.roots_withAttached, records.unregistered_placed named, Assembly.size_withPlaced,
      Assembly.roots_withPlaced]

theorem modules_advance (records : Records rule stops progress) (stop : Stop) :
    (progress.advance rule stop).survey.assembly.modules =
      progress.survey.assembly.modules ++
        (newModules (stops.map Stop.decl) [stop.decl]).map fun name =>
          (name, progress.survey.assembly.forest.size + 1) := by
  rw [Progress.advance, Survey.assembly_entered]
  cases named : stop.decl.attributes.moduleName with
  | none =>
    rw [newModules_of_none named]
    exact (Assembly.modules_withPlaced _ _ _).trans (List.append_nil _).symm
  | some name =>
    dsimp only
    rw [Assembly.modules_withAttached, records.unregistered_placed named,
      Assembly.size_withPlaced, Assembly.modules_withPlaced]

/-- What is below the context of a type is decided when the context of the stop
is placed. -/
theorem children_placed (records : Records rule stops progress) (stop : Stop) {id : ContextId}
    {decl : Decl} {mapped : Option String} :
    let placed := progress.survey.assembly.withPlaced (.type stop.decl (rule.mapped? stop.decl))
      (stop.parent.bind (progress.ids[·]?))
    placed.forest.kind? id = some (.type decl mapped) →
      (progress.advance rule stop).survey.assembly.forest.children id =
        placed.forest.children id := by
  intro placed kind
  obtain ⟨sound, -⟩ := records.placed stop
  obtain ⟨context, found, -⟩ := Option.map_eq_some_iff.mp kind
  rw [Progress.advance, Survey.assembly_entered]
  cases stop.decl.attributes.moduleName with
  | none => rfl
  | some name =>
    refine Assembly.children_withAttached sound _ _ _ (ContextForest.lt_size_of_get? found) ?_
    intro name isModule
    rw [kind] at isModule
    cases isModule

/-- A stop adds its context below that of the stop around it, and nothing below
those of the other stops. -/
theorem children_advance (records : Records rule stops progress) (stop : Stop) {position : Nat}
    {id : ContextId} (here : progress.ids[position]? = some id) :
    (progress.advance rule stop).survey.assembly.forest.children id =
      progress.survey.assembly.forest.children id ++
        if stop.parent = some position then [progress.survey.assembly.forest.size] else [] := by
  have mem := List.mem_of_getElem? here
  obtain ⟨-, grows, -⟩ := records.placed stop
  obtain ⟨decl, mapped, kind⟩ := records.kind?_of_mem mem
  rw [← grows.kind? (records.sound.issued id mem)] at kind
  rw [records.children_placed stop kind,
    Assembly.children_withPlaced _ (records.sound.parent_issued stop.parent)]
  simp only [records.parent_eq_some_iff here]

/-- Nothing is below the context of a new stop. -/
theorem children_fresh (records : Records rule stops progress) (stop : Stop) :
    (progress.advance rule stop).survey.assembly.forest.children
      progress.survey.assembly.forest.size = [] := by
  have issued := records.sound.parent_issued stop.parent
  have other : stop.parent.bind (progress.ids[·]?) ≠ some progress.survey.assembly.forest.size :=
    fun same => Nat.lt_irrefl _ (issued _ same)
  obtain ⟨-, -, -, kind, -⟩ := records.placed stop
  rw [records.children_placed stop kind, Assembly.children_withPlaced _ issued, if_neg other,
    ContextForest.children, ContextForest.get?_eq_none_iff.mpr (Nat.le_refl _)]
  rfl

theorem placed_advance (records : Records rule stops progress)
    (placed : progress.survey.assembly.forest.Placed) (stop : Stop) :
    (progress.advance rule stop).survey.assembly.forest.Placed := by
  have issued := records.sound.parent_issued stop.parent
  have here := Assembly.placed_withPlaced records.sound.assembly placed
    (.type stop.decl (rule.mapped? stop.decl)) issued
  obtain ⟨sound, -⟩ := records.placed stop
  rw [Progress.advance, Survey.assembly_entered]
  cases stop.decl.attributes.moduleName with
  | none => exact here
  | some name => exact Assembly.placed_withAttached sound here _ _ _

end Progress.Records

/-! ### All numbers -/

namespace Progress

variable {rule : NamespaceRule} {stops : List Stop} {progress : Progress}

/-- The numbers of the contexts when some stops were made. -/
structure Numbered (stops : List Stop) (progress : Progress) : Prop where
  size : progress.survey.assembly.forest.size = contextCount (stops.map Stop.decl)
  ids : progress.ids = Stop.gather Stop.context [] stops
  roots : progress.survey.assembly.forest.roots = Stop.gather Stop.newRoots [] stops
  modules : progress.survey.assembly.modules = Stop.gather Stop.registered [] stops
  children : ∀ {position id}, progress.ids[position]? = some id →
    progress.survey.assembly.forest.children id =
      Stop.gather (Stop.below position Stop.context) [] stops
  earlier : ∀ stop ∈ stops, ∀ position ∈ stop.parent, position < stops.length
  placed : progress.survey.assembly.forest.Placed

theorem numbered_start : Numbered [] {} where
  size := rfl
  ids := rfl
  roots := rfl
  modules := rfl
  children found := absurd found (by simp)
  earlier _ mem := absurd mem List.not_mem_nil
  placed _ issued := absurd issued (Nat.not_lt_zero _)

namespace Numbered

theorem advance (numbered : Numbered stops progress) (records : Records rule stops progress)
    {stop : Stop} (earlier : ∀ position ∈ stop.parent, position < stops.length) :
    Numbered (stops ++ [stop]) (progress.advance rule stop) where
  size := by
    rw [records.size_advance, numbered.size, List.map_append, List.map_singleton,
      contextCount_concat]
  ids := by
    rw [Stop.gather_concat, ← numbered.ids, Progress.advance, numbered.size]
    rfl
  roots := by
    rw [records.roots_advance earlier, Stop.gather_concat, numbered.roots, numbered.size,
      List.append_assoc, Stop.newRoots, Stop.registered, List.map_map]
    rfl
  modules := by
    rw [records.modules_advance, Stop.gather_concat, numbered.modules, numbered.size]
    rfl
  children := by
    intro position id found
    rw [Progress.advance, List.getElem?_append] at found
    split at found
    · rw [records.children_advance stop found, Stop.gather_concat, numbered.children found,
        numbered.size]
      rfl
    · -- The new context: no stop so far is below it, nor is the new one itself.
      rename_i beyond
      obtain ⟨-, rfl⟩ := List.getElem?_eq_some_iff.mp found
      rw [records.length] at beyond
      rw [List.getElem_singleton, records.children_fresh]
      refine (Stop.gather_eq_nil fun before other mem => if_neg ?_).symm
      intro around
      rcases List.mem_append.mp mem with old | new
      · exact beyond (numbered.earlier other old position around)
      · rw [List.mem_singleton.mp new] at around
        exact beyond (earlier position around)
  earlier := by
    intro other mem position around
    rw [List.length_append, List.length_singleton]
    rcases List.mem_append.mp mem with old | new
    · exact Nat.lt_succ_of_lt (numbered.earlier other old position around)
    · rw [List.mem_singleton.mp new] at around
      exact Nat.lt_succ_of_lt (earlier position around)
  placed := records.placed_advance numbered.placed stop

theorem along (numbered : Numbered stops progress) (records : Records rule stops progress)
    {more : List Stop} (ordered : Stop.Ordered more stops.length) :
    Numbered (stops ++ more) (progress.along rule more) := by
  induction more generalizing stops progress with
  | nil =>
    rw [List.append_nil]
    exact numbered
  | cons stop rest ih =>
    have next := numbered.advance records ordered.1
    have rest' := ih next (records.advance stop ordered.1) (by simpa using ordered.2)
    rwa [List.append_assoc, List.singleton_append] at rest'

end Numbered

end Progress

/-- The numbers of the contexts in the survey of a library. -/
theorem Library.numbered (library : Library) (rule : NamespaceRule) :
    Progress.Numbered library.outline (({} : Progress).along rule library.outline) :=
  Progress.numbered_start.along (Progress.records_start rule)
    (Stop.ordered_ofRoots library.types 0)

/-- The order of the contexts of a library has each of them once. -/
theorem Library.preOrder_perm (library : Library) (options : Options) :
    let forest := (library.overview options).forest
    forest.preOrder.Perm (List.range forest.size) :=
  (library.records options.rule).sound.assembly.forest.preOrder_perm_range
    (library.numbered options.rule).placed

/-- **The manifest of a library is what a target has answered**: about each context in
the order of the forest, and then about the library. -/
theorem Library.manifest_eq {γ : Type} (library : Library) (options : Options)
    (target : Target γ) :
    let aggregate := library.aggregate options
    (aggregate.collect target).manifest =
      aggregate.forest.preOrder.flatMap (target.contextArtifacts aggregate) ++
        (aggregate.collect target).defaultArtifacts :=
  (library.aggregate options).manifest_collect target fun _ mem =>
    List.mem_range.mp ((library.preOrder_perm options).mem_iff.mp mem)

end Bindery
