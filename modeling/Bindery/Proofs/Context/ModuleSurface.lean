/-
What a module exports.

A `Contribution` is what one declaration gives to a module. The modules of an
assembly hold a list of contributions (`Assembly.Holds`) when they are the names
in the list, each at its first mention, and when the shares below each module
are its contributions in order. Placing a type contributes nothing
(`Assembly.Holds.withPlaced`) and attaching a share contributes it
(`Assembly.Holds.withAttached`). Along an outline this gives the surfaces of all
modules (`Progress.Records`), and `Library.collect_moduleSurfaces` states them
for the collection of a library by any target.
-/

import Bindery.Proofs.Context.Visits

namespace Bindery

/-! ### The kinds of contexts -/

/-- The methods that a context of a kind contributes to a module. -/
def ContextKind.methods : ContextKind → List Method
  | share _ methods => methods
  | type _ _ | module _ => []

namespace ContextForest

variable {forest : ContextForest} {id parent child : ContextId}

/-- The kind of a context. -/
def kind? (forest : ContextForest) (id : ContextId) : Option ContextKind :=
  (forest.get? id).map Context.kind

theorem kind?_of_get? {context : Context} (found : forest.get? id = some context) :
    forest.kind? id = some context.kind := by
  rw [kind?, found]
  rfl

theorem kind?_insert (forest : ContextForest) (kind : ContextKind) (id : ContextId) :
    (forest.insert kind).2.kind? id = if id = forest.size then some kind else forest.kind? id := by
  unfold kind?
  rw [get?_insert]
  split <;> rfl

@[simp] theorem kind?_link (forest : ContextForest) (parent child id : ContextId) :
    (forest.link parent child).kind? id = forest.kind? id := by
  unfold kind?
  rw [get?_link, Option.map_map]
  rfl

/-- A parent stays. -/
theorem Grows.parent? {before after : ContextForest} (grows : before.Grows after)
    (above : before.parent? id = some parent) : after.parent? id = some parent := by
  obtain ⟨context, found, set⟩ := Option.bind_eq_some_iff.mp above
  obtain ⟨later, found', -, -, kept⟩ := grows.contexts found
  rw [parent?_of_get? found', kept parent set]

/-- The kinds of issued contexts stay. -/
theorem Grows.kind? {before after : ContextForest} (grows : before.Grows after)
    (issued : id < before.size) : after.kind? id = before.kind? id := by
  obtain ⟨context, found⟩ := exists_get?_of_lt issued
  obtain ⟨later, found', same, -, -⟩ := grows.contexts found
  rw [kind?_of_get? found, kind?_of_get? found', same]

/-- Children keep their kinds. -/
theorem Grows.map_kind?_children {before after : ContextForest} (grows : before.Grows after)
    (sound : before.Sound) (id : ContextId) :
    (before.children id).map after.kind? = (before.children id).map before.kind? :=
  List.map_congr_left fun _ below => grows.kind? (sound.child_issued below)

end ContextForest

/-! ### Contributions -/

/-- One more item at the end is kept, unless it was there before. -/
theorem eraseDups_concat {α : Type} [DecidableEq α] (items : List α) (item : α) :
    (items ++ [item]).eraseDups = items.eraseDups ++ if item ∈ items then [] else [item] := by
  rw [List.eraseDups_append, List.removeAll, List.filter_singleton]
  by_cases known : item ∈ items
  · simp [known]
  · simp [known, List.eraseDups_cons]

/-- What a declaration gives to a module: the methods, and the context of the
declaration. -/
structure Contribution where
  name : String
  origin : ContextId
  methods : List Method

/-- The kind of the context of a contribution. -/
def Contribution.kind (contribution : Contribution) : ContextKind :=
  .share contribution.origin contribution.methods

namespace Assembly

variable {assembly : Assembly} {contributions : List Contribution} {name : String}
  {id origin : ContextId} {methods : List Method}

/-- The modules are the names of the contributions at their first mention, and
the shares of a module are its contributions in order. -/
structure Holds (assembly : Assembly) (contributions : List Contribution) : Prop where
  names : assembly.modules.map Prod.fst = (contributions.map Contribution.name).eraseDups
  shares : ∀ {name id}, (name, id) ∈ assembly.modules →
    (assembly.forest.children id).map assembly.forest.kind? =
      (contributions.filter (·.name = name)).map fun contribution => some contribution.kind

theorem holds_nil : ({} : Assembly).Holds [] where
  names := rfl
  shares mem := absurd mem List.not_mem_nil

namespace Sound

theorem module_kind? (sound : assembly.Sound) (mem : (name, id) ∈ assembly.modules) :
    assembly.forest.kind? id = some (.module name) := by
  obtain ⟨context, found, kind⟩ := sound.module_kind mem
  rw [ContextForest.kind?_of_get? found, kind]

/-- A name has one module: its names are different. -/
theorem module?_of_mem (sound : assembly.Sound) (mem : (name, id) ∈ assembly.modules) :
    assembly.module? name = some id := by
  cases found : assembly.module? name with
  | none => exact absurd (List.mem_map_of_mem mem) (module?_eq_none_iff.mp found)
  | some other =>
    have same := List.inj_on_of_nodup_map sound.names_nodup mem (module?_mem found) rfl
    rw [Prod.mk.injEq] at same
    rw [same.2]

end Sound

namespace Holds

/-- A placed context takes part in no module, unless it is put below one. -/
theorem withPlaced (holds : assembly.Holds contributions) (sound : assembly.Sound)
    (kind : ContextKind) {parent : Option ContextId}
    (issued : ∀ id ∈ parent, id < assembly.forest.size)
    (notModule : ∀ id ∈ parent, ∀ name, assembly.forest.kind? id ≠ some (.module name)) :
    (assembly.withPlaced kind parent).Holds contributions := by
  have grows := (sound.withPlaced kind issued).2
  have modules : (assembly.withPlaced kind parent).modules = assembly.modules := by
    cases parent <;> rfl
  refine ⟨by rw [modules, holds.names], fun {name id} mem => ?_⟩
  rw [modules] at mem
  have children : (assembly.withPlaced kind parent).forest.children id =
      assembly.forest.children id := by
    cases parent with
    | none => exact ContextForest.children_insert _ _ _
    | some parent =>
      have above : parent < (assembly.forest.insert kind).2.size := by
        rw [ContextForest.size_insert]
        exact Nat.lt_succ_of_lt (issued parent rfl)
      have other : parent ≠ id := by
        rintro rfl
        exact notModule parent rfl name (sound.module_kind? mem)
      exact (ContextForest.children_link above _ id).trans
        (by rw [if_neg other, ContextForest.children_insert])
  rw [children, grows.map_kind?_children sound.forest, holds.shares mem]

end Holds

/-- The share that is added to a module comes last below it, and nothing changes
below the other modules. -/
theorem map_kind?_children_withShare (sound : assembly.Sound) {parent : ContextId}
    (known : (name, parent) ∈ assembly.modules) (origin : ContextId) (methods : List Method)
    {other : String} (mem : (other, id) ∈ assembly.modules) :
    ((assembly.withShare parent origin methods).forest.children id).map
        (assembly.withShare parent origin methods).forest.kind? =
      (assembly.forest.children id).map assembly.forest.kind? ++
        if name = other then [some (.share origin methods)] else [] := by
  have issued : parent < assembly.forest.size :=
    sound.forest.roots_issued (sound.module_root known)
  have issued' : parent < (assembly.forest.insert (.share origin methods)).2.size := by
    rw [ContextForest.size_insert]
    exact Nat.lt_succ_of_lt issued
  have old := (grows_withShare sound issued origin methods).map_kind?_children sound.forest id
  have new : (assembly.withShare parent origin methods).forest.kind? assembly.forest.size =
      some (.share origin methods) := by
    rw [withShare, ContextForest.kind?_link, ContextForest.kind?_insert, if_pos rfl]
  have children : (assembly.withShare parent origin methods).forest.children id =
      if parent = id then assembly.forest.children id ++ [assembly.forest.size]
      else assembly.forest.children id := by
    rw [withShare, ContextForest.children_link issued', ContextForest.children_insert]
  by_cases same : name = other
  · subst same
    have here : parent = id := by
      have found := sound.module?_of_mem known
      rw [sound.module?_of_mem mem, Option.some.injEq] at found
      exact found.symm
    rw [children, if_pos here, if_pos rfl, List.map_append, old, List.map_singleton, new]
  · have elsewhere : parent ≠ id := by
      rintro rfl
      have kind := sound.module_kind? known
      rw [sound.module_kind? mem, Option.some.injEq, ContextKind.module.injEq] at kind
      exact same kind.symm
    rw [children, if_neg elsewhere, if_neg same, old, List.append_nil]

/-- One more mention of a name adds it at the end, unless it was mentioned
before. -/
theorem eraseDups_names_append (contributions : List Contribution) (contribution : Contribution) :
    ((contributions ++ [contribution]).map Contribution.name).eraseDups =
      (contributions.map Contribution.name).eraseDups ++
        if contribution.name ∈ contributions.map Contribution.name then []
        else [contribution.name] := by
  rw [List.map_append, List.map_singleton, eraseDups_concat]

namespace Holds

theorem mem_names_iff (holds : assembly.Holds contributions) :
    name ∈ contributions.map Contribution.name ↔ name ∈ assembly.modules.map Prod.fst := by
  rw [holds.names, List.mem_eraseDups]

/-- A share that is attached is one more contribution. -/
theorem withAttached (holds : assembly.Holds contributions) (sound : assembly.Sound)
    (name : String) (origin : ContextId) (methods : List Method) :
    (assembly.withAttached name origin methods).Holds
      (contributions ++ [⟨name, origin, methods⟩]) := by
  unfold Assembly.withAttached
  cases known : assembly.module? name with
  | some parent =>
    have mem := module?_mem known
    have mentioned := holds.mem_names_iff.mpr (List.mem_map_of_mem mem)
    refine ⟨?_, ?_⟩
    · rw [eraseDups_names_append, if_pos mentioned, List.append_nil]
      exact holds.names
    · intro other id mem'
      have children := map_kind?_children_withShare sound mem origin methods mem'
      rw [holds.shares mem'] at children
      rw [children, List.filter_append, List.map_append]
      by_cases same : name = other <;> simp [same, Contribution.kind]
  | none =>
    have absent := module?_eq_none_iff.mp known
    have unmentioned := mt holds.mem_names_iff.mp absent
    have registered := sound.withModule known
    have mem : (name, assembly.forest.size) ∈ (assembly.withModule name).modules :=
      List.mem_append_right _ List.mem_cons_self
    refine ⟨?_, ?_⟩
    · rw [eraseDups_names_append, if_neg unmentioned, ← holds.names]
      exact List.map_append
    · intro other id mem'
      have children := map_kind?_children_withShare registered mem origin methods mem'
      have unchanged : (assembly.withModule name).forest.children id =
          assembly.forest.children id := ContextForest.children_insert _ _ _
      rw [unchanged, (grows_withModule sound name).map_kind?_children sound.forest id] at children
      rw [children, List.filter_append, List.map_append]
      rcases List.mem_append.mp mem' with old | new
      · -- A module that was there has another name.
        have differs : name ≠ other := by
          rintro rfl
          exact absent (List.mem_map_of_mem old)
        simp [holds.shares old, differs]
      · -- Nothing is below the new module, and nothing was contributed to it.
        rw [List.mem_singleton, Prod.mk.injEq] at new
        obtain ⟨rfl, rfl⟩ := new
        have nothing : assembly.forest.children assembly.forest.size = [] := by
          rw [ContextForest.children, ContextForest.get?_eq_none_iff.mpr (Nat.le_refl _)]
        have none' : contributions.filter (·.name = other) = [] := by
          refine List.filter_eq_nil_iff.mpr fun contribution mem same => unmentioned ?_
          rw [← of_decide_eq_true same]
          exact List.mem_map_of_mem mem
        simp [nothing, none', Contribution.kind]

end Holds

/-! ### The kinds of new contexts -/

theorem kind?_withPlaced (assembly : Assembly) (kind : ContextKind) (parent : Option ContextId)
    (id : ContextId) :
    (assembly.withPlaced kind parent).forest.kind? id =
      if id = assembly.forest.size then some kind else assembly.forest.kind? id := by
  rw [← ContextForest.kind?_insert]
  cases parent with
  | none => rfl
  | some parent => exact ContextForest.kind?_link _ _ _ _

theorem kind?_withShare (assembly : Assembly) (parent origin : ContextId) (methods : List Method)
    (id : ContextId) :
    (assembly.withShare parent origin methods).forest.kind? id =
      if id = assembly.forest.size then some (.share origin methods)
      else assembly.forest.kind? id := by
  rw [← ContextForest.kind?_insert]
  exact ContextForest.kind?_link _ _ _ _

theorem kind?_withModule (assembly : Assembly) (name : String) (id : ContextId) :
    (assembly.withModule name).forest.kind? id =
      if id = assembly.forest.size then some (.module name) else assembly.forest.kind? id :=
  ContextForest.kind?_insert _ _ _

/-- Attaching makes no context of a type. -/
theorem kind?_of_withAttached {decl : Decl} {mapped : Option String}
    (attached : (assembly.withAttached name origin methods).forest.kind? id =
      some (.type decl mapped)) : assembly.forest.kind? id = some (.type decl mapped) := by
  unfold withAttached at attached
  split at attached
  · rw [kind?_withShare] at attached
    split at attached
    · cases attached
    · exact attached
  · rw [kind?_withShare] at attached
    split at attached
    · cases attached
    · rw [kind?_withModule] at attached
      split at attached
      · cases attached
      · exact attached

end Assembly

/-! ### Along an outline -/

/-- What the declarations of some stops give to modules. -/
def Stop.contributions (entries : List (ContextId × Stop)) : List Contribution :=
  entries.filterMap fun entry => entry.2.decl.attributes.moduleName.map fun name =>
    ⟨name, entry.1, entry.2.decl.exportedMethods⟩

namespace Progress

variable {rule : NamespaceRule} {stops : List Stop} {progress : Progress}

/-- What is known when some stops were made. Their contexts are those of types,
one for each stop in order, below that of the stop around it or among the roots;
and the modules hold what the declarations contribute. -/
structure Records (rule : NamespaceRule) (stops : List Stop) (progress : Progress) : Prop where
  sound : progress.Sound
  length : progress.ids.length = stops.length
  increasing : progress.ids.Pairwise (· < ·)
  kinds : ∀ entry ∈ progress.ids.zip stops, progress.survey.assembly.forest.kind? entry.1 =
    some (.type entry.2.decl (rule.mapped? entry.2.decl))
  complete : ∀ {id decl mapped},
    progress.survey.assembly.forest.kind? id = some (.type decl mapped) → id ∈ progress.ids
  tops : ∀ entry ∈ progress.ids.zip stops, entry.2.parent = none →
    entry.1 ∈ progress.survey.assembly.forest.roots
  nested : ∀ entry ∈ progress.ids.zip stops, ∀ position, entry.2.parent = some position →
    ∃ parent, progress.ids[position]? = some parent ∧
      progress.survey.assembly.forest.parent? entry.1 = some parent
  holds : progress.survey.assembly.Holds (Stop.contributions (progress.ids.zip stops))

theorem records_start (rule : NamespaceRule) : Records rule [] {} where
  sound := sound_start
  length := rfl
  increasing := .nil
  kinds _ mem := absurd mem List.not_mem_nil
  complete found := by simp [ContextForest.kind?, ContextForest.get?] at found
  tops _ mem := absurd mem List.not_mem_nil
  nested _ mem := absurd mem List.not_mem_nil
  holds := Assembly.holds_nil

namespace Records

/-- The context of every stop is that of a type. -/
theorem kind?_of_mem (records : Records rule stops progress) {id : ContextId}
    (mem : id ∈ progress.ids) :
    ∃ decl mapped, progress.survey.assembly.forest.kind? id = some (.type decl mapped) := by
  obtain ⟨position, within, rfl⟩ := List.mem_iff_getElem.mp mem
  have within' : position < stops.length := records.length ▸ within
  have entry := records.kinds (progress.ids[position], stops[position])
    (List.mem_iff_getElem.mpr ⟨position, by rw [List.length_zip]; omega, by simp⟩)
  exact ⟨_, _, entry⟩

theorem zip_advance (records : Records rule stops progress) (stop : Stop) :
    (progress.advance rule stop).ids.zip (stops ++ [stop]) =
      progress.ids.zip stops ++ [(progress.survey.assembly.forest.size, stop)] := by
  rw [advance, List.zip_append records.length]
  rfl

/-- The context of the new stop is that of its declaration, in its place. -/
theorem placed (records : Records rule stops progress) (stop : Stop) :
    let parent := stop.parent.bind (progress.ids[·]?)
    let assembly := progress.survey.assembly
    let placed := assembly.withPlaced (.type stop.decl (rule.mapped? stop.decl)) parent
    placed.Sound ∧ assembly.forest.Grows placed.forest ∧
      placed.Holds (Stop.contributions (progress.ids.zip stops)) ∧
      placed.forest.kind? assembly.forest.size =
        some (.type stop.decl (rule.mapped? stop.decl)) ∧
      (parent = none → assembly.forest.size ∈ placed.forest.roots) ∧
      ∀ id ∈ parent, placed.forest.parent? assembly.forest.size = some id := by
  intro parent assembly placed
  have sound := records.sound.assembly
  have issued := records.sound.parent_issued stop.parent
  obtain ⟨sound', grows⟩ := sound.withPlaced (.type stop.decl (rule.mapped? stop.decl)) issued
  refine ⟨sound', grows, records.holds.withPlaced sound _ issued fun id mem name => ?_, ?_, ?_, ?_⟩
  · obtain ⟨position, -, found⟩ := Option.bind_eq_some_iff.mp (Option.mem_def.mp mem)
    obtain ⟨decl, mapped, kind⟩ := records.kind?_of_mem (List.mem_of_getElem? found)
    rw [kind]
    simp
  · rw [Assembly.kind?_withPlaced, if_pos rfl]
  · intro top
    simp only [placed, top]
    exact List.mem_append_right _ List.mem_cons_self
  · intro id mem
    have here : parent = some id := mem
    have fresh : assembly.forest.size <
        (assembly.forest.insert (.type stop.decl (rule.mapped? stop.decl))).2.size := by simp
    simp only [placed, here]
    exact (ContextForest.parent?_link fresh id _).trans (if_pos rfl)

/-- The modules hold what the new declaration contributes, too. -/
theorem holds_advance (records : Records rule stops progress) (stop : Stop) :
    (progress.advance rule stop).survey.assembly.Holds
      (Stop.contributions ((progress.advance rule stop).ids.zip (stops ++ [stop]))) := by
  obtain ⟨sound, -, holds, -⟩ := records.placed stop
  rw [records.zip_advance, Stop.contributions, List.filterMap_append]
  simp only [advance, Survey.assembly_entered]
  cases named : stop.decl.attributes.moduleName with
  | none =>
    rw [List.filterMap_cons_none (by simp [named]), List.filterMap_nil, List.append_nil]
    exact holds
  | some name =>
    rw [List.filterMap_cons_some (by rw [named]; rfl), List.filterMap_nil]
    exact holds.withAttached sound name progress.survey.assembly.forest.size
      stop.decl.exportedMethods

/-- After its context was placed, a stop only attaches a share: the forest
grows, and no context of a type is added. -/
theorem grows_placed (records : Records rule stops progress) (stop : Stop) :
    let placed := progress.survey.assembly.withPlaced (.type stop.decl (rule.mapped? stop.decl))
      (stop.parent.bind (progress.ids[·]?))
    let after := (progress.advance rule stop).survey.assembly
    placed.forest.Grows after.forest ∧ ∀ {id decl mapped},
      after.forest.kind? id = some (.type decl mapped) →
        placed.forest.kind? id = some (.type decl mapped) := by
  intro placed after
  obtain ⟨sound, -⟩ := records.placed stop
  simp only [after, advance, Survey.assembly_entered]
  cases stop.decl.attributes.moduleName with
  | none => exact ⟨.refl _, fun kind => kind⟩
  | some name => exact ⟨(sound.withAttached _ _ _).2, Assembly.kind?_of_withAttached⟩

theorem advance (records : Records rule stops progress) (stop : Stop)
    (earlier : ∀ position ∈ stop.parent, position < stops.length) :
    Records rule (stops ++ [stop]) (progress.advance rule stop) := by
  obtain ⟨sound, grows, -, kind, top, below⟩ := records.placed stop
  obtain ⟨later, old⟩ := records.grows_placed stop
  have grown := records.sound.grows_advance rule stop
  have fresh : progress.survey.assembly.forest.size < (progress.survey.assembly.withPlaced
      (.type stop.decl (rule.mapped? stop.decl))
      (stop.parent.bind (progress.ids[·]?))).forest.size := by
    obtain ⟨context, found, -⟩ := Option.map_eq_some_iff.mp kind
    exact ContextForest.lt_size_of_get? found
  refine
    { sound := records.sound.advance rule stop
      length := by simp [Progress.advance, records.length]
      increasing := ?_
      kinds := ?_
      complete := ?_
      tops := ?_
      nested := ?_
      holds := records.holds_advance stop }
  · refine List.pairwise_append.mpr ⟨records.increasing, List.pairwise_singleton _ _, ?_⟩
    intro id mem new fresh
    rw [List.mem_singleton.mp fresh]
    exact records.sound.issued id mem
  · rw [records.zip_advance]
    intro entry mem
    rcases List.mem_append.mp mem with earlier | new
    · have issued := records.sound.issued entry.1 (List.of_mem_zip earlier).1
      rw [grown.kind? issued, records.kinds entry earlier]
    · rw [List.mem_singleton.mp new, later.kind? fresh, kind]
  · intro id decl mapped found
    have found' := old found
    rw [Assembly.kind?_withPlaced] at found'
    split at found'
    · rename_i same
      rw [same]
      exact List.mem_append_right _ List.mem_cons_self
    · exact List.mem_append_left _ (records.complete found')
  · rw [records.zip_advance]
    intro entry mem isTop
    rcases List.mem_append.mp mem with earlier | new
    · exact grown.roots.subset (records.tops entry earlier isTop)
    · rw [List.mem_singleton.mp new] at isTop ⊢
      exact later.roots.subset (top (by rw [isTop]; rfl))
  · rw [records.zip_advance]
    intro entry mem position isNested
    rcases List.mem_append.mp mem with earlier | new
    · obtain ⟨parent, found, above⟩ := records.nested entry earlier position isNested
      exact ⟨parent, getElem?_along rule [stop] found, grown.parent? above⟩
    · rw [List.mem_singleton.mp new] at isNested ⊢
      have within : position < progress.ids.length := by
        rw [records.length]
        exact earlier position isNested
      have found : progress.ids[position]? = some progress.ids[position] :=
        List.getElem?_eq_getElem within
      refine ⟨_, getElem?_along rule [stop] found, later.parent? (below _ ?_)⟩
      rw [isNested]
      exact found

theorem along (records : Records rule stops progress) {more : List Stop}
    (ordered : Stop.Ordered more stops.length) :
    Records rule (stops ++ more) (progress.along rule more) := by
  induction more generalizing stops progress with
  | nil =>
    rw [List.append_nil]
    exact records
  | cons stop rest ih =>
    have next := records.advance stop ordered.1
    have rest' := ih next (by simpa using ordered.2)
    rwa [List.append_assoc, List.singleton_append] at rest'

end Records

end Progress

/-- The records of the survey of a library. -/
theorem Library.records (library : Library) (rule : NamespaceRule) :
    Progress.Records rule library.outline (({} : Progress).along rule library.outline) :=
  (Progress.records_start rule).along (Stop.ordered_ofRoots library.types 0)

/-! ### Reading modules off a forest -/

namespace ContextForest

variable {forest : ContextForest} {id : ContextId}

/-- A module is called by its name. -/
theorem name_of_kind? {name : String} (kind : forest.kind? id = some (.module name)) :
    forest.name id = name := by
  obtain ⟨context, found, same⟩ := Option.map_eq_some_iff.mp kind
  rw [ContextForest.name, nameWithin]
  simp only [found, same]

/-- The methods of a module depend on the kinds of its children alone. -/
theorem moduleMethods_eq_flatMap_kind? (forest : ContextForest) (id : ContextId) :
    forest.moduleMethods id =
      ((forest.children id).map forest.kind?).flatMap fun kind =>
        (kind.map ContextKind.methods).getD [] := by
  rw [moduleMethods, List.flatMap_map]
  congr 1
  funext child
  rw [kind?]
  cases forest.get? child with
  | none => rfl
  | some context => cases context with | mk kind parent children => cases kind <;> rfl

/-- The methods of a module are those of the shares below it. -/
theorem moduleMethods_eq {contributions : List Contribution}
    (shares : (forest.children id).map forest.kind? =
      contributions.map fun contribution => some contribution.kind) :
    forest.moduleMethods id = contributions.flatMap Contribution.methods := by
  rw [moduleMethods_eq_flatMap_kind?, shares, List.flatMap_map]
  rfl

end ContextForest

/-- The contributions to one module are those of the declarations that name
it. -/
theorem Stop.filter_contributions (entries : List (ContextId × Stop)) (name : String) :
    (Stop.contributions entries).filter (·.name = name) =
      (entries.filter fun entry => entry.2.decl.attributes.moduleName = some name).map fun entry =>
        ⟨name, entry.1, entry.2.decl.exportedMethods⟩ := by
  induction entries with
  | nil => rfl
  | cons entry rest ih =>
    rw [Stop.contributions] at ih ⊢
    cases named : entry.2.decl.attributes.moduleName with
    | none => simp [named, ih]
    | some other =>
      by_cases same : other = name
      · simp [named, same, ih]
      · simp [named, same, ih]

/-- The names of the contributions are the names of the modules that the
declarations name. -/
theorem Stop.map_name_contributions (entries : List (ContextId × Stop)) :
    (Stop.contributions entries).map Contribution.name =
      (entries.map Prod.snd).filterMap (·.decl.attributes.moduleName) := by
  rw [Stop.contributions, List.map_filterMap, List.filterMap_map]
  congr 1
  funext entry
  simp only [Function.comp_apply]
  cases entry.2.decl.attributes.moduleName <;> rfl

namespace Progress.Records

variable {rule : NamespaceRule} {stops : List Stop} {progress : Progress}

theorem map_snd_zip (records : Records rule stops progress) :
    (progress.ids.zip stops).map Prod.snd = stops :=
  List.map_snd_zip (Nat.le_of_eq records.length.symm)

/-- The context of a stop is below that of the stop around it. -/
theorem parent?_eq (records : Records rule stops progress) {entry : ContextId × Stop}
    (mem : entry ∈ progress.ids.zip stops) :
    progress.survey.assembly.forest.parent? entry.1 =
      entry.2.parent.bind (progress.ids[·]?) := by
  cases around : entry.2.parent with
  | none => exact records.sound.assembly.forest.root_parentless (records.tops entry mem around)
  | some position =>
    obtain ⟨parent, found, above⟩ := records.nested entry mem position around
    rw [above, Option.bind_some, found]

/-- The contexts of the stops are those that stand for a type. -/
theorem mem_ids_iff (records : Records rule stops progress) {id : ContextId} :
    id ∈ progress.ids ↔
      ∃ decl mapped, progress.survey.assembly.forest.kind? id = some (.type decl mapped) :=
  ⟨records.kind?_of_mem, fun ⟨_, _, kind⟩ => records.complete kind⟩

/-- The modules in order, by the names that they are called by. -/
theorem map_name_moduleIds (records : Records rule stops progress) :
    progress.survey.assembly.moduleIds.map progress.survey.assembly.forest.name =
      (stops.filterMap (·.decl.attributes.moduleName)).eraseDups := by
  have names := records.holds.names
  rw [Stop.map_name_contributions, records.map_snd_zip] at names
  rw [← names, Assembly.moduleIds, List.map_map]
  apply List.map_congr_left
  intro entry mem
  exact ContextForest.name_of_kind? (records.sound.assembly.module_kind? mem)

/-- A module is known exactly when a declaration names it. -/
theorem module?_eq_none_iff (records : Records rule stops progress) (name : String) :
    progress.survey.assembly.module? name = none ↔
      ∀ stop ∈ stops, stop.decl.attributes.moduleName ≠ some name := by
  rw [Assembly.module?_eq_none_iff, ← records.holds.mem_names_iff, Stop.map_name_contributions,
    records.map_snd_zip]
  simp

/-- The shares below a module are those of the declarations that name it. -/
theorem map_kind?_children (records : Records rule stops progress) {name : String}
    {id : ContextId} (known : progress.survey.assembly.module? name = some id) :
    let contributions := ((progress.ids.zip stops).filter fun entry =>
      entry.2.decl.attributes.moduleName = some name).map fun entry =>
        (⟨name, entry.1, entry.2.decl.exportedMethods⟩ : Contribution)
    (progress.survey.assembly.forest.children id).map progress.survey.assembly.forest.kind? =
      contributions.map fun contribution => some contribution.kind := by
  rw [← Stop.filter_contributions]
  exact records.holds.shares (Assembly.module?_mem known)

end Progress.Records

/-- **The modules that a library exports.** The collection of a library by any
target succeeds. The contexts of its types, in the order in which they were
made, are those of the surviving declarations, each below that of the
declaration around it. The modules are those that surviving declarations name,
in the order of first mention. A module that no surviving declaration names has
no methods; any other has the native methods that are not left out of the
declarations that name it, one declaration after the other, and below it one
share for each of these declarations, which comes from its own context. -/
theorem Library.collect_moduleSurfaces {γ : Type} (library : Library) (target : Target γ)
    (options : Options) :
    ∃ (collection : Collection γ) (ids : List ContextId),
      library.collect target options = .ok collection ∧
      let assembly := collection.aggregate.assembly
      let forest := assembly.forest
      let exported (decl : Decl) := decl.methods.filter fun m => m.native && !m.attributes.isIgnored
      ids.length = library.survivors.length ∧ ids.Pairwise (· < ·) ∧
      (∀ id, id ∈ ids ↔ ∃ decl mapped, forest.kind? id = some (.type decl mapped)) ∧
      (∀ entry ∈ ids.zip library.survivors,
        forest.kind? entry.1 = some (.type entry.2 (options.rule.mapped? entry.2))) ∧
      (∀ entry ∈ ids.zip library.outline,
        forest.parent? entry.1 = entry.2.parent.bind (ids[·]?)) ∧
      assembly.moduleIds.map forest.name =
        (library.survivors.filterMap (·.attributes.moduleName)).eraseDups ∧
      ∀ name,
        (assembly.methodsOf? name = none ↔
          ∀ decl ∈ library.survivors, decl.attributes.moduleName ≠ some name) ∧
        ∀ id, assembly.module? name = some id →
          assembly.methodsOf? name = some ((library.survivors.filter fun decl =>
            decl.attributes.moduleName = some name).flatMap exported) ∧
          (forest.children id).map forest.kind? =
            ((ids.zip library.survivors).filter fun entry =>
              entry.2.attributes.moduleName = some name).map fun entry =>
                some (.share entry.1 (exported entry.2)) := by
  let progress := ({} : Progress).along options.rule library.outline
  have records : Progress.Records options.rule library.outline progress :=
    library.records options.rule
  have entries : progress.ids.zip library.survivors =
      (progress.ids.zip library.outline).map fun entry => (entry.1, entry.2.decl) := by
    rw [← library.map_decl_outline, List.zip_map_right]
    rfl
  have length : progress.ids.length = library.survivors.length := by
    rw [records.length, ← library.map_decl_outline, List.length_map]
  have listed : (progress.ids.zip library.survivors).map Prod.snd = library.survivors :=
    List.map_snd_zip (Nat.le_of_eq length.symm)
  have same : ((library.aggregate options).collect target).aggregate.assembly =
      progress.survey.assembly := rfl
  refine ⟨_, progress.ids, library.collect_eq target options, ?_⟩
  rw [same]
  refine ⟨length, records.increasing, fun id => records.mem_ids_iff, ?_,
    fun entry => records.parent?_eq, ?_, fun name => ⟨?_, fun id known => ?_⟩⟩
  · rw [entries]
    intro entry mem
    obtain ⟨entry', mem', rfl⟩ := List.mem_map.mp mem
    exact records.kinds entry' mem'
  · rw [records.map_name_moduleIds, ← library.map_decl_outline, List.filterMap_map]
    rfl
  · rw [Assembly.methodsOf?, Option.map_eq_none_iff, records.module?_eq_none_iff,
      ← library.map_decl_outline]
    simp
  · have shares := records.map_kind?_children known
    have children : (progress.survey.assembly.forest.children id).map
        progress.survey.assembly.forest.kind? =
          ((progress.ids.zip library.survivors).filter fun entry =>
            entry.2.attributes.moduleName = some name).map fun entry =>
              some (.share entry.1 entry.2.exportedMethods) := by
      rw [shares, entries, List.filter_map, List.map_map, List.map_map]
      rfl
    refine ⟨?_, children⟩
    rw [Assembly.methodsOf?, known, Option.map_some, ContextForest.moduleMethods_eq shares,
      List.flatMap_map, ← listed, entries, List.map_map, List.filter_map, List.flatMap_map]
    rfl

end Bindery
