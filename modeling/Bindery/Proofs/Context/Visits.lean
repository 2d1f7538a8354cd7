/-
A survey enters the surviving declarations one after the other.

A declaration survives when neither it nor a declaration around it is left out.
The survey of a library is a recursive walk that may be refused at every step.
This module turns it into a pass over a list that never is: `Library.outline`
lists the surviving declarations in the order of the walk, each with the
position of the one around it, and `Progress.along` enters them. The main
statements are

* `Survey.enter_eq`, that entering a declaration below an issued context
  succeeds, and with which result;
* `Library.survey_eq`, that the survey of a library succeeds, and that it is the
  pass over its outline;
* `Library.collect_eq`, that the target is asked about the result of this pass.

What holds of a survey is then proved step by step along the outline.
-/

import Bindery.Conversion
import Bindery.Proofs.Context.History

namespace Bindery

/-! ### The surviving declarations -/

mutual

/-- The declarations that survive in a declaration, itself first and those
nested in it in the order of declaration. -/
def Decl.survivors : Decl → List Decl
  | ⟨kind, identifier, namespacePath, attributes, members, signature⟩ =>
    if attributes.isIgnored then []
    else ⟨kind, identifier, namespacePath, attributes, members, signature⟩ ::
      Member.survivors members

/-- The declarations that survive among some members. -/
def Member.survivors : List Member → List Decl
  | [] => []
  | .nested decl :: rest => decl.survivors ++ Member.survivors rest
  | .method _ :: rest | .field _ :: rest | .enumMember _ :: rest => Member.survivors rest

end

/-- The declarations that survive in a library, in the order of discovery. -/
def Library.survivors (library : Library) : List Decl :=
  library.types.flatMap Decl.survivors

/-- A surviving declaration, with the position of the one around it. -/
structure Stop where
  parent : Option Nat
  decl : Decl

mutual

/-- The surviving declarations of a declaration as stops of a walk that has
made `start` stops before. -/
def Decl.outline : Decl → Option Nat → Nat → List Stop
  | ⟨kind, identifier, namespacePath, attributes, members, signature⟩, parent, start =>
    if attributes.isIgnored then []
    else ⟨parent, ⟨kind, identifier, namespacePath, attributes, members, signature⟩⟩ ::
      Member.outline members start (start + 1)

/-- The surviving declarations among the members of the declaration at position
`parent`. -/
def Member.outline : List Member → Nat → Nat → List Stop
  | [], _, _ => []
  | .nested decl :: rest, parent, start =>
    decl.outline (some parent) start ++
      Member.outline rest parent (start + (decl.outline (some parent) start).length)
  | .method _ :: rest, parent, start
  | .field _ :: rest, parent, start
  | .enumMember _ :: rest, parent, start => Member.outline rest parent start

end

/-- The stops of a list of declarations. -/
def Stop.ofRoots : List Decl → Nat → List Stop
  | [], _ => []
  | decl :: rest, start =>
    decl.outline none start ++ Stop.ofRoots rest (start + (decl.outline none start).length)

/-- The surviving declarations of a library as stops of a walk. -/
def Library.outline (library : Library) : List Stop :=
  Stop.ofRoots library.types 0

theorem Decl.outline_of_ignored {decl : Decl} (ignored : decl.attributes.isIgnored = true)
    (parent : Option Nat) (start : Nat) : decl.outline parent start = [] := by
  cases decl
  exact if_pos ignored

theorem Decl.outline_of_survives {decl : Decl} (survives : ¬decl.attributes.isIgnored = true)
    (parent : Option Nat) (start : Nat) :
    decl.outline parent start =
      ⟨parent, decl⟩ :: Member.outline decl.members start (start + 1) := by
  cases decl
  exact if_neg survives

mutual

theorem Decl.map_decl_outline (decl : Decl) (parent : Option Nat) (start : Nat) :
    (decl.outline parent start).map Stop.decl = decl.survivors := by
  obtain ⟨kind, identifier, namespacePath, attributes, members, signature⟩ := decl
  rw [Decl.outline, Decl.survivors]
  split
  · rfl
  · rw [List.map_cons, Member.map_decl_outline members start (start + 1)]

theorem Member.map_decl_outline (members : List Member) (parent start : Nat) :
    (Member.outline members parent start).map Stop.decl = Member.survivors members := by
  match members with
  | [] => rfl
  | .nested decl :: rest =>
    rw [Member.outline, Member.survivors, List.map_append, Decl.map_decl_outline,
      Member.map_decl_outline rest]
  | .method _ :: rest => exact Member.map_decl_outline rest parent start
  | .field _ :: rest => exact Member.map_decl_outline rest parent start
  | .enumMember _ :: rest => exact Member.map_decl_outline rest parent start

end

theorem Stop.map_decl_ofRoots (types : List Decl) (start : Nat) :
    (Stop.ofRoots types start).map Stop.decl = types.flatMap Decl.survivors := by
  induction types generalizing start with
  | nil => rfl
  | cons decl rest ih =>
    rw [Stop.ofRoots, List.map_append, Decl.map_decl_outline, ih, List.flatMap_cons]

/-- The stops of a library are its surviving declarations. -/
theorem Library.map_decl_outline (library : Library) :
    library.outline.map Stop.decl = library.survivors :=
  Stop.map_decl_ofRoots library.types 0

/-- The stop around a stop was made before it, where `start` stops were made
before the first. -/
def Stop.Ordered : List Stop → Nat → Prop
  | [], _ => True
  | stop :: rest, start => (∀ position ∈ stop.parent, position < start) ∧
      Stop.Ordered rest (start + 1)

theorem Stop.Ordered.append {first second : List Stop} {start : Nat}
    (ordered : Stop.Ordered first start) (later : Stop.Ordered second (start + first.length)) :
    Stop.Ordered (first ++ second) start := by
  induction first generalizing start with
  | nil => exact later
  | cons stop rest ih =>
    refine ⟨ordered.1, ih ordered.2 ?_⟩
    rwa [List.length_cons, ← Nat.add_assoc, Nat.add_right_comm] at later

mutual

theorem Decl.ordered_outline (decl : Decl) {parent : Option Nat} {start : Nat}
    (earlier : ∀ position ∈ parent, position < start) :
    Stop.Ordered (decl.outline parent start) start := by
  obtain ⟨kind, identifier, namespacePath, attributes, members, signature⟩ := decl
  rw [Decl.outline]
  split
  · trivial
  · exact ⟨earlier, Member.ordered_outline members (Nat.lt_succ_self start)⟩

theorem Member.ordered_outline (members : List Member) {parent start : Nat}
    (earlier : parent < start) : Stop.Ordered (Member.outline members parent start) start := by
  match members with
  | [] => trivial
  | .nested decl :: rest =>
    have inner : ∀ position ∈ some parent, position < start := fun position mem =>
      Option.mem_some.mp mem ▸ earlier
    exact (Decl.ordered_outline decl inner).append
      (Member.ordered_outline rest (Nat.lt_add_right _ earlier))
  | .method _ :: rest => exact Member.ordered_outline rest earlier
  | .field _ :: rest => exact Member.ordered_outline rest earlier
  | .enumMember _ :: rest => exact Member.ordered_outline rest earlier

end

theorem Stop.ordered_ofRoots (types : List Decl) (start : Nat) :
    Stop.Ordered (Stop.ofRoots types start) start := by
  induction types generalizing start with
  | nil => trivial
  | cons decl rest ih =>
    exact (Decl.ordered_outline decl fun _ mem => by cases mem).append (ih _)

/-! ### Entering a declaration -/

namespace Assembly

variable {assembly : Assembly} {name : String} {id origin : ContextId} {methods : List Method}

/-- The assembly with a new context below `parent`, or among the roots. -/
def withPlaced (assembly : Assembly) (kind : ContextKind) : Option ContextId → Assembly
  | some parent =>
    { assembly with forest := (assembly.forest.insert kind).2.link parent assembly.forest.size }
  | none =>
    { assembly with
      forest :=
        { (assembly.forest.insert kind).2 with
          roots := assembly.forest.roots ++ [assembly.forest.size] } }

/-- The assembly with a share of the module of that name, which is registered if
need be. -/
def withAttached (assembly : Assembly) (name : String) (origin : ContextId)
    (methods : List Method) : Assembly :=
  match assembly.module? name with
  | some parent => assembly.withShare parent origin methods
  | none => (assembly.withModule name).withShare assembly.forest.size origin methods

theorem place_insert (sound : assembly.Sound) (kind : ContextKind) {parent : Option ContextId}
    (issued : ∀ id ∈ parent, id < assembly.forest.size) :
    Survey.place (assembly.insert kind).2 parent assembly.forest.size =
      .ok (assembly.withPlaced kind parent) := by
  cases parent with
  | none =>
    have rooted := ContextForest.addRoot_insert sound.forest kind
    simp only [Survey.place, insert, addRoot, bind, Except.bind, rooted]
    rfl
  | some parent =>
    have linked := ContextForest.addChild_insert sound.forest kind (issued parent rfl)
    simp only [Survey.place, insert, addChild, bind, Except.bind, linked]
    rfl

theorem withAttached_eq (assembly : Assembly) (name : String) (origin : ContextId)
    (methods : List Method) :
    assembly.withAttached name origin methods =
      (assembly.withObtained name).2.withShare (assembly.withObtained name).1 origin methods := by
  rw [withAttached, withObtained]
  cases assembly.module? name <;> rfl

theorem attach_eq (sound : assembly.Sound) (name : String) (origin : ContextId)
    (methods : List Method) :
    ∃ id, assembly.attach name origin methods =
      .ok (id, assembly.withAttached name origin methods) := by
  rw [withAttached_eq]
  exact ⟨_, attach_of_sound sound name origin methods⟩

theorem Sound.withPlaced (sound : assembly.Sound) (kind : ContextKind) {parent : Option ContextId}
    (issued : ∀ id ∈ parent, id < assembly.forest.size) :
    (assembly.withPlaced kind parent).Sound ∧
      assembly.forest.Grows (assembly.withPlaced kind parent).forest := by
  cases parent with
  | none =>
    have rooted := ContextForest.addRoot_insert sound.forest kind
    have grows := (ContextForest.Grows.insert assembly.forest kind).trans (.addRoot rooted)
    exact ⟨sound.withForest ((sound.forest.insert kind).addRoot rooted) grows, grows⟩
  | some parent =>
    have linked := ContextForest.addChild_insert sound.forest kind (issued parent rfl)
    have grows := (ContextForest.Grows.insert assembly.forest kind).trans (.addChild linked)
    exact ⟨sound.withForest ((sound.forest.insert kind).addChild linked) grows, grows⟩

theorem lt_size_withPlaced (assembly : Assembly) (kind : ContextKind)
    (parent : Option ContextId) :
    assembly.forest.size < (assembly.withPlaced kind parent).forest.size := by
  cases parent <;>
    simp [withPlaced, ContextForest.size, ContextForest.insert, ContextForest.link]

theorem Sound.withAttached (sound : assembly.Sound) (name : String) (origin : ContextId)
    (methods : List Method) :
    (assembly.withAttached name origin methods).Sound ∧
      assembly.forest.Grows (assembly.withAttached name origin methods).forest := by
  rw [withAttached_eq]
  exact sound.withObtainedShare name origin methods

end Assembly

namespace Survey

variable {survey : Survey}

@[simp] theorem assembly_recordNamespace (survey : Survey) (namespacePath : String) :
    (survey.recordNamespace namespacePath).assembly = survey.assembly := by
  unfold recordNamespace
  split <;> rfl

@[simp] theorem assembly_catalogue (survey : Survey) (decl : Decl) :
    (survey.catalogue decl).assembly = survey.assembly := by
  unfold catalogue
  split <;> rfl

/-- The survey with a context for the declaration below `parent`, and the
declaration noted and filed. -/
def withType (rule : NamespaceRule) (survey : Survey) (decl : Decl) (parent : Option ContextId) :
    Survey :=
  ({ survey with
      assembly := survey.assembly.withPlaced (.type decl (rule.mapped? decl)) parent
    }.recordNamespace decl.namespacePath).catalogue decl

/-- The survey with a declaration entered below `parent`. -/
def entered (rule : NamespaceRule) (survey : Survey) (decl : Decl) (parent : Option ContextId) :
    Survey :=
  let noted := survey.withType rule decl parent
  match decl.attributes.moduleName with
  | none => noted
  | some name =>
    { noted with
      assembly :=
        noted.assembly.withAttached name survey.assembly.forest.size decl.exportedMethods }

@[simp] theorem assembly_withType (rule : NamespaceRule) (survey : Survey) (decl : Decl)
    (parent : Option ContextId) :
    (survey.withType rule decl parent).assembly =
      survey.assembly.withPlaced (.type decl (rule.mapped? decl)) parent := by
  rw [withType, assembly_catalogue, assembly_recordNamespace]

/-- The assembly after a declaration was entered: its context is placed, and its
methods are attached to the module that it names. -/
theorem assembly_entered (rule : NamespaceRule) (survey : Survey) (decl : Decl)
    (parent : Option ContextId) :
    (survey.entered rule decl parent).assembly =
      match decl.attributes.moduleName with
      | none => survey.assembly.withPlaced (.type decl (rule.mapped? decl)) parent
      | some name =>
        (survey.assembly.withPlaced (.type decl (rule.mapped? decl)) parent).withAttached
          name survey.assembly.forest.size decl.exportedMethods := by
  unfold entered
  cases decl.attributes.moduleName <;> simp

/-- Entering a declaration below an issued context succeeds. -/
theorem enter_eq (rule : NamespaceRule) (decl : Decl) (sound : survey.assembly.Sound)
    {parent : Option ContextId}
    (issued : ∀ id ∈ parent, id < survey.assembly.forest.size) :
    enter rule decl parent survey =
      .ok (survey.assembly.forest.size, survey.entered rule decl parent) := by
  have placed := Assembly.place_insert sound (.type decl (rule.mapped? decl)) issued
  have noted : ({ survey with
      assembly := survey.assembly.withPlaced (.type decl (rule.mapped? decl)) parent
    }.recordNamespace decl.namespacePath).catalogue decl = survey.withType rule decl parent := rfl
  have fresh : (survey.assembly.insert (.type decl (rule.mapped? decl))).1 =
      survey.assembly.forest.size := rfl
  simp only [enter, fresh, placed, bind, Except.bind, noted, attachModule, entered]
  cases named : decl.attributes.moduleName with
  | none => rfl
  | some name =>
    have sound' : (survey.withType rule decl parent).assembly.Sound := by
      rw [assembly_withType]
      exact (sound.withPlaced _ issued).1
    obtain ⟨id, attached⟩ := Assembly.attach_eq sound' name survey.assembly.forest.size
      decl.exportedMethods
    simp only [attached]
    rfl

/-- A trace makes no difference to a survey: the share of a declaration has the
context for its origin in which the declaration has just been placed. -/
theorem attachTraced_withType (rule : NamespaceRule) (decl : Decl) (sound : survey.assembly.Sound)
    {parent : Option ContextId} (issued : ∀ id ∈ parent, id < survey.assembly.forest.size)
    (traced : Bool) (name : String) (methods : List Method) :
    let origin := survey.assembly.forest.size
    (survey.withType rule decl parent).assembly.attachTraced traced name origin methods =
      ((survey.withType rule decl parent).assembly.attach name origin methods).map
        fun added => .attached added.1 added.2 := by
  rw [assembly_withType]
  exact Assembly.attachTraced_of_issued (sound.withPlaced _ issued).1
    (survey.assembly.lt_size_withPlaced _ parent) traced name methods

theorem sound_entered (rule : NamespaceRule) (decl : Decl) (sound : survey.assembly.Sound)
    {parent : Option ContextId}
    (issued : ∀ id ∈ parent, id < survey.assembly.forest.size) :
    (survey.entered rule decl parent).assembly.Sound ∧
      survey.assembly.forest.Grows (survey.entered rule decl parent).assembly.forest := by
  obtain ⟨sound', grows⟩ := sound.withPlaced (.type decl (rule.mapped? decl)) issued
  rw [assembly_entered]
  cases decl.attributes.moduleName with
  | none => exact ⟨sound', grows⟩
  | some name =>
    obtain ⟨sound'', grows'⟩ :=
      sound'.withAttached name survey.assembly.forest.size decl.exportedMethods
    exact ⟨sound'', grows.trans grows'⟩

end Survey

/-! ### The pass over an outline -/

/-- A survey on its way along an outline, with the contexts of the stops that
were made. -/
structure Progress where
  ids : List ContextId := []
  survey : Survey := {}

namespace Progress

variable {progress : Progress}

/-- Makes one more stop: its declaration is entered below the context of the
stop around it. -/
def advance (rule : NamespaceRule) (progress : Progress) (stop : Stop) : Progress :=
  { ids := progress.ids ++ [progress.survey.assembly.forest.size]
    survey := progress.survey.entered rule stop.decl (stop.parent.bind (progress.ids[·]?)) }

/-- Makes the stops of a list, one after the other. -/
def along (rule : NamespaceRule) (progress : Progress) (stops : List Stop) : Progress :=
  stops.foldl (advance rule) progress

theorem along_append (rule : NamespaceRule) (progress : Progress) (first second : List Stop) :
    progress.along rule (first ++ second) = (progress.along rule first).along rule second :=
  List.foldl_append

theorem prefix_along (rule : NamespaceRule) (progress : Progress) (stops : List Stop) :
    progress.ids <+: (progress.along rule stops).ids := by
  induction stops generalizing progress with
  | nil => exact List.prefix_refl _
  | cons stop rest ih => exact (List.prefix_append _ _).trans (ih (progress.advance rule stop))

/-- The context of a stop stays the context of that stop. -/
theorem getElem?_along (rule : NamespaceRule) (stops : List Stop) {position : Nat}
    {id : ContextId} (here : progress.ids[position]? = some id) :
    (progress.along rule stops).ids[position]? = some id := by
  obtain ⟨more, same⟩ := prefix_along rule progress stops
  obtain ⟨within, -⟩ := List.getElem?_eq_some_iff.mp here
  rw [← same, List.getElem?_append_left within, here]

theorem length_along (rule : NamespaceRule) (progress : Progress) (stops : List Stop) :
    (progress.along rule stops).ids.length = progress.ids.length + stops.length := by
  induction stops generalizing progress with
  | nil => rfl
  | cons stop rest ih =>
    have tail := ih (progress.advance rule stop)
    simp only [advance, List.length_append, List.length_singleton] at tail
    simp only [along, List.foldl_cons, List.length_cons]
    exact tail.trans (by omega)

/-- The assembly is sound, and the contexts of all stops are issued. -/
structure Sound (progress : Progress) : Prop where
  assembly : progress.survey.assembly.Sound
  issued : ∀ id ∈ progress.ids, id < progress.survey.assembly.forest.size

theorem sound_start : ({} : Progress).Sound :=
  ⟨Assembly.sound_empty, fun _ mem => absurd mem List.not_mem_nil⟩

namespace Sound

theorem parent_issued (sound : progress.Sound) (parent : Option Nat) :
    ∀ id ∈ parent.bind (progress.ids[·]?), id < progress.survey.assembly.forest.size := by
  intro id mem
  obtain ⟨position, -, found⟩ := Option.bind_eq_some_iff.mp (Option.mem_def.mp mem)
  exact sound.issued id (List.mem_of_getElem? found)

theorem grows_advance (sound : progress.Sound) (rule : NamespaceRule) (stop : Stop) :
    progress.survey.assembly.forest.Grows (progress.advance rule stop).survey.assembly.forest :=
  (Survey.sound_entered rule stop.decl sound.assembly (sound.parent_issued stop.parent)).2

/-- The number of the context of a stop is issued by making it. -/
theorem fresh_issued (sound : progress.Sound) (rule : NamespaceRule) (stop : Stop) :
    progress.survey.assembly.forest.size <
      (progress.advance rule stop).survey.assembly.forest.size := by
  have issued := sound.parent_issued stop.parent
  obtain ⟨sound', -⟩ :=
    sound.assembly.withPlaced (.type stop.decl (rule.mapped? stop.decl)) issued
  have placed := progress.survey.assembly.lt_size_withPlaced
    (.type stop.decl (rule.mapped? stop.decl)) (stop.parent.bind (progress.ids[·]?))
  rw [advance, Survey.assembly_entered]
  cases stop.decl.attributes.moduleName with
  | none => exact placed
  | some name => exact (sound'.withAttached name _ _).2.lt_size placed

theorem advance (sound : progress.Sound) (rule : NamespaceRule) (stop : Stop) :
    (progress.advance rule stop).Sound where
  assembly :=
    (Survey.sound_entered rule stop.decl sound.assembly (sound.parent_issued stop.parent)).1
  issued := by
    intro id mem
    rcases List.mem_append.mp mem with old | new
    · exact (sound.grows_advance rule stop).lt_size (sound.issued id old)
    · rw [List.mem_singleton.mp new]
      exact sound.fresh_issued rule stop

theorem along (sound : progress.Sound) (rule : NamespaceRule) (stops : List Stop) :
    (progress.along rule stops).Sound := by
  induction stops generalizing progress with
  | nil => exact sound
  | cons stop rest ih => exact ih (sound.advance rule stop)

end Sound

end Progress

mutual

/-- The visit of a declaration makes the stops of its outline. -/
theorem Decl.visit_eq (rule : NamespaceRule) (decl : Decl) {progress : Progress}
    (sound : progress.Sound) (parent : Option Nat) :
    decl.visit rule (parent.bind (progress.ids[·]?)) progress.survey =
      .ok (progress.along rule (decl.outline parent progress.ids.length)).survey := by
  obtain ⟨kind, identifier, namespacePath, attributes, members, signature⟩ := decl
  rw [Decl.visit, Decl.outline]
  by_cases ignored : attributes.isIgnored = true
  · rw [if_pos ignored, if_pos ignored]
    rfl
  · rw [if_neg ignored, if_neg ignored]
    let decl : Decl := ⟨kind, identifier, namespacePath, attributes, members, signature⟩
    have entered := Survey.enter_eq rule decl sound.assembly
      (sound.parent_issued parent)
    have next := sound.advance rule ⟨parent, decl⟩
    have here : (progress.advance rule ⟨parent, decl⟩).ids[progress.ids.length]? =
        some progress.survey.assembly.forest.size := by
      simp [Progress.advance]
    have length : (progress.advance rule ⟨parent, decl⟩).ids.length = progress.ids.length + 1 := by
      simp [Progress.advance]
    have rest := Member.visitAll_eq rule members next here
    rw [length] at rest
    simp only [decl, bind, Except.bind] at entered ⊢
    rw [entered]
    exact rest

/-- The visit of the members of the declaration at a position makes the stops
of their outline. -/
theorem Member.visitAll_eq (rule : NamespaceRule) (members : List Member) {progress : Progress}
    (sound : progress.Sound) {position : Nat} {id : ContextId}
    (here : progress.ids[position]? = some id) :
    Member.visitAll rule members id progress.survey =
      .ok (progress.along rule (Member.outline members position progress.ids.length)).survey := by
  match members with
  | [] => rfl
  | .nested decl :: rest =>
    have first := Decl.visit_eq rule decl sound (some position)
    rw [Option.bind_some, here] at first
    have next := sound.along rule (decl.outline (some position) progress.ids.length)
    have second := Member.visitAll_eq rule rest next (Progress.getElem?_along rule _ here)
    rw [Progress.length_along] at second
    rw [Member.visitAll, first]
    simp only [bind, Except.bind]
    rw [second, Member.outline, Progress.along_append]
  | .method _ :: rest => exact Member.visitAll_eq rule rest sound here
  | .field _ :: rest => exact Member.visitAll_eq rule rest sound here
  | .enumMember _ :: rest => exact Member.visitAll_eq rule rest sound here

end

/-- The visit of a list of declarations makes the stops of the list. -/
theorem Survey.visitRoots_eq (rule : NamespaceRule) (types : List Decl) {progress : Progress}
    (sound : progress.Sound) :
    Survey.visitRoots rule types progress.survey =
      .ok (progress.along rule (Stop.ofRoots types progress.ids.length)).survey := by
  induction types generalizing progress with
  | nil => rfl
  | cons decl rest ih =>
    have first := Decl.visit_eq rule decl sound none
    have second := ih (sound.along rule (decl.outline none progress.ids.length))
    rw [Progress.length_along] at second
    rw [Option.bind_none] at first
    rw [Survey.visitRoots, first]
    simp only [bind, Except.bind]
    rw [second, Stop.ofRoots, Progress.along_append]

/-- **The survey of a library is never refused**, and it is the pass over the
outline of the library. -/
theorem Library.survey_eq (library : Library) (rule : NamespaceRule) :
    library.survey rule = .ok (({} : Progress).along rule library.outline).survey :=
  Survey.visitRoots_eq rule library.types Progress.sound_start

/-! ### Collections and conversions -/

/-- What is known of a library when it has been surveyed. -/
def Library.overview (library : Library) (options : Options) : Overview :=
  { toSurvey := (({} : Progress).along options.rule library.outline).survey
    libraryName := library.name
    rule := options.rule }

variable {γ : Type}

/-- All that is known of a library before a target is asked. -/
def Library.aggregate (library : Library) (options : Options) : Aggregate γ :=
  { toOverview := library.overview options }

/-- **The collection of a library always succeeds.** -/
theorem Library.collect_eq (library : Library) (target : Target γ) (options : Options) :
    library.collect target options = .ok ((library.aggregate options).collect target) := by
  rw [Library.collect, Library.survey_eq]
  rfl

/-- What a library is converted to, when nothing is found against it. -/
theorem Library.convertBy_eq (library : Library) (target : Target γ) (options : Options)
    (render : Collection γ → Option Result) :
    library.convertBy target options render =
      if !library.misuses.isEmpty && !options.ignoreMisuses then .error (.invalid library.misuses)
      else (render ((library.aggregate options).collect target)).elim (.error .aborted) .ok := by
  simp only [convertBy, collect_eq]
  cases render ((library.aggregate options).collect target) <;> rfl

theorem Library.convert_eq [ContentGenerator γ] (library : Library) (target : Target γ)
    (options : Options) :
    library.convert target options =
      if !library.misuses.isEmpty && !options.ignoreMisuses then .error (.invalid library.misuses)
      else (((library.aggregate options).collect target).render target options).elim
        (.error .aborted) .ok :=
  library.convertBy_eq target options (·.render target options)

end Bindery
