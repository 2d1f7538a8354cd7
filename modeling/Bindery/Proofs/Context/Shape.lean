/-
The shape of the forest of a library.

The contexts of a library are numbered in the order of its surviving
declarations (`Library.numbered`). Read along the trees of declarations instead,
the same numbers say where every context is: `typeContexts` lists the contexts
of the surviving ones of some declarations that stand side by side, and
`rootContexts` adds the modules that are first named in each of them. The main
statements are

* `Stop.nests_ofRoots`, that the stops below a stop are the nested declarations
  that survive;
* `Stop.gather_rootKinds_ofRoots`, that the roots are those of `rootContexts`;
* `Library.collect_shape`, the shape of the collection of a library by any
  target.
-/

import Bindery.Proofs.Context.Numbering
import Bindery.Proofs.Header.Completion

namespace Bindery

/-! ### Contexts in a tree -/

/-- The contexts of the surviving ones of some declarations that stand side by
side, with their numbers, where the declarations of `before` were entered
before. -/
def typeContexts (rule : NamespaceRule) (before : List Decl) :
    List Decl → List (ContextId × ContextKind)
  | [] => []
  | decl :: rest =>
    if decl.attributes.isIgnored then typeContexts rule before rest
    else (contextCount before, .type decl (rule.mapped? decl)) ::
      typeContexts rule (before ++ decl.survivors) rest

/-- The contexts of the surviving ones of some declarations at the top, with
their numbers, each followed by the contexts of the modules that are first named
in it. -/
def rootContexts (rule : NamespaceRule) (module? : String → Option ContextId)
    (before : List Decl) : List Decl → List (Option ContextId × ContextKind)
  | [] => []
  | decl :: rest =>
    if decl.attributes.isIgnored then rootContexts rule module? before rest
    else (some (contextCount before), .type decl (rule.mapped? decl)) ::
      ((newModules before decl.survivors).map fun name => (module? name, .module name)) ++
        rootContexts rule module? (before ++ decl.survivors) rest

namespace Stop

variable {rule : NamespaceRule} {before : List Decl} {stops : List Stop}

/-- The context of a stop with its kind. -/
def typeContext (rule : NamespaceRule) (before : List Decl) (stop : Stop) :
    List (ContextId × ContextKind) :=
  [(contextCount before, .type stop.decl (rule.mapped? stop.decl))]

/-- The roots that are made at a stop, with their kinds. -/
def rootKinds (rule : NamespaceRule) (module? : String → Option ContextId) (before : List Decl)
    (stop : Stop) : List (Option ContextId × ContextKind) :=
  (atTop (typeContext rule) before stop).map (fun entry => (some entry.1, entry.2)) ++
    (newModules before [stop.decl]).map fun name => (module? name, .module name)

theorem gather_below_eq_nil {α : Type} {pick : List Decl → Stop → List α} {position : Nat}
    (other : ∀ stop ∈ stops, stop.parent ≠ some position) :
    gather (below position pick) before stops = [] :=
  gather_eq_nil fun _ stop mem => if_neg (other stop mem)

end Stop

/-! ### The stops below a stop -/

mutual

/-- The stops of a declaration are below the one around it or below one of
themselves. -/
theorem Decl.parent_outline (decl : Decl) {parent : Option Nat} {start : Nat} {stop : Stop}
    (mem : stop ∈ decl.outline parent start) :
    stop.parent = parent ∨ ∃ position, stop.parent = some position ∧ start ≤ position := by
  obtain ⟨kind, identifier, namespacePath, attributes, members, signature⟩ := decl
  rw [Decl.outline] at mem
  split at mem
  · exact absurd mem List.not_mem_nil
  · rcases List.mem_cons.mp mem with rfl | inner
    · exact .inl rfl
    · rcases Member.parent_outline members inner with here | ⟨position, around, later⟩
      · exact .inr ⟨start, here, Nat.le_refl _⟩
      · exact .inr ⟨position, around, Nat.le_of_succ_le later⟩

theorem Member.parent_outline (members : List Member) {parent start : Nat} {stop : Stop}
    (mem : stop ∈ Member.outline members parent start) :
    stop.parent = some parent ∨ ∃ position, stop.parent = some position ∧ start ≤ position := by
  match members with
  | [] => exact absurd mem List.not_mem_nil
  | .nested decl :: rest =>
    rcases List.mem_append.mp mem with first | second
    · exact Decl.parent_outline decl first
    · rcases Member.parent_outline rest second with here | ⟨position, around, later⟩
      · exact .inl here
      · exact .inr ⟨position, around, Nat.le_of_add_right_le later⟩
  | .method _ :: rest => exact Member.parent_outline rest mem
  | .field _ :: rest => exact Member.parent_outline rest mem
  | .enumMember _ :: rest => exact Member.parent_outline rest mem

end

/-- The same of a stop that is known to be below another one. -/
theorem Member.position_outline {members : List Member} {parent start position : Nat}
    {stop : Stop} (mem : stop ∈ Member.outline members parent start)
    (around : stop.parent = some position) : position = parent ∨ start ≤ position := by
  rcases Member.parent_outline members mem with here | ⟨other, here, later⟩
  · exact .inl (Option.some.inj (around.symm.trans here))
  · exact .inr (Option.some.inj (around.symm.trans here) ▸ later)

theorem Stop.parent_ofRoots (types : List Decl) {start : Nat} {stop : Stop}
    (mem : stop ∈ Stop.ofRoots types start) :
    stop.parent = none ∨ ∃ position, stop.parent = some position ∧ start ≤ position := by
  induction types generalizing start with
  | nil => exact absurd mem List.not_mem_nil
  | cons decl rest ih =>
    rcases List.mem_append.mp mem with first | second
    · exact Decl.parent_outline decl first
    · rcases ih second with top | ⟨position, around, later⟩
      · exact .inl top
      · exact .inr ⟨position, around, Nat.le_of_add_right_le later⟩

namespace Stop

variable {rule : NamespaceRule} {first second : List Stop} {start : Nat}

theorem Ordered.parent_lt (ordered : Ordered first start) {stop : Stop} (mem : stop ∈ first)
    {position : Nat} (around : stop.parent = some position) : position < start + first.length := by
  induction first generalizing start with
  | nil => exact absurd mem List.not_mem_nil
  | cons head rest ih =>
    rw [List.length_cons]
    rcases List.mem_cons.mp mem with rfl | later
    · have earlier := ordered.1 position around
      omega
    · have bound := ih ordered.2 later
      omega

/-- The stops below each stop are the nested declarations that survive, where
`start` stops were made before the first. -/
def Nests (rule : NamespaceRule) (stops : List Stop) (start : Nat) : Prop :=
  ∀ (before : List Decl) {k : Nat} {stop : Stop}, stops[k]? = some stop →
    gather (below (start + k) (typeContext rule)) before stops =
      typeContexts rule (before ++ (stops.map Stop.decl).take (k + 1)) stop.decl.nestedTypes

/-- Stops that follow change nothing below the stops before them, unless they
are below one of these. -/
theorem Nests.append (nests : Nests rule first start)
    (next : Nests rule second (start + first.length)) (ordered : Ordered first start)
    (apart : ∀ stop ∈ second, ∀ position, stop.parent = some position →
      position < start ∨ start + first.length ≤ position) :
    Nests rule (first ++ second) start := by
  intro before k stop here
  rw [gather_append, List.map_append]
  rw [List.getElem?_append] at here
  split at here
  · rename_i within
    have elsewhere : ∀ other ∈ second, other.parent ≠ some (start + k) := by
      intro other mem around
      rcases apart other mem _ around with early | late <;> omega
    rw [nests before here, gather_below_eq_nil elsewhere, List.append_nil,
      List.take_append_of_le_length (by rw [List.length_map]; omega)]
  · rename_i beyond
    have elsewhere : ∀ other ∈ first, other.parent ≠ some (start + k) := by
      intro other mem around
      have bound := ordered.parent_lt mem around
      omega
    have position : start + first.length + (k - first.length) = start + k := by omega
    have taken : (first.map Stop.decl ++ second.map Stop.decl).take (k + 1) =
        first.map Stop.decl ++ (second.map Stop.decl).take (k - first.length + 1) := by
      have whole : (first.map Stop.decl).length ≤ k + 1 := by rw [List.length_map]; omega
      have count : k + 1 - first.length = k - first.length + 1 := by omega
      rw [List.take_append, List.take_of_length_le whole, List.length_map, count]
    have found := next (before ++ first.map Stop.decl) here
    rw [position, List.append_assoc] at found
    rw [gather_below_eq_nil elsewhere, List.nil_append, found, taken]

end Stop

/-- The declaration that a member is. -/
def Member.nested? : Member → Option Decl
  | .nested decl => some decl
  | .method _ | .field _ | .enumMember _ => none

theorem Decl.nestedTypes_eq (decl : Decl) :
    decl.nestedTypes = decl.members.filterMap Member.nested? := by
  rw [Decl.nestedTypes]
  congr 1
  funext member
  cases member <;> rfl

/-- The stops that are below a declaration are its members. -/
theorem Member.gather_below_outline (rule : NamespaceRule) (members : List Member)
    {position start : Nat} (earlier : position < start) (before : List Decl) :
    Stop.gather (Stop.below position (Stop.typeContext rule)) before
        (Member.outline members position start) =
      typeContexts rule before (members.filterMap Member.nested?) := by
  induction members generalizing start before with
  | nil => rfl
  | cons member rest ih =>
    cases member with
    | method m => exact ih earlier before
    | field f => exact ih earlier before
    | enumMember e => exact ih earlier before
    | nested decl =>
      have listed : (Member.nested decl :: rest).filterMap Member.nested? =
          decl :: rest.filterMap Member.nested? := rfl
      rw [Member.outline, Stop.gather_append, Decl.map_decl_outline, ih (by omega), listed,
        typeContexts]
      by_cases ignored : decl.attributes.isIgnored = true
      · rw [if_pos ignored, Decl.outline_of_ignored ignored, ← Decl.map_decl_outline decl none 0,
          Decl.outline_of_ignored ignored]
        simp [Stop.gather]
      · have deeper : ∀ stop ∈ Member.outline decl.members start (start + 1),
            stop.parent ≠ some position := by
          intro stop mem around
          rcases Member.position_outline mem around with here | later <;> omega
        rw [if_neg ignored, Decl.outline_of_survives ignored, Stop.gather,
          Stop.gather_below_eq_nil deeper, Stop.below, if_pos rfl]
        rfl

mutual

theorem Decl.nests_outline (rule : NamespaceRule) (decl : Decl) {parent : Option Nat}
    {start : Nat} (earlier : ∀ position ∈ parent, position < start) :
    Stop.Nests rule (decl.outline parent start) start := by
  obtain ⟨kind, identifier, namespacePath, attributes, members, signature⟩ := decl
  rw [Decl.outline]
  split
  · intro before k stop here
    simp at here
  · intro before k stop here
    let decl : Decl := ⟨kind, identifier, namespacePath, attributes, members, signature⟩
    have inner := Member.nests_outline rule members (Nat.lt_succ_self start)
    have other : parent ≠ some (start + k) := by
      intro around
      have bound := earlier _ around
      omega
    rw [Stop.gather, Stop.below, if_neg other, List.nil_append]
    cases k with
    | zero =>
      obtain rfl : ⟨parent, decl⟩ = stop := Option.some.inj here
      rw [Decl.nestedTypes_eq]
      exact Member.gather_below_outline rule members (Nat.lt_succ_self start) _
    | succ k =>
      have found := inner (before ++ [decl]) here
      rw [Nat.succ_add, List.append_assoc] at found
      exact found

theorem Member.nests_outline (rule : NamespaceRule) (members : List Member) {parent start : Nat}
    (earlier : parent < start) :
    Stop.Nests rule (Member.outline members parent start) start := by
  match members with
  | [] =>
    intro before k stop here
    simp [Member.outline] at here
  | .nested decl :: rest =>
    have inner : ∀ position ∈ some parent, position < start := fun position mem =>
      Option.mem_some.mp mem ▸ earlier
    refine (Decl.nests_outline rule decl inner).append
      (Member.nests_outline rule rest (Nat.lt_add_right _ earlier))
      (Decl.ordered_outline decl inner) ?_
    intro stop mem position around
    rcases Member.position_outline mem around with rfl | later
    · exact .inl earlier
    · exact .inr later
  | .method _ :: rest => exact Member.nests_outline rule rest earlier
  | .field _ :: rest => exact Member.nests_outline rule rest earlier
  | .enumMember _ :: rest => exact Member.nests_outline rule rest earlier

end

/-- **The stops below a stop are the nested declarations that survive.** -/
theorem Stop.nests_ofRoots (rule : NamespaceRule) (types : List Decl) (start : Nat) :
    Nests rule (ofRoots types start) start := by
  induction types generalizing start with
  | nil =>
    intro before k stop here
    simp [ofRoots] at here
  | cons decl rest ih =>
    have top : ∀ position ∈ (none : Option Nat), position < start := fun _ mem => by cases mem
    refine (Decl.nests_outline rule decl top).append (ih _) (Decl.ordered_outline decl top) ?_
    intro stop mem position around
    rcases parent_ofRoots rest mem with here | ⟨other, here, later⟩
    · rw [around] at here
      cases here
    · rw [around, Option.some.injEq] at here
      exact .inr (here ▸ later)

/-! ### The roots -/

namespace Stop

variable {rule : NamespaceRule} {module? : String → Option ContextId}

/-- Stops that are below another one make no roots but modules. -/
theorem gather_rootKinds_of_nested {stops : List Stop}
    (nested : ∀ stop ∈ stops, stop.parent ≠ none) (before : List Decl) :
    gather (rootKinds rule module?) before stops =
      (newModules before (stops.map Stop.decl)).map fun name => (module? name, .module name) := by
  induction stops generalizing before with
  | nil => rfl
  | cons stop rest ih =>
    have later := ih (fun stop mem => nested stop (List.mem_cons_of_mem _ mem))
      (before ++ [stop.decl])
    rw [gather, later, rootKinds, atTop, if_neg (nested stop List.mem_cons_self), List.map_cons,
      newModules_cons before stop.decl (rest.map Stop.decl), List.map_append]
    rfl

/-- **The roots are the declarations at the top that survive, each with the
modules that are first named in it.** -/
theorem gather_rootKinds_ofRoots (types : List Decl) (start : Nat) (before : List Decl) :
    gather (rootKinds rule module?) before (ofRoots types start) =
      rootContexts rule module? before types := by
  induction types generalizing start before with
  | nil => rfl
  | cons decl rest ih =>
    rw [ofRoots, gather_append, Decl.map_decl_outline, ih, rootContexts]
    have survivors := Decl.map_decl_outline decl none start
    by_cases ignored : decl.attributes.isIgnored = true
    · rw [Decl.outline_of_ignored ignored] at survivors ⊢
      rw [if_pos ignored, ← survivors]
      simp [gather]
    · have nested : ∀ stop ∈ Member.outline decl.members start (start + 1),
          stop.parent ≠ none := by
        intro stop mem top
        rcases Member.parent_outline decl.members mem with here | ⟨position, here, -⟩
        · rw [top] at here
          cases here
        · rw [top] at here
          cases here
      rw [Decl.outline_of_survives ignored] at survivors ⊢
      rw [if_neg ignored, gather, gather_rootKinds_of_nested nested, ← survivors, List.map_cons,
        newModules_cons, List.map_append, rootKinds, atTop, if_pos rfl]
      simp [typeContext]

end Stop

/-! ### The survey of a library -/

theorem Stop.getElem?_gather_context (before : List Decl) (first : List Stop) (stop : Stop)
    (rest : List Stop) :
    (gather context before (first ++ stop :: rest))[first.length]? =
      some (contextCount (before ++ first.map Stop.decl)) := by
  induction first generalizing before with
  | nil => simp [gather, context]
  | cons head others ih => simpa [gather, context] using ih (before ++ [head.decl])

namespace Progress.Numbered

variable {rule : NamespaceRule} {stops first rest : List Stop} {stop : Stop} {progress : Progress}

theorem ids_at (numbered : Numbered stops progress) (split : stops = first ++ stop :: rest) :
    progress.ids[first.length]? = some (contextCount (first.map Stop.decl)) := by
  rw [numbered.ids, split]
  exact Stop.getElem?_gather_context [] first stop rest

/-- The context of a stop is that of its declaration. -/
theorem kind?_at (numbered : Numbered stops progress) (records : Records rule stops progress)
    (split : stops = first ++ stop :: rest) :
    progress.survey.assembly.forest.kind? (contextCount (first.map Stop.decl)) =
      some (.type stop.decl (rule.mapped? stop.decl)) := by
  have here : stops[first.length]? = some stop := by simp [split]
  refine records.kinds (contextCount (first.map Stop.decl), stop) ?_
  exact List.mem_of_getElem?
    (List.getElem?_zip_eq_some.mpr ⟨numbered.ids_at split, here⟩)

/-- A module that is registered at a stop is known by its name. -/
theorem module?_at (numbered : Numbered stops progress) (records : Records rule stops progress)
    (split : stops = first ++ stop :: rest) {name : String}
    (new : name ∈ newModules (first.map Stop.decl) [stop.decl]) :
    progress.survey.assembly.module? name = some (contextCount (first.map Stop.decl) + 1) ∧
      progress.survey.assembly.forest.kind? (contextCount (first.map Stop.decl) + 1) =
        some (.module name) := by
  have mem : (name, contextCount (first.map Stop.decl) + 1) ∈ progress.survey.assembly.modules := by
    rw [numbered.modules]
    exact Stop.mem_gather.mpr ⟨first, stop, rest, split, List.mem_map_of_mem new⟩
  have sound := records.sound.assembly
  exact ⟨sound.module?_of_mem mem, sound.module_kind? mem⟩

/-- The contexts below that of a stop, with their kinds. -/
theorem kinds_children (numbered : Numbered stops progress) (records : Records rule stops progress)
    {position : Nat} {id : ContextId} (here : progress.ids[position]? = some id) :
    (progress.survey.assembly.forest.children id).map (fun child =>
        (child, progress.survey.assembly.forest.kind? child)) =
      (Stop.gather (Stop.below position (Stop.typeContext rule)) [] stops).map fun entry =>
        (entry.1, some entry.2) := by
  rw [numbered.children here, Stop.map_gather, Stop.map_gather]
  refine Stop.gather_congr fun first stop rest split => ?_
  rw [Stop.below, Stop.below]
  split
  · simp [Stop.context, Stop.typeContext, numbered.kind?_at records split]
  · rfl

/-- The roots, with their kinds. -/
theorem kinds_roots (numbered : Numbered stops progress) (records : Records rule stops progress) :
    progress.survey.assembly.forest.roots.map (fun id =>
        (some id, progress.survey.assembly.forest.kind? id)) =
      (Stop.gather (Stop.rootKinds rule progress.survey.assembly.module?) [] stops).map fun entry =>
        (entry.1, some entry.2) := by
  rw [numbered.roots, Stop.map_gather, Stop.map_gather]
  refine Stop.gather_congr fun first stop rest split => ?_
  rw [List.nil_append, Stop.newRoots, Stop.rootKinds, List.map_append, List.map_append]
  congr 1
  · rw [Stop.atTop, Stop.atTop]
    split
    · simp [Stop.context, Stop.typeContext, numbered.kind?_at records split]
    · rfl
  · rw [Stop.registered, List.map_map, List.map_map, List.map_map]
    apply List.map_congr_left
    intro name new
    obtain ⟨known, kind⟩ := numbered.module?_at records split new
    simp [known, kind]

/-- Every context of a type is that of a stop. -/
theorem exists_of_kind? (numbered : Numbered stops progress) (records : Records rule stops progress)
    {id : ContextId} {decl : Decl} {mapped : Option String}
    (kind : progress.survey.assembly.forest.kind? id = some (.type decl mapped)) :
    ∃ first stop rest, stops = first ++ stop :: rest ∧ stop.decl = decl ∧
      id = contextCount (first.map Stop.decl) := by
  have mem := records.complete kind
  rw [numbered.ids] at mem
  obtain ⟨first, stop, rest, split, here⟩ := Stop.mem_gather.mp mem
  have number : id = contextCount (first.map Stop.decl) := List.mem_singleton.mp here
  have same := numbered.kind?_at records split
  rw [← number, kind, Option.some.injEq, ContextKind.type.injEq] at same
  exact ⟨first, stop, rest, split, same.1.symm, number⟩

end Progress.Numbered

/-- The stop of a surviving declaration. -/
theorem Library.exists_stop {library : Library} {before after : List Decl} {decl : Decl}
    (split : library.survivors = before ++ decl :: after) :
    ∃ first stop rest, library.outline = first ++ stop :: rest ∧
      first.map Stop.decl = before ∧ stop.decl = decl := by
  rw [← library.map_decl_outline] at split
  obtain ⟨first, others, outline, same, later⟩ := List.map_eq_append_iff.mp split
  obtain ⟨stop, rest, rfl, here, -⟩ := List.map_eq_cons_iff.mp later
  exact ⟨first, stop, rest, outline, same, here⟩

/-- **The collection of a library has the shape of its declarations.** It always
succeeds, so that a conversion is refused only for misuses that are not
overruled, and then for all of them; besides this, only an artifact that writes
to a closed emitter aborts it, which no header does.

The roots are the surviving declarations at the top, each followed by the
modules that are first named in it. The context of a surviving declaration is
numbered by the contexts for the declarations before it, there are no other
contexts of types, and below it are those of its nested declarations that
survive. There is one context for each surviving declaration, for each module
that they name, and for each of them that names one; and the order of the
contexts has every one of them once. -/
theorem Library.collect_shape {γ : Type} [ContentGenerator γ] [PatternEngine] (library : Library)
    (target : Target γ) (options : Options) :
    ∃ collection, library.collect target options = .ok collection ∧
      (∀ cause, library.convert target options = .error cause ↔
        (library.misuses ≠ [] ∧ options.ignoreMisuses = false ∧
          cause = .invalid library.misuses) ∨
        ((library.misuses = [] ∨ options.ignoreMisuses = true) ∧ cause = .aborted ∧
          ∃ artifact ∈ collection.manifest, artifact.render collection.aggregate
            options.indentWidth (options.defaultMark target) = .aborted)) ∧
      (∀ cause, library.convert Header.target options = .error cause ↔
        library.misuses ≠ [] ∧ options.ignoreMisuses = false ∧
          cause = .invalid library.misuses) ∧
      let assembly := collection.aggregate.assembly
      let forest := assembly.forest
      forest.roots.map (fun id => (some id, forest.kind? id)) =
        (rootContexts options.rule assembly.module? [] library.types).map
          (fun entry => (entry.1, some entry.2)) ∧
      (∀ before decl after, library.survivors = before ++ decl :: after →
        forest.kind? (contextCount before) = some (.type decl (options.rule.mapped? decl)) ∧
        (forest.children (contextCount before)).map (fun id => (id, forest.kind? id)) =
          (typeContexts options.rule (before ++ [decl]) decl.nestedTypes).map
            (fun entry => (entry.1, some entry.2))) ∧
      (∀ id decl mapped, forest.kind? id = some (.type decl mapped) →
        ∃ before after, library.survivors = before ++ decl :: after ∧ id = contextCount before) ∧
      forest.size = library.survivors.length + (modulesNamed library.survivors).length +
        (library.survivors.filter (·.attributes.moduleName.isSome)).length ∧
      forest.preOrder.Perm (List.range forest.size) := by
  let progress := ({} : Progress).along options.rule library.outline
  have records : Progress.Records options.rule library.outline progress :=
    library.records options.rule
  have numbered : Progress.Numbered library.outline progress := library.numbered options.rule
  have same : ((library.aggregate options).collect target).aggregate.assembly =
      progress.survey.assembly := rfl
  refine ⟨_, library.collect_eq target options, fun cause => Library.convert_eq_error_iff,
    fun cause => Library.convert_header_eq_error_iff, ?_⟩
  rw [same]
  refine ⟨?_, fun before decl after split => ?_, fun id decl mapped kind => ?_, ?_,
    records.sound.assembly.forest.preOrder_perm_range numbered.placed⟩
  · rw [numbered.kinds_roots records, Library.outline, Stop.gather_rootKinds_ofRoots]
  · obtain ⟨first, stop, rest, outline, rfl, rfl⟩ := Library.exists_stop split
    have here : library.outline[first.length]? = some stop := by simp [outline]
    have taken : (library.outline.map Stop.decl).take (first.length + 1) =
        first.map Stop.decl ++ [stop.decl] := by
      simp [outline, List.take_append, List.take_of_length_le]
    have nested := Stop.nests_ofRoots options.rule library.types 0 [] here
    rw [← Library.outline, taken, Nat.zero_add, List.nil_append] at nested
    refine ⟨numbered.kind?_at records outline, ?_⟩
    rw [numbered.kinds_children records (numbered.ids_at outline), nested]
  · obtain ⟨first, stop, rest, outline, rfl, number⟩ := numbered.exists_of_kind? records kind
    refine ⟨first.map Stop.decl, rest.map Stop.decl, ?_, number⟩
    rw [← library.map_decl_outline, outline, List.map_append, List.map_cons]
  · rw [numbered.size, library.map_decl_outline]
    rfl

end Bindery
