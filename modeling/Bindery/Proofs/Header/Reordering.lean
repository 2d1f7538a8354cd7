/-
The order of attributes does not matter.

Every reader of attributes answers with the first of its kind, so what a library
is converted to depends in general on the order in which attributes are declared.
In a valid library no symbol has two attributes of a kind that is read, and the
order is lost. The main statements are

* `Attributes.Proper.agree_of_perm`, that proper attributes read the same in any
  order;
* `Decl.Reordered.face_eq`, that a valid declaration shows the same face when the
  attributes of its symbols are reordered;
* `Library.Reordered.alike`, the same for a library, nested declarations included;
* `Library.convert_reordered`, that a valid library stays valid and is converted
  to the same headers and errors.
-/

import Bindery.Pattern.Engine
import Bindery.Proofs.Declaration.Report
import Bindery.Proofs.Header.Likeness

namespace Bindery

/-! ### Attributes in another order -/

/-- A reader that takes the first answer gets the same from items in any order,
where one item at most has an answer. -/
theorem findSome?_eq_of_perm {α β : Type} {pick : α → Option β} {items items' : List α}
    (perm : items.Perm items')
    (once : items.Pairwise fun first second => pick first ≠ none → pick second = none) :
    items'.findSome? pick = items.findSome? pick := by
  have answers := perm.filterMap pick
  rw [← List.head?_filterMap, ← List.head?_filterMap]
  match found : items.filterMap pick with
  | [] => rw [found, List.nil_perm] at answers; rw [answers]
  | [answer] => rw [found, List.singleton_perm] at answers; rw [← answers]
  | first :: second :: rest =>
    have apart : (items.filterMap pick).Pairwise fun _ _ => False := by
      refine List.pairwise_filterMap.mpr (once.imp fun {a b} differ answer here other there => ?_)
      rw [differ (by simp [here])] at there
      cases there
    rw [found] at apart
    exact absurd (List.rel_of_pairwise_cons apart List.mem_cons_self) id

namespace Attributes

/-- Attributes that every reader reads alike. -/
structure Agree (attributes other : Attributes) : Prop where
  explicitBinding : other.explicitBinding = attributes.explicitBinding
  stem : other.stem = attributes.stem
  substitution : other.substitution = attributes.substitution
  moduleName : other.moduleName = attributes.moduleName
  isIgnored : other.isIgnored = attributes.isIgnored

namespace Proper

variable {site : Site} {attributes other : Attributes}

/-- The rules do not look at the order. -/
theorem of_perm (proper : attributes.Proper site) (perm : attributes.Perm other) :
    other.Proper site where
  binding mem := proper.binding (perm.mem_iff.mpr mem)
  stem name mem := proper.stem name (perm.mem_iff.mpr mem)
  substitution pattern replacement mem :=
    proper.substitution pattern replacement (perm.mem_iff.mpr mem)
  moduleName name mem := proper.moduleName name (perm.mem_iff.mpr mem)
  once := by
    refine (perm.pairwise_iff fun {first second} forward same => ?_).mp proper.once
    exact same.trans (forward same.symm)

/-- A reader of one kind of attribute, other than `ignore`, does not look at the
order of proper attributes. -/
theorem findSome?_of_perm (proper : attributes.Proper site) (perm : attributes.Perm other)
    {β : Type} {pick : Attribute → Option β} (kind : Attribute.Kind) (read : kind ≠ .ignore)
    (only : ∀ a, pick a ≠ none → a.kind = kind) :
    other.findSome? pick = attributes.findSome? pick := by
  refine findSome?_eq_of_perm perm (proper.once.imp fun {first second} differ answer => ?_)
  by_contra answer'
  have here := only first answer
  exact read (here ▸ differ (here.trans (only second answer').symm))

/-- **Proper attributes read the same in any order.** -/
theorem agree_of_perm (proper : attributes.Proper site) (perm : attributes.Perm other) :
    attributes.Agree other where
  explicitBinding := proper.findSome?_of_perm perm .explicitBinding (by simp)
    fun a => by cases a <;> simp [Attribute.kind]
  stem := proper.findSome?_of_perm perm .stem (by simp)
    fun a => by cases a <;> simp [Attribute.kind]
  substitution := proper.findSome?_of_perm perm .substitution (by simp)
    fun a => by cases a <;> simp [Attribute.kind]
  moduleName := proper.findSome?_of_perm perm .moduleName (by simp)
    fun a => by cases a <;> simp [Attribute.kind]
  isIgnored := perm.symm.any_eq

end Proper

end Attributes

/-! ### Declarations with reordered attributes -/

/-- A member with other attributes. -/
def Member.withAttributes (attributes : Attributes) : Member → Member
  | .method m => .method { m with attributes }
  | .field f => .field { f with attributes }
  | .enumMember e => .enumMember { e with attributes }
  | .nested decl => .nested { decl with attributes }

mutual

/-- The second declaration is the first with the attributes of its symbols, at
any depth, in another order. -/
inductive Decl.Reordered : Decl → Decl → Prop where
  | mk {kind : DeclKind} {identifier namespacePath : String} {attributes attributes' : Attributes}
      {members members' : List Member} {signature : Option Signature} :
      attributes.Perm attributes' → Member.AllReordered members members' →
      Decl.Reordered ⟨kind, identifier, namespacePath, attributes, members, signature⟩
        ⟨kind, identifier, namespacePath, attributes', members', signature⟩

/-- The second member is the first with the attributes of its symbols in another
order. -/
inductive Member.Reordered : Member → Member → Prop where
  | method {m : Method} {attributes : Attributes} : m.attributes.Perm attributes →
      Member.Reordered (.method m) (.method { m with attributes })
  | field {f : Field} {attributes : Attributes} : f.attributes.Perm attributes →
      Member.Reordered (.field f) (.field { f with attributes })
  | enumMember {e : EnumMember} {attributes : Attributes} : e.attributes.Perm attributes →
      Member.Reordered (.enumMember e) (.enumMember { e with attributes })
  | nested {decl decl' : Decl} : Decl.Reordered decl decl' →
      Member.Reordered (.nested decl) (.nested decl')

/-- The members of the second list are those of the first, each with its
attributes in another order. -/
inductive Member.AllReordered : List Member → List Member → Prop where
  | nil : Member.AllReordered [] []
  | cons {member member' : Member} {rest rest' : List Member} :
      Member.Reordered member member' → Member.AllReordered rest rest' →
      Member.AllReordered (member :: rest) (member' :: rest')

end

/-- The second library is the first with the attributes of all symbols in another
order. -/
structure Library.Reordered (library other : Library) : Prop where
  name : library.name = other.name
  types : List.Forall₂ Decl.Reordered library.types other.types

/-! ### Validity -/

mutual

theorem Decl.Reordered.misuses_eq_nil {decl decl' : Decl} (reordered : decl.Reordered decl')
    (valid : decl.misuses = []) : decl'.misuses = [] := by
  cases reordered with
  | mk perm members =>
    rw [Decl.misuses, List.append_eq_nil_iff, List.map_eq_nil_iff, Decl.ownFaults_eq_nil_iff]
      at valid ⊢
    obtain ⟨⟨proper, signed⟩, rest⟩ := valid
    exact ⟨⟨proper.of_perm perm, signed⟩, members.misuses_eq_nil rest⟩

theorem Member.Reordered.report_eq_nil {member member' : Member}
    (reordered : member.Reordered member') {owner : String} (valid : member.report owner = []) :
    member'.report owner = [] := by
  cases reordered with
  | nested inner => exact inner.misuses_eq_nil valid
  | method perm | field perm | enumMember perm =>
    rw [Member.report, List.map_eq_nil_iff, faultsAt_eq_nil_iff] at valid ⊢
    exact valid.of_perm perm

theorem Member.AllReordered.misuses_eq_nil {members members' : List Member}
    (reordered : Member.AllReordered members members') {owner : String}
    (valid : Member.misuses owner members = []) : Member.misuses owner members' = [] := by
  cases reordered with
  | nil => rfl
  | cons first rest =>
    rw [Member.misuses_eq_flatMap, List.flatMap_cons, List.append_eq_nil_iff,
      ← Member.misuses_eq_flatMap] at valid ⊢
    exact ⟨first.report_eq_nil valid.1, rest.misuses_eq_nil valid.2⟩

end

theorem Library.Reordered.misuses_eq_nil {library other : Library}
    (reordered : library.Reordered other) (valid : library.misuses = []) :
    other.misuses = [] := by
  obtain ⟨name, types⟩ := library
  obtain ⟨name', types'⟩ := other
  obtain ⟨-, each⟩ := reordered
  simp only [Library.misuses] at valid each ⊢
  induction each with
  | nil => rfl
  | cons first _ ih =>
    rw [List.flatMap_cons, List.append_eq_nil_iff] at valid ⊢
    exact ⟨first.misuses_eq_nil valid.1, ih valid.2⟩

/-! ### Faces -/

/-- A view of the members that are no declarations, and of their attributes only
as far as they are read, shows the same of valid members in another order. -/
theorem Member.AllReordered.filterMap_eq {members members' : List Member}
    (reordered : Member.AllReordered members members') {owner : String}
    (valid : Member.misuses owner members = []) {β : Type} {view : Member → Option β}
    (noNested : ∀ decl, view (.nested decl) = none)
    (reads : ∀ member attributes, member.attributes.Agree attributes →
      view (member.withAttributes attributes) = view member) :
    members'.filterMap view = members.filterMap view := by
  induction members generalizing members' with
  | nil =>
    cases reordered
    rfl
  | cons member rest ih =>
    cases reordered with
    | @cons _ member' _ rest' first later =>
      rw [Member.misuses_eq_flatMap, List.flatMap_cons, List.append_eq_nil_iff,
        ← Member.misuses_eq_flatMap] at valid
      have proper : ∀ {attributes name}, (faultsAt .member attributes).map (Misuse.mk name) = [] →
          attributes.Proper .member := fun none =>
        (faultsAt_eq_nil_iff _ _).mp (List.map_eq_nil_iff.mp none)
      have same : view member' = view member := by
        cases first with
        | nested inner => rw [noNested, noNested]
        | @method m _ perm => exact reads (.method m) _ ((proper valid.1).agree_of_perm perm)
        | @field f _ perm => exact reads (.field f) _ ((proper valid.1).agree_of_perm perm)
        | @enumMember e _ perm =>
          exact reads (.enumMember e) _ ((proper valid.1).agree_of_perm perm)
      rw [List.filterMap_cons, List.filterMap_cons, same, ih later valid.2]

namespace Decl.Reordered

variable {decl decl' : Decl}

/-- The fields that are not left out. -/
theorem fields_eq (reordered : decl.Reordered decl') (valid : decl.misuses = []) :
    (decl'.fields.filter fun field => !field.attributes.isIgnored).map
        (fun field => (field.name, field.type)) =
      (decl.fields.filter fun field => !field.attributes.isIgnored).map
        fun field => (field.name, field.type) := by
  cases reordered with
  | mk _ each =>
    rw [Decl.misuses, List.append_eq_nil_iff] at valid
    simp only [Decl.fields, List.filter_filterMap, List.map_filterMap]
    refine each.filterMap_eq valid.2 (fun _ => rfl) ?_
    intro member attributes agree
    cases member with
    | field f =>
      have ignored : attributes.isIgnored = f.attributes.isIgnored := agree.isIgnored
      simp [Member.withAttributes, Option.filter, ignored]
    | method m => rfl
    | enumMember e => rfl
    | nested decl => rfl

/-- The functions that are given to a module. -/
theorem functions_eq (reordered : decl.Reordered decl') (valid : decl.misuses = []) :
    decl'.exportedMethods.map Method.face = decl.exportedMethods.map Method.face := by
  cases reordered with
  | mk _ each =>
    rw [Decl.misuses, List.append_eq_nil_iff] at valid
    simp only [Decl.exportedMethods, Decl.methods, List.filter_filterMap, List.map_filterMap]
    refine each.filterMap_eq valid.2 (fun _ => rfl) ?_
    intro member attributes agree
    cases member with
    | method m =>
      have ignored : attributes.isIgnored = m.attributes.isIgnored := agree.isIgnored
      have binding : attributes.explicitBinding = m.attributes.explicitBinding :=
        agree.explicitBinding
      simp [Member.withAttributes, Option.filter, Method.face, Header.functionName, ignored,
        binding]
    | field f => rfl
    | enumMember e => rfl
    | nested decl => rfl

/-- The constants of an enum, when its members are named by any rule. -/
theorem constants_eq (reordered : decl.Reordered decl') (valid : decl.misuses = [])
    (naming : Naming.ConstantNaming) :
    (decl'.enumMembers.filter fun m => !m.attributes.isIgnored).map
        (fun m => (⟨naming.constant m, .declared m.value⟩ : Naming.Constant)) =
      (decl.enumMembers.filter fun m => !m.attributes.isIgnored).map
        fun m => ⟨naming.constant m, .declared m.value⟩ := by
  cases reordered with
  | mk _ each =>
    rw [Decl.misuses, List.append_eq_nil_iff] at valid
    simp only [Decl.enumMembers, List.filter_filterMap, List.map_filterMap]
    refine each.filterMap_eq valid.2 (fun _ => rfl) ?_
    intro member attributes agree
    cases member with
    | enumMember e =>
      have ignored : attributes.isIgnored = e.attributes.isIgnored := agree.isIgnored
      have binding : attributes.explicitBinding = e.attributes.explicitBinding :=
        agree.explicitBinding
      simp [Member.withAttributes, Option.filter, Naming.ConstantNaming.constant, ignored, binding]
    | method m => rfl
    | field f => rfl
    | nested decl => rfl

/-- The declaration is the same but for its attributes, which agree, and its
members. -/
theorem exists_agree (reordered : decl.Reordered decl') (valid : decl.misuses = []) :
    ∃ attributes members, decl.attributes.Agree attributes ∧
      decl' = { decl with attributes, members } := by
  cases reordered with
  | mk perm _ =>
    exact ⟨_, _, ((Decl.misuses_eq_nil_iff _).mp valid).1.own.agree_of_perm perm, rfl⟩

theorem enumBinding_eq [PatternEngine] (reordered : decl.Reordered decl')
    (valid : decl.misuses = []) :
    Naming.EnumBinding.of decl' = Naming.EnumBinding.of decl := by
  have constants := reordered.constants_eq valid
  obtain ⟨attributes, members, agree, rfl⟩ := reordered.exists_agree valid
  have naming : Naming.ConstantNaming.of { decl with attributes, members } =
      Naming.ConstantNaming.of decl := by
    simp only [Naming.ConstantNaming.of, agree.stem, agree.substitution]
    rfl
  have name : Decl.bindingName { decl with attributes, members } = decl.bindingName := by
    rw [Decl.bindingName, Decl.bindingName, agree.explicitBinding]
  rw [Naming.EnumBinding.of, Naming.EnumBinding.of, naming, name]
  cases Naming.ConstantNaming.of decl with
  | error e => rfl
  | ok naming => simp only [constants naming]

/-- **A valid declaration shows the same face** when the attributes of its symbols
are reordered. -/
theorem face_eq [PatternEngine] (reordered : decl.Reordered decl') (valid : decl.misuses = []) :
    decl'.face = decl.face := by
  have fields := reordered.fields_eq valid
  have functions := reordered.functions_eq valid
  have constants := reordered.enumBinding_eq valid
  obtain ⟨attributes, members, agree, rfl⟩ := reordered.exists_agree valid
  rw [Decl.face, Decl.face, fields, functions, constants, agree.explicitBinding, agree.moduleName]

end Decl.Reordered

/-! ### Outlines -/

section Outline

variable [PatternEngine]

mutual

theorem Decl.Reordered.outline_eq {decl decl' : Decl} (reordered : decl.Reordered decl')
    (valid : decl.misuses = []) (parent : Option Nat) (start : Nat) :
    (decl'.outline parent start).map Stop.face = (decl.outline parent start).map Stop.face := by
  have face := reordered.face_eq valid
  have own := ((Decl.misuses_eq_nil_iff _).mp valid).1.own
  cases reordered with
  | mk perm each =>
    rw [Decl.misuses, List.append_eq_nil_iff] at valid
    have ignored := (own.agree_of_perm perm).isIgnored
    rw [Decl.outline, Decl.outline, ignored]
    split
    · rfl
    · rw [List.map_cons, List.map_cons, each.outline_eq valid.2, Stop.face, Stop.face, face]

theorem Member.AllReordered.outline_eq {members members' : List Member}
    (reordered : Member.AllReordered members members') {owner : String}
    (valid : Member.misuses owner members = []) (parent start : Nat) :
    (Member.outline members' parent start).map Stop.face =
      (Member.outline members parent start).map Stop.face := by
  cases reordered with
  | nil => rfl
  | cons first later =>
    rw [Member.misuses_eq_flatMap, List.flatMap_cons, List.append_eq_nil_iff,
      ← Member.misuses_eq_flatMap] at valid
    cases first with
    | method _ | field _ | enumMember _ => exact later.outline_eq valid.2 parent start
    | nested inner =>
      have same := inner.outline_eq valid.1 (some parent) start
      have length := congrArg List.length same
      rw [List.length_map, List.length_map] at length
      rw [Member.outline, Member.outline, List.map_append, List.map_append, same, length,
        later.outline_eq valid.2]

end

theorem Stop.ofRoots_reordered {types types' : List Decl}
    (each : List.Forall₂ Decl.Reordered types types') (valid : types.flatMap Decl.misuses = [])
    (start : Nat) :
    (Stop.ofRoots types' start).map Stop.face = (Stop.ofRoots types start).map Stop.face := by
  induction each generalizing start with
  | nil => rfl
  | cons first _ ih =>
    rw [List.flatMap_cons, List.append_eq_nil_iff] at valid
    have same := first.outline_eq valid.1 none start
    have length := congrArg List.length same
    rw [List.length_map, List.length_map] at length
    rw [Stop.ofRoots, Stop.ofRoots, List.map_append, List.map_append, same, length, ih valid.2]

/-- **A valid library with reordered attributes shows the same faces in the same
places.** -/
theorem Library.Reordered.alike {library other : Library} (reordered : library.Reordered other)
    (valid : library.misuses = []) : library.Alike other :=
  ⟨reordered.name, (Stop.ofRoots_reordered reordered.types valid 0).symm⟩

end Outline

/-- **The order of attributes does not matter in a valid library.** When the
attributes of its symbols are put in another order, on every declaration and
member at any depth, the library stays valid and is converted to the same headers
and the same errors, whatever engine compiles its patterns. -/
theorem Library.convert_reordered [PatternEngine] {library other : Library}
    (reordered : library.Reordered other) (valid : library.misuses = []) :
    other.misuses = [] ∧
      ∀ options, other.convert Header.target options = library.convert Header.target options := by
  have valid' := reordered.misuses_eq_nil valid
  refine ⟨valid', fun options => ?_⟩
  rw [Library.convert_eq, Library.convert_eq, valid, valid',
    (reordered.alike valid).render options]

/-- A library with several attributes on declarations and members, each list of
them in the given order. -/
def Library.palette (order : Attributes → Attributes) : Library where
  name := "Palette"
  types :=
    [⟨.classType, "Brush", "App", order [.moduleName "Paint", .explicitBinding "brush"],
        [.method { name := "reset", attributes := order [.ignore, .explicitBinding "brush_reset"] },
          .method { name := "draw", attributes := order [.explicitBinding "brush_draw"] },
          .nested ⟨.enumType, "Tone", "App",
            order [.stem "TONE", .substitution "ish$" "", .explicitBinding "tone"],
            [.enumMember ⟨"Darkish", 0, order [.explicitBinding "TONE_DARK", .ignore]⟩], none⟩,
          .field ⟨"width", .predefined "int", order [.ignore, .explicitBinding "w", .ignore]⟩],
        none⟩]

theorem Library.convert_reordered_palette :
    (palette id).Reordered (palette List.reverse) ∧ (palette id).misuses = [] ∧
      (palette List.reverse).misuses = [] ∧ ∀ options,
        (palette List.reverse).convert Header.target options =
          (palette id).convert Header.target options := by
  have reversed : ∀ attributes : Attributes, attributes.Perm attributes.reverse := fun attributes =>
    (List.reverse_perm attributes).symm
  have reordered : (palette id).Reordered (palette List.reverse) :=
    ⟨rfl, .cons (.mk (reversed _)
      (.cons (.method (reversed _)) (.cons (.method (reversed _))
        (.cons (.nested (.mk (reversed _) (.cons (.enumMember (reversed _)) .nil)))
          (.cons (.field (reversed _)) .nil))))) .nil⟩
  have valid : (palette id).misuses = [] := by decide +kernel
  exact ⟨reordered, valid, Library.convert_reordered reordered valid⟩

end Bindery
