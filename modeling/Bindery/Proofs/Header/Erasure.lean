/-
Leaving out means erasing.

A library is pruned by removing every declaration that is left out with all that
is nested in it, and from the declarations that remain every member that is left
out and every method that is not native. The main statements are

* `Decl.face_prune`, that a pruned declaration shows the same face;
* `Library.prune_alike`, that the outline of a pruned library shows the same
  faces in the same places;
* `Library.sublist_misuses_prune`, that pruning adds no misuse;
* `Library.convert_prune`, that a pruned library is converted to the same
  headers and the same errors.

What is left out is validated like everything else, so that a library can be
refused for it and be accepted when it is pruned.
-/

import Bindery.Pattern.Engine
import Bindery.Proofs.Header.Likeness

namespace Bindery

/-! ### Pruning -/

/-- Whether the headers look at a member: it is not left out and, if it is a
method, it is native. -/
def Member.isShown : Member → Bool
  | .method m => m.native && !m.attributes.isIgnored
  | .field f => !f.attributes.isIgnored
  | .enumMember e => !e.attributes.isIgnored
  | .nested decl => !decl.attributes.isIgnored

mutual

/-- The declaration without the members that the headers pass over, at any
depth. -/
def Decl.prune : Decl → Decl
  | ⟨kind, identifier, namespacePath, attributes, members, signature⟩ =>
    ⟨kind, identifier, namespacePath, attributes, Member.prune members, signature⟩

/-- The members that the headers look at; nested declarations are pruned. -/
def Member.prune : List Member → List Member
  | [] => []
  | .nested decl :: rest =>
    if (Member.nested decl).isShown then .nested decl.prune :: Member.prune rest
    else Member.prune rest
  | .method m :: rest =>
    if (Member.method m).isShown then .method m :: Member.prune rest else Member.prune rest
  | .field f :: rest =>
    if (Member.field f).isShown then .field f :: Member.prune rest else Member.prune rest
  | .enumMember e :: rest =>
    if (Member.enumMember e).isShown then .enumMember e :: Member.prune rest
    else Member.prune rest

end

/-- The library without the declarations that are left out, the others pruned. -/
def Library.prune (library : Library) : Library :=
  { library with
    types := (library.types.filter fun decl => !decl.attributes.isIgnored).map Decl.prune }

/-! ### Faces of pruned declarations -/

/-- A view of the members that are no declarations keeps what is shown. -/
theorem Member.filterMap_prune {α : Type} {pick : Member → Option α} {keep : α → Bool}
    (noNested : ∀ decl, pick (.nested decl) = none)
    (shows : ∀ {member a}, pick member = some a → member.isShown = keep a)
    (members : List Member) :
    (Member.prune members).filterMap pick = (members.filterMap pick).filter keep := by
  -- A member that is no declaration is kept as it is or goes.
  have plain : ∀ {member rest},
      (Member.prune rest).filterMap pick = (rest.filterMap pick).filter keep →
      (if member.isShown then member :: Member.prune rest else Member.prune rest).filterMap pick =
        ((member :: rest).filterMap pick).filter keep := by
    intro member rest ih
    cases picked : pick member with
    | none => cases shown : member.isShown <;> simp [picked, ih]
    | some a =>
      have same := shows picked
      cases shown : member.isShown <;> simp [picked, ih, ← same, shown]
  induction members with
  | nil => rfl
  | cons member rest ih =>
    cases member with
    | method m => exact plain ih
    | field f => exact plain ih
    | enumMember e => exact plain ih
    | nested decl =>
      rw [Member.prune, List.filterMap_cons_none (noNested decl)]
      split
      · rw [List.filterMap_cons_none (noNested _), ih]
      · exact ih

namespace Decl

/-- Pruning changes the members alone. -/
theorem prune_eq (decl : Decl) :
    decl.prune = { decl with members := Member.prune decl.members } := by
  cases decl
  rfl

theorem methods_prune (decl : Decl) :
    decl.prune.methods = decl.methods.filter fun m => m.native && !m.attributes.isIgnored := by
  rw [prune_eq]
  apply Member.filterMap_prune (fun _ => rfl)
  intro member a picked
  cases member <;> cases picked
  rfl

theorem fields_prune (decl : Decl) :
    decl.prune.fields = decl.fields.filter fun f => !f.attributes.isIgnored := by
  rw [prune_eq]
  apply Member.filterMap_prune (fun _ => rfl)
  intro member a picked
  cases member <;> cases picked
  rfl

theorem enumMembers_prune (decl : Decl) :
    decl.prune.enumMembers = decl.enumMembers.filter fun e => !e.attributes.isIgnored := by
  rw [prune_eq]
  apply Member.filterMap_prune (fun _ => rfl)
  intro member a picked
  cases member <;> cases picked
  rfl

theorem exportedMethods_prune (decl : Decl) :
    decl.prune.exportedMethods = decl.exportedMethods := by
  rw [exportedMethods, exportedMethods, methods_prune, List.filter_filter]
  simp only [Bool.and_self]

/-- The names of an enum do not depend on members that are left out. -/
theorem enumBinding_prune [PatternEngine] (decl : Decl) :
    Naming.EnumBinding.of decl.prune = Naming.EnumBinding.of decl := by
  have naming : Naming.ConstantNaming.of decl.prune = Naming.ConstantNaming.of decl := by
    rw [prune_eq]
    rfl
  have name : decl.prune.bindingName = decl.bindingName := by
    rw [prune_eq]
    rfl
  rw [Naming.EnumBinding.of, Naming.EnumBinding.of, naming, name, enumMembers_prune,
    List.filter_filter]
  simp only [Bool.and_self]

/-- **A pruned declaration shows the same face.** -/
theorem face_prune [PatternEngine] (decl : Decl) : decl.prune.face = decl.face := by
  have fields : decl.prune.fields.filter (fun f => !f.attributes.isIgnored) =
      decl.fields.filter fun f => !f.attributes.isIgnored := by
    rw [fields_prune, List.filter_filter]
    simp only [Bool.and_self]
  rw [face, face, fields, exportedMethods_prune, enumBinding_prune, prune_eq]

end Decl

/-! ### The outline of a pruned library -/

section Outline

variable [PatternEngine]

mutual

theorem Decl.outline_prune (decl : Decl) (parent : Option Nat) (start : Nat) :
    (decl.prune.outline parent start).map Stop.face =
      (decl.outline parent start).map Stop.face := by
  obtain ⟨kind, identifier, namespacePath, attributes, members, signature⟩ := decl
  rw [Decl.prune, Decl.outline, Decl.outline]
  split
  · rfl
  · have first := Decl.face_prune
      ⟨kind, identifier, namespacePath, attributes, members, signature⟩
    rw [Decl.prune] at first
    rw [List.map_cons, List.map_cons, Member.outline_prune members start (start + 1), Stop.face,
      Stop.face, first]

theorem Member.outline_prune (members : List Member) (parent start : Nat) :
    (Member.outline (Member.prune members) parent start).map Stop.face =
      (Member.outline members parent start).map Stop.face := by
  match members with
  | [] => rfl
  | .nested decl :: rest =>
    have inner := Decl.outline_prune decl (some parent) start
    have length := congrArg List.length inner
    rw [List.length_map, List.length_map] at length
    by_cases ignored : decl.attributes.isIgnored = true
    · rw [Member.prune, if_neg (by simp [Member.isShown, ignored]), Member.outline,
        Decl.outline_of_ignored ignored]
      exact Member.outline_prune rest parent start
    · rw [Member.prune, if_pos (by simp [Member.isShown, ignored]), Member.outline, Member.outline,
        List.map_append, List.map_append, inner, length, Member.outline_prune rest]
  | .method _ :: rest | .field _ :: rest | .enumMember _ :: rest =>
    rw [Member.prune]
    split <;> exact Member.outline_prune rest parent start

end

theorem Stop.ofRoots_prune (types : List Decl) (start : Nat) :
    (Stop.ofRoots ((types.filter fun decl => !decl.attributes.isIgnored).map Decl.prune) start).map
      Stop.face = (Stop.ofRoots types start).map Stop.face := by
  induction types generalizing start with
  | nil => rfl
  | cons decl rest ih =>
    have inner := Decl.outline_prune decl none start
    have length := congrArg List.length inner
    rw [List.length_map, List.length_map] at length
    by_cases ignored : decl.attributes.isIgnored = true
    · rw [List.filter_cons_of_neg (by simp [ignored]), Stop.ofRoots,
        Decl.outline_of_ignored ignored]
      exact ih start
    · rw [List.filter_cons_of_pos (by simp [ignored]), List.map_cons, Stop.ofRoots, Stop.ofRoots,
        List.map_append, List.map_append, inner, length, ih]

/-- **The outline of a pruned library shows the same faces in the same
places.** -/
theorem Library.prune_alike (library : Library) : library.Alike library.prune :=
  ⟨rfl, (Stop.ofRoots_prune library.types 0).symm⟩

end Outline

/-! ### Validation of a pruned library -/

mutual

theorem Decl.sublist_misuses_prune (decl : Decl) : decl.prune.misuses.Sublist decl.misuses := by
  obtain ⟨kind, identifier, namespacePath, attributes, members, signature⟩ := decl
  rw [Decl.prune, Decl.misuses, Decl.misuses]
  exact (List.Sublist.refl _).append (Member.sublist_misuses_prune members _)

theorem Member.sublist_misuses_prune (members : List Member) (owner : String) :
    (Member.misuses owner (Member.prune members)).Sublist (Member.misuses owner members) := by
  match members with
  | [] => exact List.Sublist.refl _
  | .nested decl :: rest =>
    have inner := Decl.sublist_misuses_prune decl
    have later := Member.sublist_misuses_prune rest owner
    rw [Member.prune, Member.misuses]
    split
    · exact inner.append later
    · exact later.trans (List.sublist_append_right _ _)
  | .method _ :: rest | .field _ :: rest | .enumMember _ :: rest =>
    have later := Member.sublist_misuses_prune rest owner
    rw [Member.prune, Member.misuses]
    split
    · exact (List.Sublist.refl _).append later
    · exact later.trans (List.sublist_append_right _ _)

end

/-- Pruning adds no misuse. -/
theorem Library.sublist_misuses_prune (library : Library) :
    library.prune.misuses.Sublist library.misuses := by
  obtain ⟨name, types⟩ := library
  show List.Sublist (((types.filter _).map Decl.prune).flatMap Decl.misuses)
    (types.flatMap Decl.misuses)
  induction types with
  | nil => exact List.Sublist.refl _
  | cons decl rest ih =>
    rw [List.flatMap_cons]
    by_cases ignored : decl.attributes.isIgnored = true
    · rw [List.filter_cons_of_neg (by simp [ignored])]
      exact ih.trans (List.sublist_append_right _ _)
    · rw [List.filter_cons_of_pos (by simp [ignored]), List.map_cons, List.flatMap_cons]
      exact decl.sublist_misuses_prune.append ih

/-- **A library that is converted is converted to the same headers and the same
errors when everything that is left out, and every method that is not native, is
removed from it**, whatever engine compiles its patterns. -/
theorem Library.convert_prune [PatternEngine] (library : Library) (options : Options)
    {result : Result} (converted : library.convert Header.target options = .ok result) :
    library.prune.convert Header.target options = .ok result := by
  refine library.prune_alike.convert_eq_ok ?_ converted
  intro none
  have fewer := library.sublist_misuses_prune
  rw [none] at fewer
  exact List.sublist_nil.mp fewer

/-- A library in which something is left out at every place: a type, a nested
type, methods, a field whose type cannot be spelled, and an enum member. -/
def Library.sketch : Library where
  name := "Sketch"
  types :=
    [⟨.classType, "Canvas", "App", [.explicitBinding "canvas", .moduleName "Canvas"],
        [.method { name := "clear" },
          .method { name := "trace", native := false },
          .method { name := "debug", attributes := [.ignore] },
          .nested ⟨.structType, "Cache", "App", [.ignore, .explicitBinding "cache"], [], none⟩,
          .nested ⟨.structType, "Point", "App", [.explicitBinding "point"],
            [.field ⟨"x", .predefined "int", []⟩,
              .field ⟨"tag", .predefined "object", [.ignore]⟩], none⟩,
          .nested ⟨.enumType, "Mode", "App", [.explicitBinding "mode", .stem "MODE"],
            [.enumMember ⟨"Fill", 0, []⟩, .enumMember ⟨"Hidden", 1, [.ignore]⟩], none⟩],
        none⟩,
      ⟨.delegate, "Hook", "", [.ignore], [], some {}⟩]

theorem Library.convert_prune_sketch :
    ∃ result, sketch.convert Header.target {} = .ok result ∧
      sketch.prune.convert Header.target {} = .ok result ∧
      result.outputs.length = 5 ∧ result.errors = [] := by
  have succeeds : ∃ result, sketch.convert Header.target {} = .ok result ∧
      result.outputs.length = 5 ∧ result.errors = [] := by
    have checked : (match sketch.convert Header.target {} with
      | .ok result => decide (result.outputs.length = 5 ∧ result.errors = [])
      | .error _ => false) = true := by decide +kernel
    cases converted : sketch.convert Header.target {} with
    | ok result =>
      rw [converted] at checked
      exact ⟨result, rfl, of_decide_eq_true checked⟩
    | error cause =>
      rw [converted] at checked
      cases checked
  obtain ⟨result, converted, shape⟩ := succeeds
  exact ⟨result, converted, sketch.convert_prune {} converted, shape⟩

end Bindery
