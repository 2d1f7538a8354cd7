/-
The strings of a library.

`Library.strings` lists every string that a library holds: its name, and of every
declaration at any depth the identifier, the namespace, and the strings of its
attributes, of its signature and of its members. The main statements are

* `Decl.strings_subset_of_mem_survivors` and `Library.strings_subset`, that the
  strings of a surviving declaration are strings of the library;
* `Decl.bindingName_mem_strings`, that the name of a type is one of its strings.
-/

import Bindery.Naming.Constant
import Bindery.Proofs.Context.Visits

namespace Bindery

/-! ### Listing strings -/

/-- The strings that an attribute carries. -/
def Attribute.strings : Attribute → List String
  | explicitBinding name | stem name | moduleName name => [name]
  | substitution pattern replacement => [pattern, replacement]
  | ignore => []

/-- The strings of the attributes of a symbol. -/
def Attributes.strings (attributes : Attributes) : List String :=
  attributes.flatMap Attribute.strings

/-- The name of the type that is referred to. -/
def TypeRef.name : TypeRef → String
  | predefined name | named name => name

/-- The strings of a signature: the names of its types and of its parameters. -/
def Signature.strings (signature : Signature) : List String :=
  signature.returns.name :: signature.params.flatMap fun param => [param.name, param.type.name]

def Method.strings (method : Method) : List String :=
  method.name :: method.signature.strings ++ method.attributes.strings

def Field.strings (field : Field) : List String :=
  field.name :: field.type.name :: field.attributes.strings

def EnumMember.strings (member : EnumMember) : List String :=
  member.name :: member.attributes.strings

mutual

/-- The strings of a declaration, those of the declarations in it included. -/
def Decl.strings : Decl → List String
  | ⟨_, identifier, namespacePath, attributes, members, signature⟩ =>
    identifier :: namespacePath :: attributes.strings ++
      signature.toList.flatMap Signature.strings ++ Member.allStrings members

/-- The strings of some members. -/
def Member.allStrings : List Member → List String
  | [] => []
  | .method m :: rest => m.strings ++ Member.allStrings rest
  | .field f :: rest => f.strings ++ Member.allStrings rest
  | .enumMember e :: rest => e.strings ++ Member.allStrings rest
  | .nested decl :: rest => decl.strings ++ Member.allStrings rest

end

/-- The strings of a member. -/
def Member.strings : Member → List String
  | method m => m.strings
  | field f => f.strings
  | enumMember e => e.strings
  | nested decl => decl.strings

/-- The strings of a library. -/
def Library.strings (library : Library) : List String :=
  library.name :: library.types.flatMap Decl.strings

/-! ### Strings of the parts -/

/-- What is read off an attribute is read off one in the list. -/
theorem Attributes.mem_strings_of_findSome? {α : Type} {attributes : Attributes}
    {pick : Attribute → Option α} {a : α} {text : String}
    (found : attributes.findSome? pick = some a)
    (carries : ∀ item, pick item = some a → text ∈ item.strings) : text ∈ attributes.strings := by
  obtain ⟨item, mem, picked⟩ := List.exists_of_findSome?_eq_some found
  exact List.mem_flatMap.mpr ⟨item, mem, carries item picked⟩

namespace Attributes

variable {attributes : Attributes}

theorem explicitBinding_mem_strings {name : String}
    (bound : attributes.explicitBinding = some name) : name ∈ attributes.strings := by
  apply mem_strings_of_findSome? bound
  intro item picked
  cases item <;> cases picked
  exact List.mem_singleton_self _

theorem stem_mem_strings {name : String} (stemmed : attributes.stem = some name) :
    name ∈ attributes.strings := by
  apply mem_strings_of_findSome? stemmed
  intro item picked
  cases item <;> cases picked
  exact List.mem_singleton_self _

theorem replacement_mem_strings {pattern replacement : String}
    (substituted : attributes.substitution = some (pattern, replacement)) :
    replacement ∈ attributes.strings := by
  apply mem_strings_of_findSome? substituted
  intro item picked
  cases item <;> cases picked
  simp [Attribute.strings]

end Attributes

theorem Member.allStrings_eq_flatMap (members : List Member) :
    Member.allStrings members = members.flatMap Member.strings := by
  induction members with
  | nil => rfl
  | cons member rest ih =>
    rw [List.flatMap_cons, ← ih]
    cases member <;> rfl

namespace Decl

theorem identifier_mem_strings (decl : Decl) : decl.identifier ∈ decl.strings := by
  obtain ⟨kind, identifier, namespacePath, attributes, members, signature⟩ := decl
  simp [strings]

theorem attributes_subset_strings (decl : Decl) : decl.attributes.strings ⊆ decl.strings := by
  obtain ⟨kind, identifier, namespacePath, attributes, members, signature⟩ := decl
  intro text mem
  simp [strings, show text ∈ attributes.strings from mem]

theorem signature_subset_strings {decl : Decl} {signature : Signature}
    (signed : decl.signature = some signature) : signature.strings ⊆ decl.strings := by
  obtain ⟨kind, identifier, namespacePath, attributes, members, signature'⟩ := decl
  obtain rfl : signature' = some signature := signed
  intro text mem
  simp [strings, mem]

theorem member_subset_strings {decl : Decl} {member : Member} (mem : member ∈ decl.members) :
    member.strings ⊆ decl.strings := by
  obtain ⟨kind, identifier, namespacePath, attributes, members, signature⟩ := decl
  intro text inside
  have among : text ∈ Member.allStrings members := by
    rw [Member.allStrings_eq_flatMap]
    exact List.mem_flatMap.mpr ⟨member, mem, inside⟩
  simp [strings, among]

theorem field_subset_strings {decl : Decl} {field : Field} (mem : field ∈ decl.fields) :
    field.strings ⊆ decl.strings := by
  obtain ⟨member, inside, picked⟩ := List.mem_filterMap.mp mem
  cases member <;> cases picked
  exact member_subset_strings inside

theorem enumMember_subset_strings {decl : Decl} {member : EnumMember}
    (mem : member ∈ decl.enumMembers) : member.strings ⊆ decl.strings := by
  obtain ⟨member, inside, picked⟩ := List.mem_filterMap.mp mem
  cases member <;> cases picked
  exact member_subset_strings inside

/-- The name of a type is one of its strings. -/
theorem bindingName_mem_strings (decl : Decl) : decl.bindingName ∈ decl.strings := by
  rw [bindingName]
  cases bound : decl.attributes.explicitBinding with
  | none => exact decl.identifier_mem_strings
  | some name =>
    exact decl.attributes_subset_strings (Attributes.explicitBinding_mem_strings bound)

end Decl

/-! ### Surviving declarations -/

mutual

theorem Decl.strings_subset_of_mem_survivors (decl : Decl) {inner : Decl}
    (mem : inner ∈ decl.survivors) : inner.strings ⊆ decl.strings := by
  obtain ⟨kind, identifier, namespacePath, attributes, members, signature⟩ := decl
  rw [Decl.survivors] at mem
  split at mem
  · exact absurd mem List.not_mem_nil
  · rcases List.mem_cons.mp mem with rfl | inside
    · exact List.Subset.refl _
    · exact List.Subset.trans (Member.strings_subset_of_mem_survivors members inside)
        (List.subset_append_right _ _)

theorem Member.strings_subset_of_mem_survivors (members : List Member) {inner : Decl}
    (mem : inner ∈ Member.survivors members) : inner.strings ⊆ Member.allStrings members := by
  match members with
  | [] => exact absurd mem List.not_mem_nil
  | .nested decl :: rest =>
    rw [Member.survivors] at mem
    rcases List.mem_append.mp mem with inside | later
    · exact List.Subset.trans (Decl.strings_subset_of_mem_survivors decl inside)
        (List.subset_append_left _ _)
    · exact List.Subset.trans (Member.strings_subset_of_mem_survivors rest later)
        (List.subset_append_right _ _)
  | .method _ :: rest | .field _ :: rest | .enumMember _ :: rest =>
    exact List.Subset.trans (Member.strings_subset_of_mem_survivors rest mem)
      (List.subset_append_right _ _)

end

/-- **The strings of a surviving declaration are strings of the library.** -/
theorem Library.strings_subset (library : Library) {decl : Decl}
    (mem : decl ∈ library.survivors) : decl.strings ⊆ library.strings := by
  obtain ⟨root, among, inside⟩ := List.mem_flatMap.mp mem
  intro text here
  apply List.mem_cons_of_mem
  exact List.mem_flatMap.mpr ⟨root, among, root.strings_subset_of_mem_survivors inside here⟩

end Bindery
