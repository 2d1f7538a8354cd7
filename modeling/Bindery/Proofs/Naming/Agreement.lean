/-
Naming all members of an enum and naming one of them agree.

`EnumBinding.of` looks for the naming of an enum first and then names the
members that are not left out. `constantName?` names one member: it looks at the
member first and asks for the naming only if it has to. Both lead to the same
names, and to the same error where a name cannot do without the naming, whatever
engine compiles the patterns. The main statements are

* `constantName?_of_naming` and `constantName?_of_error`, the name of one member
  when the enum has a naming and when it has none;
* `EnumBinding.of_withMembers`, that the names depend on the members that are
  not left out and on no others;
* `EnumBinding.of_agrees`, the two ways of naming side by side.
-/

import Bindery.Naming.Constant

namespace Bindery

/-! ### Members that are not left out -/

/-- Whether a member is not left out. -/
def Member.isKept (member : Member) : Bool :=
  !member.attributes.isIgnored

/-- The enum members that are not left out are those among the members that are
not left out. -/
theorem Decl.filter_enumMembers (decl : Decl) :
    decl.enumMembers.filter (fun member => !member.attributes.isIgnored) =
      Decl.enumMembers { decl with members := decl.members.filter Member.isKept } := by
  simp only [enumMembers]
  induction decl.members with
  | nil => rfl
  | cons member rest ih =>
    cases kept : member.isKept with
    | false =>
      cases member with
      | enumMember e =>
        have ignored : (!e.attributes.isIgnored) = false := kept
        simpa [kept, ignored] using ih
      | method | field | nested => simpa [kept] using ih
    | true =>
      cases member with
      | enumMember e =>
        have shown : (!e.attributes.isIgnored) = true := kept
        simpa [kept, shown] using ih
      | method | field | nested => simpa [kept] using ih

namespace Naming

variable [PatternEngine] {decl : Decl} {naming : ConstantNaming} {member : EnumMember}
  {cause : NamingError}

/-! ### One member -/

theorem constantName?_of_ignored (decl : Decl) (ignored : member.attributes.isIgnored = true) :
    constantName? decl member = .ok none :=
  if_pos ignored

/-- An explicit binding is the name, whether the enum has a naming or not. -/
theorem constantName?_of_explicit {name : String} (decl : Decl)
    (kept : ¬member.attributes.isIgnored = true)
    (explicit : member.attributes.explicitBinding = some name) :
    constantName? decl member = .ok (some name) := by
  rw [constantName?, if_neg kept, explicit]

/-- Where the enum has a naming, every member has a name that is not left out. -/
theorem constantName?_of_naming (named : ConstantNaming.of decl = .ok naming)
    (member : EnumMember) :
    constantName? decl member =
      .ok (if member.attributes.isIgnored then none else some (naming.constant member)) := by
  by_cases ignored : member.attributes.isIgnored = true
  · rw [constantName?_of_ignored decl ignored, if_pos ignored]
  · rw [if_neg ignored]
    cases explicit : member.attributes.explicitBinding with
    | some name =>
      rw [constantName?_of_explicit decl ignored explicit, ConstantNaming.constant, explicit]
    | none => rw [constantName?, if_neg ignored, explicit, named]

/-- Where the enum has no naming, a member that needs it fails for the same
cause. -/
theorem constantName?_of_error (unnamed : ConstantNaming.of decl = .error cause)
    (kept : ¬member.attributes.isIgnored = true)
    (implicit : member.attributes.explicitBinding = none) :
    constantName? decl member = .error cause := by
  rw [constantName?, if_neg kept, implicit, unnamed]

/-- The constant of one member, if it has a name. -/
def constant? (decl : Decl) (member : EnumMember) : Option Constant :=
  match constantName? decl member with
  | .ok (some name) => some ⟨name, .declared member.value⟩
  | _ => none

theorem constant?_of_naming (named : ConstantNaming.of decl = .ok naming) (member : EnumMember) :
    constant? decl member =
      if !member.attributes.isIgnored then some ⟨naming.constant member, .declared member.value⟩
      else none := by
  rw [constant?, constantName?_of_naming named]
  cases member.attributes.isIgnored <;> rfl

/-- A naming takes its stem from the enum. -/
theorem ConstantNaming.stem_of (named : ConstantNaming.of decl = .ok naming) :
    decl.attributes.stem = some naming.stem := by
  rw [ConstantNaming.of] at named
  cases stem : decl.attributes.stem with
  | none => simp [stem] at named
  | some name =>
    simp only [stem] at named
    split at named
    · cases named
      rfl
    · split at named
      · cases named
      · cases named
        rfl

/-! ### All members -/

namespace EnumBinding

variable {binding : EnumBinding}

theorem of_eq_error_iff : EnumBinding.of decl = .error cause ↔
    ConstantNaming.of decl = .error cause := by
  rw [EnumBinding.of]
  cases ConstantNaming.of decl <;> simp

/-- An enum has a binding exactly when it has a naming. -/
theorem of_eq_ok_iff : EnumBinding.of decl = .ok binding ↔
    ∃ naming, ConstantNaming.of decl = .ok naming ∧
      binding = ⟨decl.bindingName, naming.stem,
        (decl.enumMembers.filter fun member => !member.attributes.isIgnored).map fun member =>
          ⟨naming.constant member, .declared member.value⟩⟩ := by
  rw [EnumBinding.of]
  cases ConstantNaming.of decl <;> simp [eq_comm]

/-- The constants are those of the members, one by one. -/
theorem constants_eq_filterMap (named : EnumBinding.of decl = .ok binding) :
    binding.constants = decl.enumMembers.filterMap (constant? decl) := by
  obtain ⟨naming, found, rfl⟩ := of_eq_ok_iff.mp named
  have oneByOne : constant? decl = fun member =>
      if !member.attributes.isIgnored then some ⟨naming.constant member, .declared member.value⟩
      else none := funext (constant?_of_naming found)
  rw [oneByOne, ← List.filterMap_filter, List.filterMap_eq_map']

/-- Members that are left out may come or go anywhere. -/
theorem of_withMembers {members : List Member}
    (same : members.filter Member.isKept = decl.members.filter Member.isKept) :
    EnumBinding.of { decl with members } = EnumBinding.of decl := by
  have naming : ConstantNaming.of { decl with members } = ConstantNaming.of decl := rfl
  have name : Decl.bindingName { decl with members } = decl.bindingName := rfl
  have kept := Decl.filter_enumMembers { decl with members }
  simp only [same] at kept
  rw [EnumBinding.of, EnumBinding.of, naming, name, kept, Decl.filter_enumMembers]

/-- A member has the value that is declared for it. -/
theorem value_ne_sentinel (named : EnumBinding.of decl = .ok binding) {constant : Constant}
    (mem : constant ∈ binding.constants) : constant.value ≠ .sentinel := by
  obtain ⟨naming, -, rfl⟩ := of_eq_ok_iff.mp named
  obtain ⟨member, -, rfl⟩ := List.mem_map.mp mem
  exact nofun

/-- There is one sentinel. -/
theorem filter_sentinel_allConstants (named : EnumBinding.of decl = .ok binding) :
    binding.allConstants.filter (·.value = .sentinel) = [binding.sentinel] := by
  have declared : binding.constants.filter (·.value = .sentinel) = [] :=
    List.filter_eq_nil_iff.mpr fun constant mem same =>
      value_ne_sentinel named mem (of_decide_eq_true same)
  rw [allConstants, List.filter_append, declared]
  rfl

/-- **The names of all members of an enum and the name of each of them agree**,
whatever engine compiles its pattern. If the enum has a binding, every member is
named, and gets no name exactly if it is left out; the constants are those of the
members that get a name, in order, so that members that are left out may come or go
anywhere; the binding has the name of the type; and behind the constants comes one
sentinel, called after the stem. If it has none, every member that needs a naming
fails for the same cause, while one that is left out has no name and one with an
explicit binding has that. -/
theorem of_agrees (decl : Decl) :
    (∀ binding, EnumBinding.of decl = .ok binding →
      (∀ member, ∃ name?, constantName? decl member = .ok name? ∧
        (name? = none ↔ member.attributes.isIgnored = true)) ∧
      binding.constants = decl.enumMembers.filterMap (constant? decl) ∧
      (∀ members, members.filter Member.isKept = decl.members.filter Member.isKept →
        EnumBinding.of { decl with members } = .ok binding) ∧
      binding.name = decl.bindingName ∧
      ∃ stem, decl.attributes.stem = some stem ∧
        binding.allConstants =
          binding.constants ++ [⟨"__" ++ stem ++ "__", .sentinel⟩] ∧
        binding.allConstants.filter (·.value = .sentinel) =
          [⟨"__" ++ stem ++ "__", .sentinel⟩]) ∧
    ∀ cause, EnumBinding.of decl = .error cause →
      (∀ member, member.attributes.isIgnored = true → constantName? decl member = .ok none) ∧
      (∀ member name, ¬member.attributes.isIgnored = true →
        member.attributes.explicitBinding = some name →
        constantName? decl member = .ok (some name)) ∧
      ∀ member, ¬member.attributes.isIgnored = true →
        member.attributes.explicitBinding = none → constantName? decl member = .error cause := by
  constructor
  · intro binding named
    obtain ⟨naming, found, -⟩ := of_eq_ok_iff.mp named
    have stem : binding.stem = naming.stem := by
      obtain ⟨naming', found', rfl⟩ := of_eq_ok_iff.mp named
      rw [found, Except.ok.injEq] at found'
      rw [found']
    have sentinel : binding.sentinel = ⟨"__" ++ naming.stem ++ "__", .sentinel⟩ := by
      rw [EnumBinding.sentinel, stem]
    refine ⟨?_, constants_eq_filterMap named, fun _ same => (of_withMembers same).trans named, ?_,
      naming.stem, ConstantNaming.stem_of found, ?_, ?_⟩
    · intro member
      refine ⟨_, constantName?_of_naming found member, ?_⟩
      cases member.attributes.isIgnored <;> simp
    · obtain ⟨_, -, rfl⟩ := of_eq_ok_iff.mp named
      rfl
    · rw [allConstants, sentinel]
    · rw [filter_sentinel_allConstants named, sentinel]
  · intro cause unnamed
    exact ⟨fun _ ignored => constantName?_of_ignored decl ignored,
      fun _ _ kept explicit => constantName?_of_explicit decl kept explicit,
      fun _ kept implicit => constantName?_of_error (of_eq_error_iff.mp unnamed) kept implicit⟩

end EnumBinding

end Naming

end Bindery
