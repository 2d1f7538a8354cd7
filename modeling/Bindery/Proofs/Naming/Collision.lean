/-
When a constant is called like the sentinel.

A name that is derived from a member is the stem, an underscore and a tail, and
the sentinel is called by the stem between two underscores on either side. Read as
an equation of words, the two names can only be equal if the stem runs into itself
two characters further on, so that it has nothing but underscores. The main
statements are

* `eq_underscore_of_append`, that a word which goes on like itself behind two
  underscores has no other character;
* `derivedName_eq_iff`, all solutions of the equation;
* `EnumBinding.of_collides`, when a derived constant of an enum is called like its
  sentinel.
-/

import Bindery.Proofs.Header.TypesText
import Bindery.Proofs.Naming.Agreement
import Mathlib.Data.List.Induction

namespace Bindery.Naming

/-! ### An equation of words -/

/-- A word that goes on like itself behind two underscores is made of underscores. -/
theorem eq_underscore_of_append {word rest rest' : List Char}
    (same : word ++ rest = '_' :: '_' :: (word ++ rest')) : ∀ c ∈ word, c = '_' := by
  induction word using List.twoStepInduction with
  | nil => exact fun c mem => absurd mem List.not_mem_nil
  | singleton first =>
    rw [List.singleton_append, List.cons.injEq] at same
    exact fun c mem => (List.mem_singleton.mp mem).trans same.1
  | cons_cons first second word ih =>
    -- The first two characters are those in front of the word on the right, and
    -- what is left of it stands there behind two underscores again.
    simp only [List.cons_append, List.cons.injEq] at same
    obtain ⟨rfl, rfl, later⟩ := same
    intro c mem
    rcases List.mem_cons.mp mem with rfl | mem
    · rfl
    rcases List.mem_cons.mp mem with rfl | mem
    · rfl
    · exact ih later c mem

/-- Two underscores in front of a word of underscores may as well stand behind it. -/
theorem underscores_append {word : List Char} (underlined : ∀ c ∈ word, c = '_')
    (rest : List Char) : '_' :: '_' :: (word ++ rest) = word ++ '_' :: '_' :: rest := by
  induction word with
  | nil => rfl
  | cons c word ih =>
    obtain rfl := underlined c List.mem_cons_self
    exact congrArg ('_' :: ·) (ih fun c mem => underlined c (List.mem_cons_of_mem _ mem))

/-- **The solutions of the equation**: the stem has nothing but underscores, and the
tail is three of them. -/
theorem derivedName_eq_iff (stem tail : String) :
    stem ++ "_" ++ tail = "__" ++ stem ++ "__" ↔
      (∀ c ∈ stem.toList, c = '_') ∧ tail = "___" := by
  have left : (stem ++ "_" ++ tail).toList = stem.toList ++ '_' :: tail.toList := by simp
  have right : ("__" ++ stem ++ "__").toList = '_' :: '_' :: (stem.toList ++ ['_', '_']) := by
    simp
  rw [← String.toList_inj, left, right]
  constructor
  · intro same
    have underlined := eq_underscore_of_append same
    rw [underscores_append underlined, List.append_cancel_left_eq, List.cons.injEq] at same
    exact ⟨underlined, String.toList_inj.mp same.2⟩
  · rintro ⟨underlined, rfl⟩
    exact (underscores_append underlined _).symm

/-! ### The constants of an enum -/

namespace EnumBinding

/-- **When a derived constant is called like the sentinel.** In an enum that has a
binding, a member that is not left out and has no explicit binding gives a constant
that is called by the stem of the enum, an underscore and a tail: the words of the
member in upper case, or what the substitution makes of it, in upper case. The
sentinel has that name if and only if there is nothing but underscores in the stem
and the tail is three of them. So no stem with another character leads to it, and
the name starts with the stem and an underscore in any case. -/
theorem of_collides [PatternEngine] {decl : Decl} {binding : EnumBinding}
    (named : EnumBinding.of decl = .ok binding) :
    binding.sentinel.name = "__" ++ binding.stem ++ "__" ∧
    ∃ tail, Header.NamesConstants decl binding.stem tail ∧
      ∀ member ∈ decl.enumMembers, ¬member.attributes.isIgnored = true →
        member.attributes.explicitBinding = none →
        let name := binding.stem ++ "_" ++ tail member.name
        constantName? decl member = .ok (some name) ∧
        ⟨name, .declared member.value⟩ ∈ binding.constants ∧
        (name = binding.sentinel.name ↔
          (∀ c ∈ binding.stem.toList, c = '_') ∧ tail member.name = "___") ∧
        ((∃ c ∈ binding.stem.toList, c ≠ '_') → name ≠ binding.sentinel.name) ∧
        (binding.stem ++ "_").toList <+: name.toList := by
  obtain ⟨naming, found, rfl⟩ := of_eq_ok_iff.mp named
  refine ⟨rfl, naming.tail, Header.namesConstants_iff.mpr ⟨naming, found, rfl, rfl⟩, ?_⟩
  intro member mem kept implicit name
  have constant : naming.constant member = name := by
    rw [ConstantNaming.constant, implicit]
  have collides : name = "__" ++ naming.stem ++ "__" ↔
      (∀ c ∈ naming.stem.toList, c = '_') ∧ naming.tail member.name = "___" :=
    derivedName_eq_iff naming.stem (naming.tail member.name)
  refine ⟨?_, ?_, collides, ?_, ?_⟩
  · rw [constantName?_of_naming found, if_neg kept, constant]
  · refine List.mem_map.mpr ⟨member, List.mem_filter.mpr ⟨mem, by simpa using kept⟩, ?_⟩
    rw [constant]
  · rintro ⟨c, inside, other⟩ same
    exact other ((collides.mp same).1 c inside)
  · exact ⟨(naming.tail member.name).toList, String.toList_append.symm⟩

end EnumBinding

/-- An enum whose stem is an underscore. -/
def marks : Decl where
  kind := .enumType
  identifier := "Marks"
  namespacePath := ""
  attributes := [.stem "_"]
  members := [.enumMember ⟨"___", 0, []⟩, .enumMember ⟨"leftHand", 1, []⟩]
  signature := none

/-- The names of that enum, of which the first is that of the sentinel. -/
def marksBinding : EnumBinding :=
  ⟨"Marks", "_", [⟨"_____", .declared 0⟩, ⟨"__LEFT_HAND", .declared 1⟩]⟩

theorem EnumBinding.of_collides_marks :
    EnumBinding.of marks = .ok marksBinding ∧
      ∃ tail, Header.NamesConstants marks "_" tail ∧ tail "___" = "___" ∧
        "_" ++ "_" ++ tail "___" = marksBinding.sentinel.name ∧
        "_" ++ "_" ++ tail "leftHand" ≠ marksBinding.sentinel.name := by
  have named : EnumBinding.of marks = .ok marksBinding := by decide +kernel
  obtain ⟨-, tail, names, derived⟩ := EnumBinding.of_collides named
  obtain ⟨-, listed, collides, -, -⟩ := derived ⟨"___", 0, []⟩ (by decide) (by decide) rfl
  obtain ⟨-, listed', -, -, -⟩ := derived ⟨"leftHand", 1, []⟩ (by decide) (by decide) rfl
  have first : "_" ++ "_" ++ tail "___" = marksBinding.sentinel.name := by
    simpa [marksBinding, EnumBinding.sentinel] using listed
  have second : "_" ++ "_" ++ tail "leftHand" = "__LEFT_HAND" := by
    simpa [marksBinding] using listed'
  refine ⟨named, tail, names, (collides.mp first).2, first, ?_⟩
  rw [second]
  decide

end Bindery.Naming
