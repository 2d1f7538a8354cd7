/-
Names without line ends.

The name of a constant is made from the identifier of its member and from the stem
and the substitution of its enum, and putting it in upper case adds characters of
its own. No line end comes in on the way, as long as the engine of the patterns
adds none (`PatternEngine.AddsNothing`). The main statements are

* `Unicode.unbroken_upperCase`, for the case mapping;
* `Naming.ConstantNaming.unbroken_constant`, for the constants of an enum.
-/

import Bindery.Proofs.Declaration.Strings
import Bindery.Proofs.Layout.Setting

namespace Bindery

open Bindery.Layout

/-! ### Upper case -/

namespace Unicode

/-- The characters behind the carriage return are no line ends. -/
theorem ofNat_ne_lineEnd {n : Nat} (behind : 13 < n) :
    Char.ofNat n ≠ '\r' ∧ Char.ofNat n ≠ '\n' := by
  have number : (Char.ofNat n).toNat = 0 ∨ 13 < (Char.ofNat n).toNat := by
    by_cases valid : n.isValidChar
    · have same : Char.ofNat n = Char.ofNatAux n valid := dif_pos valid
      rw [same]
      exact .inr behind
    · have same : Char.ofNat n = '\x00' := dif_neg valid
      rw [same]
      exact .inl rfl
  constructor <;>
  · intro same
    rw [same] at number
    revert number
    decide

theorem upperExpansions_behind :
    ∀ entry ∈ upperExpansions, ∀ n ∈ entry.2, 13 < n := by
  decide +kernel

theorem upperRuns_behind : ∀ run ∈ upperRuns, 13 < run.first + run.offset := by
  decide +kernel

theorem unbroken_upperOf {c : Char} (other : c ≠ '\r' ∧ c ≠ '\n') : Unbroken (upperOf c) := by
  intro d mem
  -- ASCII letters, then the characters with several capitals, then the runs.
  rw [upperOf] at mem
  split at mem
  · rw [List.mem_singleton] at mem
    subst mem
    rw [asciiUpper]
    split
    · rename_i lower
      apply ofNat_ne_lineEnd
      simp only [isAsciiLower, inSpan, Bool.and_eq_true, decide_eq_true_eq] at lower
      have small : 'a'.toNat = 97 := rfl
      omega
    · exact other
  · split at mem
    · rename_i expansion found
      obtain ⟨before, after, table, -⟩ := List.lookup_eq_some_iff.mp found
      obtain ⟨n, listed, rfl⟩ := List.mem_map.mp mem
      have entry : (c.toNat, expansion) ∈ upperExpansions := by simp [table]
      exact ofNat_ne_lineEnd (upperExpansions_behind _ entry n listed)
    · rw [List.mem_singleton] at mem
      subst mem
      cases mapped : upperRuns.findSome? (·.image? c.toNat) with
      | none => exact other
      | some n =>
        obtain ⟨run, listed, image⟩ := List.exists_of_findSome?_eq_some mapped
        have behind := upperRuns_behind run listed
        rw [CaseRun.image?] at image
        split at image
        · rename_i inside
          rw [Option.some.injEq] at image
          apply ofNat_ne_lineEnd
          omega
        · cases image

/-- **The upper case of an unbroken text is unbroken.** -/
theorem unbroken_upperCase {text : List Char} (unbroken : Unbroken text) :
    Unbroken (upperCase text) := by
  intro d mem
  obtain ⟨c, inside, image⟩ := List.mem_flatMap.mp mem
  exact unbroken_upperOf (unbroken c inside) d image

end Unicode

/-! ### Constants -/

theorem Text.unbroken_joinWith {sep : String} {parts : List String}
    (between : Unbroken sep.toList) (unbroken : ∀ part ∈ parts, Unbroken part.toList) :
    Unbroken (joinWith sep parts).toList := by
  fun_induction joinWith sep parts with
  | case1 => decide
  | case2 part => exact unbroken part List.mem_cons_self
  | case3 part next rest ih =>
    obtain ⟨here, later⟩ := List.forall_mem_cons.mp unbroken
    rw [String.toList_append, String.toList_append]
    exact (here.append between).append (ih later)

namespace Naming

theorem unbroken_upper {text : String} (unbroken : Unbroken text.toList) :
    Unbroken (upper text).toList := by
  rw [upper, String.toList_ofList]
  exact Unicode.unbroken_upperCase unbroken

theorem unbroken_words {identifier : String} (unbroken : Unbroken identifier.toList) :
    ∀ word ∈ words identifier, Unbroken word.toList := by
  intro word mem
  obtain ⟨chars, split, rfl⟩ := List.mem_map.mp mem
  rw [String.toList_ofList]
  refine unbroken.mono fun c inside => ?_
  rw [← flatten_splitWords Unicode.isUpper Unicode.isLower identifier.toList]
  exact List.mem_flatten.mpr ⟨chars, split, inside⟩

theorem unbroken_braceNumbers {replacement : List Char} (unbroken : Unbroken replacement) :
    Unbroken (braceNumbers replacement) := by
  have braces : Unbroken ['{', '}'] := by decide
  -- The braces are the only characters that are added.
  refine (unbroken.append braces).mono ?_
  clear unbroken braces
  fun_induction braceNumbers replacement with
  | case1 => exact List.nil_subset _
  | case2 rest ih => grind
  | case3 rest _ _ _ ih => grind
  | case4 rest _ _ _ ih =>
    have digits := (List.takeWhile_prefix Char.isDigit (l := rest)).subset
    have behind := (List.dropWhile_suffix Char.isDigit (l := rest)).subset
    grind
  | case5 c rest _ _ ih => grind

namespace ConstantNaming

/-- There is no line end in the stem, and the substitution makes none. -/
structure Unbroken (naming : ConstantNaming) : Prop where
  stem : Layout.Unbroken naming.stem.toList
  replaced : ∀ substitution ∈ naming.substitution, ∀ {identifier : String},
    Layout.Unbroken identifier.toList →
      Layout.Unbroken (substitution.replaceAll substitution.template identifier).toList

theorem Unbroken.parts {naming : ConstantNaming} (unbroken : naming.Unbroken)
    {identifier : String} (whole : Layout.Unbroken identifier.toList) :
    ∀ part ∈ naming.parts identifier, Layout.Unbroken part.toList := by
  rw [ConstantNaming.parts]
  split
  · rename_i substitution chosen
    intro part mem
    rw [List.mem_singleton.mp mem]
    exact unbroken.replaced substitution chosen whole
  · exact unbroken_words whole

variable [PatternEngine]

theorem unbroken_of (adds : PatternEngine.AddsNothing) {decl : Decl} {naming : ConstantNaming}
    (named : ConstantNaming.of decl = .ok naming)
    (unbroken : ∀ text ∈ decl.strings, Layout.Unbroken text.toList) : naming.Unbroken := by
  have carried : ∀ text ∈ decl.attributes.strings, Layout.Unbroken text.toList := fun text mem =>
    unbroken text (decl.attributes_subset_strings mem)
  rw [ConstantNaming.of] at named
  split at named
  · cases named
  · rename_i stem stemmed
    have stem := carried stem (Attributes.stem_mem_strings stemmed)
    split at named
    · cases named
      exact ⟨stem, by simp⟩
    · rename_i pattern replacement substituted
      have replaced := carried replacement (Attributes.replacement_mem_strings substituted)
      split at named
      · cases named
      · rename_i replaceAll compiled
        cases named
        refine ⟨stem, fun substitution chosen identifier whole => ?_⟩
        obtain rfl := Option.mem_some.mp chosen
        have template :
            Layout.Unbroken (String.ofList (braceNumbers replacement.toList)).toList := by
          rw [String.toList_ofList]
          exact unbroken_braceNumbers replaced
        exact (template.append whole).mono (adds compiled _ _)

/-- **The name of a constant is unbroken** if the strings of its enum are. -/
theorem unbroken_constant (adds : PatternEngine.AddsNothing) {decl : Decl}
    {naming : ConstantNaming} {member : EnumMember}
    (named : ConstantNaming.of decl = .ok naming)
    (unbroken : ∀ text ∈ decl.strings, Layout.Unbroken text.toList)
    (mem : member ∈ decl.enumMembers) : Layout.Unbroken (naming.constant member).toList := by
  have own : ∀ text ∈ member.strings, Layout.Unbroken text.toList := fun text inside =>
    unbroken text (Decl.enumMember_subset_strings mem inside)
  have naming := unbroken_of adds named unbroken
  rw [ConstantNaming.constant]
  split
  · rename_i name bound
    exact own name (List.mem_cons_of_mem _ (Attributes.explicitBinding_mem_strings bound))
  · have underscore : Layout.Unbroken "_".toList := by decide
    have parts := naming.parts (own member.name List.mem_cons_self)
    rw [String.toList_append, String.toList_append]
    refine (naming.stem.append underscore).append (Text.unbroken_joinWith underscore ?_)
    intro part mem
    obtain ⟨part, made, rfl⟩ := List.mem_map.mp mem
    exact unbroken_upper (parts part made)

end ConstantNaming

end Naming

end Bindery
