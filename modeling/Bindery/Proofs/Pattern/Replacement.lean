/-
What a replacement is made of.

Where the matches of a pattern are replaced, the result is put together from parts
of the text and from templates that are written out, and these have characters of
their own and of the parts that were captured. The main statements are

* `Pattern.replaceAll_subset`, that a replacement takes its characters from the
  text and from the template;
* `Pattern.addsNothing_engine`, so that the engine of this library adds nothing.
-/

import Bindery.Pattern.Engine

namespace Bindery.Pattern

theorem slice_subset (text : List Char) (first stop : Nat) : slice text first stop ⊆ text :=
  List.Subset.trans (List.take_subset _ _) (List.drop_subset _ _)

theorem captured_subset (pattern : Pattern) (text : List Char) (slots : Slots)
    (name : List Char) : pattern.captured text slots name ⊆ text := by
  rw [captured]
  split
  · exact List.nil_subset _
  · split
    · exact slice_subset _ _ _
    · exact List.nil_subset _

theorem subset_of_cutBrace {text name after : List Char}
    (cut : cutBrace text = some (name, after)) : after ⊆ text := by
  fun_induction cutBrace text generalizing name with
  | case1 => simp at cut
  | case2 rest => simp_all
  | case3 c rest _ ih =>
    simp only [Option.map_eq_some_iff, Prod.mk.injEq, Prod.exists] at cut
    obtain ⟨name', after', cut, -, rfl⟩ := cut
    exact List.Subset.trans (ih cut) (List.subset_cons_self _ _)

/-- A template that is written out has characters of its own and of the text of
its references. -/
theorem expand_subset {group : List Char → List Char} {text : List Char}
    (captures : ∀ name, group name ⊆ text) (template : List Char) :
    expand group template ⊆ template ++ text := by
  fun_induction expand group template with
  | case1 => exact List.nil_subset _
  | case2 rest ih => grind
  | case3 rest name after cut _ ih =>
    have behind := subset_of_cutBrace cut
    grind
  | case4 rest _ ih => grind
  | case5 rest _ _ _ _ ih => grind
  | case6 rest _ _ _ _ ih =>
    have behind : List.dropWhile isReferenceChar rest ⊆ rest :=
      (List.dropWhile_suffix isReferenceChar).subset
    grind
  | case7 c rest _ _ _ ih => grind

theorem replaceFrom_subset (pattern : Pattern) (template text : List Char) (start : Nat)
    (found : List (Nat × Nat × Slots)) :
    pattern.replaceFrom template text start found ⊆ template ++ text := by
  have own : text ⊆ template ++ text := List.subset_append_right _ _
  induction found generalizing start with
  | nil => exact List.Subset.trans (List.drop_subset _ _) own
  | cons entry rest ih =>
    obtain ⟨first, stop, slots⟩ := entry
    have written := expand_subset (pattern.captured_subset text slots) template
    exact List.append_subset.mpr
      ⟨List.append_subset.mpr ⟨List.Subset.trans (slice_subset _ _ _) own, written⟩, ih stop⟩

/-- **A replacement has characters of the template and of the text only.** -/
theorem replaceAll_subset (pattern : Pattern) (template text : List Char) :
    pattern.replaceAll template text ⊆ template ++ text :=
  pattern.replaceFrom_subset template text 0 _

/-- **The engine adds nothing** to what it replaces. -/
theorem addsNothing_engine : engine.AddsNothing := by
  intro text replaceAll compiled template identifier
  cases found : compile? text with
  | none => simp [PatternEngine.compile, found] at compiled
  | some pattern =>
    simp only [PatternEngine.compile, found, Except.ok.injEq] at compiled
    subst compiled
    rw [String.toList_ofList]
    exact pattern.replaceAll_subset _ _

end Bindery.Pattern
