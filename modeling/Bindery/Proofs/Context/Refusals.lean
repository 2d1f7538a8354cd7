/-
What a context forest refuses.

A context becomes a root or is put below another one unless that would leave
something that is not a forest. The test for a cycle walks up from the parent
and looks for the child; `ContextForest.Sound.closesCycle_iff` says that it finds
the child exactly when the new link would lead some context back to itself. So
the reasons for a refusal can be stated about the links alone
(`ContextForest.ChildConflict`, `ContextForest.RootConflict`), each of them where
none of those before it applies. The main statements are

* `ContextForest.Sound.addChild_eq_error_iff` and
  `ContextForest.addRoot_eq_error_iff`, which reason is given;
* `ContextForest.linked_of_addChild`, what is changed otherwise;
* `Assembly.perform_placements`, what is accepted, refused and changed after any
  history of changes.
-/

import Bindery.Proofs.Context.Registration

namespace Bindery

namespace ContextForest

variable {forest after : ContextForest} {id parent child : ContextId} {reason : Conflict}

/-! ### Cycles -/

/-- The relation of a context to its parent, where `child` is below `parent`
too. -/
def BelowWith (forest : ContextForest) (parent child id above : ContextId) : Prop :=
  forest.Below id above ∨ id = child ∧ above = parent

/-- With `child` below `parent`, parents would lead some context back to
itself. -/
def ClosesCycle (forest : ContextForest) (parent child : ContextId) : Prop :=
  ∃ id, Relation.TransGen (forest.BelowWith parent child) id id

/-- A way that uses the new link comes to the child by old links, and goes on
from the parent by old links behind the last time that it uses the new one. -/
theorem reflTransGen_of_belowWith {start stop : ContextId}
    (path : Relation.TransGen (forest.BelowWith parent child) start stop) :
    Relation.TransGen forest.Below start stop ∨
      Relation.ReflTransGen forest.Below start child ∧
        Relation.ReflTransGen forest.Below parent stop := by
  induction path with
  | single edge =>
    rcases edge with old | ⟨rfl, rfl⟩
    · exact .inl (.single old)
    · exact .inr ⟨.refl, .refl⟩
  | tail _ edge ih =>
    rcases edge with old | ⟨rfl, rfl⟩
    · rcases ih with before | ⟨up, onward⟩
      · exact .inl (before.tail old)
      · exact .inr ⟨up, onward.tail old⟩
    · rcases ih with before | ⟨up, -⟩
      · exact .inr ⟨before.to_reflTransGen, .refl⟩
      · exact .inr ⟨up, .refl⟩

/-- **A link closes a cycle exactly when it goes to the context itself or to one
of its ancestors.** -/
theorem Sound.closesCycle_iff (sound : forest.Sound) :
    forest.ClosesCycle parent child ↔ parent = child ∨ child ∈ forest.ancestors parent := by
  constructor
  · rintro ⟨id, cycle⟩
    rcases reflTransGen_of_belowWith cycle with old | ⟨up, onward⟩
    · exact absurd old (sound.acyclic id)
    · rcases Relation.reflTransGen_iff_eq_or_transGen.mp (onward.trans up) with same | path
      · exact .inl same.symm
      · exact .inr (sound.mem_ancestors_iff.mpr path)
  · have new : forest.BelowWith parent child child parent := .inr ⟨rfl, rfl⟩
    rintro (rfl | above)
    · exact ⟨parent, .single new⟩
    · have path : Relation.TransGen (forest.BelowWith parent child) parent child :=
        (sound.mem_ancestors_iff.mp above).lift (fun id => id) fun _ _ edge => .inl edge
      exact ⟨child, .head new path⟩

/-! ### Reasons -/

/-- Why `child` cannot be put below `parent`. A reason is given where those
before it do not apply. -/
inductive ChildConflict (forest : ContextForest) (parent child : ContextId) : Conflict → Prop where
  | unknownParent : ¬ parent < forest.size →
      ChildConflict forest parent child (.unknownContext parent)
  | unknownChild : parent < forest.size → ¬ child < forest.size →
      ChildConflict forest parent child (.unknownContext child)
  | selfParent : parent < forest.size → child < forest.size →
      forest.ClosesCycle parent child →
      ChildConflict forest parent child (.selfParent (forest.label child))
  | alreadyParented {existing : ContextId} : parent < forest.size → child < forest.size →
      ¬ forest.ClosesCycle parent child → forest.parent? child = some existing →
      ChildConflict forest parent child
        (.alreadyParented (forest.label child) (forest.label existing))
  | alreadyRegistered : parent < forest.size → child < forest.size →
      ¬ forest.ClosesCycle parent child → forest.parent? child = none → child ∈ forest.roots →
      ChildConflict forest parent child (.alreadyRegistered (forest.label child))

/-- Why a context cannot become a root. A reason is given where those before it
do not apply. -/
inductive RootConflict (forest : ContextForest) (id : ContextId) : Conflict → Prop where
  | unknown : ¬ id < forest.size → RootConflict forest id (.unknownContext id)
  | alreadyParented {existing : ContextId} : id < forest.size →
      forest.parent? id = some existing →
      RootConflict forest id (.alreadyParented (forest.label id) (forest.label existing))
  | alreadyRegistered : id < forest.size → forest.parent? id = none → id ∈ forest.roots →
      RootConflict forest id (.alreadyRegistered (forest.label id))

/-- There is one reason at most. -/
theorem ChildConflict.unique {other : Conflict} (first : forest.ChildConflict parent child reason)
    (second : forest.ChildConflict parent child other) : reason = other := by
  cases first <;> cases second <;> simp_all

theorem RootConflict.unique {other : Conflict} (first : forest.RootConflict id reason)
    (second : forest.RootConflict id other) : reason = other := by
  cases first <;> cases second <;> simp_all

/-- Where there is a reason, a context is not put below another. -/
theorem ChildConflict.addChild_ne_ok (sound : forest.Sound)
    (conflict : forest.ChildConflict parent child reason) :
    forest.addChild parent child ≠ .ok after := by
  intro added
  obtain ⟨parentIssued, childIssued, distinct, notAbove, parentless, notRoot, -⟩ :=
    addChild_eq_ok_iff.mp added
  cases conflict with
  | unknownParent unissued => exact unissued parentIssued
  | unknownChild _ unissued => exact unissued childIssued
  | selfParent _ _ cyclic => exact (sound.closesCycle_iff.mp cyclic).elim distinct notAbove
  | alreadyParented _ _ _ above => exact absurd (parentless.symm.trans above) nofun
  | alreadyRegistered _ _ _ _ root => exact notRoot root

theorem RootConflict.addRoot_ne_ok (conflict : forest.RootConflict id reason) :
    forest.addRoot id ≠ .ok after := by
  intro added
  obtain ⟨issued, parentless, notRoot, -⟩ := addRoot_eq_ok_iff.mp added
  cases conflict with
  | unknown unissued => exact unissued issued
  | alreadyParented _ above => exact absurd (parentless.symm.trans above) nofun
  | alreadyRegistered _ _ root => exact notRoot root

/-- A context that is not put below another is refused for a reason. -/
theorem Sound.childConflict_of_addChild (sound : forest.Sound)
    (refused : forest.addChild parent child = .error reason) :
    forest.ChildConflict parent child reason := by
  unfold ContextForest.addChild at refused
  split at refused
  · rename_i unissued
    cases refused
    exact .unknownParent (Nat.not_lt.mpr unissued)
  rename_i issued
  have parentIssued := Nat.not_le.mp issued
  split at refused
  · rename_i absent
    cases refused
    exact .unknownChild parentIssued (Nat.not_lt.mpr (get?_eq_none_iff.mp absent))
  rename_i context found
  have childIssued := lt_size_of_get? found
  split at refused
  · rename_i cyclic
    cases refused
    exact .selfParent parentIssued childIssued (sound.closesCycle_iff.mpr cyclic)
  rename_i acyclic
  have closesNone := mt sound.closesCycle_iff.mp acyclic
  split at refused
  · rename_i existing above
    cases refused
    exact .alreadyParented parentIssued childIssued closesNone ((parent?_of_get? found).trans above)
  rename_i parentless
  split at refused
  · rename_i root
    cases refused
    exact .alreadyRegistered parentIssued childIssued closesNone
      ((parent?_of_get? found).trans parentless) root
  · cases refused

theorem rootConflict_of_addRoot (refused : forest.addRoot id = .error reason) :
    forest.RootConflict id reason := by
  unfold addRoot at refused
  split at refused
  · rename_i absent
    cases refused
    exact .unknown (Nat.not_lt.mpr (get?_eq_none_iff.mp absent))
  rename_i context found
  have issued := lt_size_of_get? found
  split at refused
  · rename_i existing above
    cases refused
    exact .alreadyParented issued ((parent?_of_get? found).trans above)
  rename_i parentless
  split at refused
  · rename_i root
    cases refused
    exact .alreadyRegistered issued ((parent?_of_get? found).trans parentless) root
  · cases refused

/-- **A context is not put below another exactly for the first reason that
applies.** -/
theorem Sound.addChild_eq_error_iff (sound : forest.Sound) :
    forest.addChild parent child = .error reason ↔ forest.ChildConflict parent child reason := by
  constructor
  · exact sound.childConflict_of_addChild
  · intro conflict
    cases result : forest.addChild parent child with
    | ok after => exact absurd result (conflict.addChild_ne_ok sound)
    | error given => rw [(sound.childConflict_of_addChild result).unique conflict]

/-- **A context does not become a root exactly for the first reason that
applies.** -/
theorem addRoot_eq_error_iff :
    forest.addRoot id = .error reason ↔ forest.RootConflict id reason := by
  constructor
  · exact rootConflict_of_addRoot
  · intro conflict
    cases result : forest.addRoot id with
    | ok after => exact absurd result conflict.addRoot_ne_ok
    | error given => rw [(rootConflict_of_addRoot result).unique conflict]

/-! ### Changes -/

/-- What a link from `child` to `parent` changes: the child has a parent, the
parent has one more child, and nothing else is different. -/
structure Linked (before after : ContextForest) (parent child : ContextId) : Prop where
  size : after.size = before.size
  roots : after.roots = before.roots
  kinds : ∀ id, after.kind? id = before.kind? id
  parents : ∀ id, after.parent? id = if id = child then some parent else before.parent? id
  children : ∀ id, after.children id =
    if id = parent then before.children id ++ [child] else before.children id

theorem linked_of_addChild (added : forest.addChild parent child = .ok after) :
    forest.Linked after parent child := by
  obtain ⟨parentIssued, childIssued, -, -, -, -, rfl⟩ := addChild_eq_ok_iff.mp added
  refine ⟨size_link _ _ _, rfl, kind?_link _ _ _, ?_, ?_⟩
  · intro id
    rw [parent?_link childIssued]
    simp only [eq_comm]
  · intro id
    rw [children_link parentIssued]
    simp only [eq_comm]

/-- A context is put below another exactly when both are issued, it is neither
below a context nor a root, and no cycle is closed. -/
theorem Sound.exists_addChild_iff (sound : forest.Sound) :
    (∃ after, forest.addChild parent child = .ok after) ↔
      parent < forest.size ∧ child < forest.size ∧ forest.parent? child = none ∧
        child ∉ forest.roots ∧ ¬ forest.ClosesCycle parent child := by
  rw [sound.closesCycle_iff, not_or]
  constructor
  · rintro ⟨after, added⟩
    obtain ⟨parentIssued, childIssued, distinct, notAbove, parentless, notRoot, -⟩ :=
      addChild_eq_ok_iff.mp added
    exact ⟨parentIssued, childIssued, parentless, notRoot, distinct, notAbove⟩
  · rintro ⟨parentIssued, childIssued, parentless, notRoot, distinct, notAbove⟩
    exact ⟨_, addChild_eq_ok_iff.mpr
      ⟨parentIssued, childIssued, distinct, notAbove, parentless, notRoot, rfl⟩⟩

theorem exists_addRoot_iff :
    (∃ after, forest.addRoot id = .ok after) ↔
      id < forest.size ∧ forest.parent? id = none ∧ id ∉ forest.roots := by
  constructor
  · rintro ⟨after, added⟩
    obtain ⟨issued, parentless, notRoot, -⟩ := addRoot_eq_ok_iff.mp added
    exact ⟨issued, parentless, notRoot⟩
  · rintro ⟨issued, parentless, notRoot⟩
    exact ⟨_, addRoot_eq_ok_iff.mpr ⟨issued, parentless, notRoot, rfl⟩⟩

end ContextForest

namespace Assembly

theorem change_addChild (assembly : Assembly) (parent child : ContextId) :
    assembly.change (.addChild parent child) =
      (assembly.forest.addChild parent child).map fun forest => { assembly with forest } := by
  rw [change, Assembly.addChild]
  cases assembly.forest.addChild parent child <;> rfl

theorem change_addRoot (assembly : Assembly) (id : ContextId) :
    assembly.change (.addRoot id) =
      (assembly.forest.addRoot id).map fun forest => { assembly with forest } := by
  rw [change, Assembly.addRoot]
  cases assembly.forest.addRoot id <;> rfl

/-- **What is accepted after any history of changes, what is refused, and what
changes.** A context is put below another exactly when both are issued, it has no
parent and is no root, and no cycle is closed, which would take a link to itself
or to an ancestor. A context becomes a root exactly when it is issued, has no
parent and is no root. Otherwise the first reason that applies is given and
nothing changes. Where the change is accepted, it is the only one. -/
theorem perform_placements (changes : List Change) :
    let assembly := ({} : Assembly).perform changes
    let forest := assembly.forest
    (∀ parent child,
      ((∃ after, forest.addChild parent child = .ok after) ↔
        parent < forest.size ∧ child < forest.size ∧ forest.parent? child = none ∧
          child ∉ forest.roots ∧ ¬ forest.ClosesCycle parent child) ∧
      (forest.ClosesCycle parent child ↔ child = parent ∨ child ∈ forest.ancestors parent) ∧
      (∀ reason, forest.addChild parent child = .error reason ↔
        forest.ChildConflict parent child reason) ∧
      (∀ reason, forest.addChild parent child = .error reason →
        assembly.apply (.addChild parent child) = assembly) ∧
      ∀ after, forest.addChild parent child = .ok after →
        assembly.apply (.addChild parent child) = { assembly with forest := after } ∧
          forest.Linked after parent child) ∧
    ∀ id,
      ((∃ after, forest.addRoot id = .ok after) ↔
        id < forest.size ∧ forest.parent? id = none ∧ id ∉ forest.roots) ∧
      (∀ reason, forest.addRoot id = .error reason ↔ forest.RootConflict id reason) ∧
      (∀ reason, forest.addRoot id = .error reason → assembly.apply (.addRoot id) = assembly) ∧
      ∀ after, forest.addRoot id = .ok after →
        assembly.apply (.addRoot id) = { assembly with forest := after } ∧
          after = { forest with roots := forest.roots ++ [id] } := by
  intro assembly forest
  have sound : forest.Sound := (sound_empty.perform changes).1.forest
  constructor
  · intro parent child
    refine ⟨sound.exists_addChild_iff, ?_, fun _ => sound.addChild_eq_error_iff, ?_, ?_⟩
    · rw [sound.closesCycle_iff, eq_comm]
    · intro reason refused
      exact apply_of_error (by rw [change_addChild, refused]; rfl)
    · intro after added
      exact ⟨apply_of_ok (by rw [change_addChild, added]; rfl),
        ContextForest.linked_of_addChild added⟩
  · intro id
    refine ⟨ContextForest.exists_addRoot_iff, fun _ => ContextForest.addRoot_eq_error_iff, ?_, ?_⟩
    · intro reason refused
      exact apply_of_error (by rw [change_addRoot, refused]; rfl)
    · intro after added
      obtain ⟨-, -, -, same⟩ := ContextForest.addRoot_eq_ok_iff.mp added
      exact ⟨apply_of_ok (by rw [change_addRoot, added]; rfl), same⟩

end Assembly

end Bindery
