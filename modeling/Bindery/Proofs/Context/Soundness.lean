/-
Context forests are forests.

A context keeps its parent, its parent keeps it in a list of children, and the
roots are kept apart from both. `ContextForest.Sound` says that the three agree
and that no context is above itself. The main statements are

* `ContextForest.addRoot_eq_ok_iff` and `ContextForest.addChild_eq_ok_iff`, the
  changes that are accepted and what they change;
* `ContextForest.Sound.insert`, `ContextForest.Sound.addRoot` and
  `ContextForest.Sound.addChild`, that a change keeps a forest sound;
* `ContextForest.Sound.lineage_ancestors`, that the ancestors of a context are
  the whole way up from it, however long that way is.

`Lineage` is the way up from a context, one parent after the other. It is
derived link by link, so it exists only where the way ends and every context on
it was issued.
-/

import Bindery.Context.Forest
import Mathlib.Data.List.Perm.Subperm
import Mathlib.Logic.Relation

namespace Bindery.ContextForest

variable {forest : ContextForest} {id parent child : ContextId}

/-! ### Reading a forest -/

theorem get?_eq_none_iff : forest.get? id = none ↔ forest.size ≤ id :=
  Array.getElem?_eq_none_iff

/-- An issued number has a context. -/
theorem exists_get?_of_lt (issued : id < forest.size) : ∃ context, forest.get? id = some context :=
  ⟨_, Array.getElem?_eq_getElem issued⟩

theorem lt_size_of_get? {context : Context} (found : forest.get? id = some context) :
    id < forest.size :=
  (Array.getElem?_eq_some_iff.mp found).1

theorem parent?_of_get? {context : Context} (found : forest.get? id = some context) :
    forest.parent? id = context.parent := by
  simp [parent?, found]

theorem children_of_get? {context : Context} (found : forest.get? id = some context) :
    forest.children id = context.children := by
  simp [children, found]

theorem lt_size_of_parent? (above : forest.parent? id = some parent) : id < forest.size := by
  obtain ⟨context, found, -⟩ := Option.bind_eq_some_iff.mp above
  exact lt_size_of_get? found

theorem lt_size_of_mem_children (below : child ∈ forest.children id) : id < forest.size := by
  unfold children at below
  split at below
  · rename_i context found
    exact lt_size_of_get? found
  · exact absurd below List.not_mem_nil

/-! ### Reading a changed forest -/

@[simp] theorem fst_insert (forest : ContextForest) (kind : ContextKind) :
    (forest.insert kind).1 = forest.size := rfl

@[simp] theorem size_insert (forest : ContextForest) (kind : ContextKind) :
    (forest.insert kind).2.size = forest.size + 1 :=
  Array.size_push _

theorem get?_insert (forest : ContextForest) (kind : ContextKind) (id : ContextId) :
    (forest.insert kind).2.get? id = if id = forest.size then some { kind } else forest.get? id :=
  Array.getElem?_push

theorem get?_insert_of_lt {kind : ContextKind} (issued : id < forest.size) :
    (forest.insert kind).2.get? id = forest.get? id := by
  rw [get?_insert, if_neg (Nat.ne_of_lt issued)]

/-- A new context has no parent, so it changes no parent. -/
@[simp] theorem parent?_insert (forest : ContextForest) (kind : ContextKind) (id : ContextId) :
    (forest.insert kind).2.parent? id = forest.parent? id := by
  unfold parent?
  rw [get?_insert]
  by_cases fresh : id = forest.size
  · rw [if_pos fresh, get?_eq_none_iff.mpr (Nat.le_of_eq fresh.symm)]
    rfl
  · rw [if_neg fresh]

/-- A new context has no children. -/
@[simp] theorem children_insert (forest : ContextForest) (kind : ContextKind) (id : ContextId) :
    (forest.insert kind).2.children id = forest.children id := by
  unfold children
  rw [get?_insert]
  by_cases fresh : id = forest.size
  · rw [if_pos fresh, get?_eq_none_iff.mpr (Nat.le_of_eq fresh.symm)]
  · rw [if_neg fresh]

@[simp] theorem size_link (forest : ContextForest) (parent child : ContextId) :
    (forest.link parent child).size = forest.size := by
  simp [link, size]

/-- A link sets the parent of the child and adds to the children of the parent,
and every context keeps the rest. -/
theorem get?_link (forest : ContextForest) (parent child id : ContextId) :
    (forest.link parent child).get? id = (forest.get? id).map fun context =>
      { context with
        parent := if child = id then some parent else context.parent
        children := if parent = id then context.children ++ [child] else context.children } := by
  simp only [get?, link, Array.getElem?_modify]
  by_cases above : parent = id <;> by_cases below : child = id <;>
    simp [above, below, Function.comp_def]

theorem get?_link_of_get? {context : Context} (found : forest.get? id = some context)
    (parent child : ContextId) :
    (forest.link parent child).get? id = some
      { context with
        parent := if child = id then some parent else context.parent
        children := if parent = id then context.children ++ [child] else context.children } := by
  rw [get?_link, found]
  rfl

theorem parent?_link (issued : child < forest.size) (parent id : ContextId) :
    (forest.link parent child).parent? id =
      if child = id then some parent else forest.parent? id := by
  unfold parent?
  rw [get?_link]
  by_cases same : child = id
  · subst same
    obtain ⟨context, found⟩ := exists_get?_of_lt issued
    simp [found]
  · cases found : forest.get? id <;> simp [same]

theorem children_link (issued : parent < forest.size) (child id : ContextId) :
    (forest.link parent child).children id =
      if parent = id then forest.children id ++ [child] else forest.children id := by
  unfold children
  rw [get?_link]
  by_cases same : parent = id
  · subst same
    obtain ⟨context, found⟩ := exists_get?_of_lt issued
    simp [found]
  · cases found : forest.get? id <;> simp [same]

/-! ### What is accepted -/

/-- A context becomes a root exactly when it is issued and is neither below
another nor a root. -/
theorem addRoot_eq_ok_iff {after : ContextForest} :
    forest.addRoot id = .ok after ↔
      id < forest.size ∧ forest.parent? id = none ∧ id ∉ forest.roots ∧
        after = { forest with roots := forest.roots ++ [id] } := by
  unfold addRoot
  cases found : forest.get? id with
  | none =>
    have unissued := get?_eq_none_iff.mp found
    simp [Nat.not_lt.mpr unissued]
  | some context =>
    rw [parent?_of_get? found]
    cases above : context.parent with
    | some parent => simp [above]
    | none =>
      by_cases root : id ∈ forest.roots
      · simp [above, root]
      · simp [above, root, lt_size_of_get? found, eq_comm]

/-- A context is put below another exactly when both are issued, it has no place
yet and it is not above the other. -/
theorem addChild_eq_ok_iff {after : ContextForest} :
    forest.addChild parent child = .ok after ↔
      parent < forest.size ∧ child < forest.size ∧ parent ≠ child ∧
        child ∉ forest.ancestors parent ∧ forest.parent? child = none ∧ child ∉ forest.roots ∧
        after = forest.link parent child := by
  unfold addChild
  by_cases unissued : forest.size ≤ parent
  · simp [unissued, Nat.not_lt.mpr unissued]
  · rw [if_neg unissued]
    cases found : forest.get? child with
    | none =>
      have absent := get?_eq_none_iff.mp found
      simp [Nat.not_lt.mpr absent]
    | some context =>
      rw [parent?_of_get? found]
      by_cases cyclic : parent = child ∨ child ∈ forest.ancestors parent
      · rcases cyclic with same | above
        · simp [same]
        · simp [above]
      · obtain ⟨distinct, notAbove⟩ := not_or.mp cyclic
        cases above : context.parent with
        | some existing => simp [above, distinct, notAbove]
        | none =>
          by_cases root : child ∈ forest.roots
          · simp [above, distinct, notAbove, root]
          · simp [above, distinct, notAbove, root, lt_size_of_get? found, Nat.not_le.mp unissued,
              eq_comm]

/-! ### The way up -/

/-- The way up from a context, if there is one: the context itself, its parent
and so on to a context without a parent. -/
inductive Lineage (forest : ContextForest) : Option ContextId → List ContextId → Prop where
  | top : Lineage forest none []
  | up {id : ContextId} {context : Context} {above : List ContextId} :
      forest.get? id = some context → Lineage forest context.parent above →
      Lineage forest (some id) (id :: above)

namespace Lineage

variable {start : Option ContextId} {line : List ContextId}

/-- There is only one way up. -/
theorem unique {other : List ContextId} (first : Lineage forest start line)
    (second : Lineage forest start other) : line = other := by
  induction first generalizing other with
  | top => cases second; rfl
  | up found _ ih =>
    cases second with
    | up found' rest =>
      rw [found, Option.some.injEq] at found'
      subst found'
      rw [ih rest]

/-- The way up meets issued contexts only. -/
theorem lt_size_of_mem (lineage : Lineage forest start line) (mem : id ∈ line) :
    id < forest.size := by
  induction lineage with
  | top => exact absurd mem List.not_mem_nil
  | up found _ ih =>
    rcases List.mem_cons.mp mem with rfl | later
    · exact lt_size_of_get? found
    · exact ih later

/-- From every context that it meets, the way goes on as it would from there. -/
theorem exists_suffix (lineage : Lineage forest start line) (mem : id ∈ line) :
    ∃ rest, Lineage forest (some id) rest ∧ rest <:+ line := by
  induction lineage with
  | top => exact absurd mem List.not_mem_nil
  | @up first context above found tail ih =>
    rcases List.mem_cons.mp mem with rfl | later
    · exact ⟨id :: above, .up found tail, List.suffix_refl _⟩
    · obtain ⟨rest, line, suffix⟩ := ih later
      exact ⟨rest, line, suffix.trans (List.suffix_cons _ _)⟩

/-- The way up meets no context twice: the way from the second meeting would be
both the way from the first and shorter than it. -/
theorem nodup (lineage : Lineage forest start line) : line.Nodup := by
  induction lineage with
  | top => exact List.nodup_nil
  | @up first context above found tail ih =>
    refine List.nodup_cons.mpr ⟨fun again => ?_, ih⟩
    obtain ⟨rest, line, suffix⟩ := tail.exists_suffix again
    have same : rest = first :: above := line.unique (.up found tail)
    have shorter := suffix.length_le
    rw [same, List.length_cons] at shorter
    omega

/-- The way up is no longer than there are contexts. -/
theorem length_le_size (lineage : Lineage forest start line) : line.length ≤ forest.size := by
  have within : line ⊆ List.range forest.size := fun id mem =>
    List.mem_range.mpr (lineage.lt_size_of_mem mem)
  simpa using (lineage.nodup.subperm within).length_le

/-- With enough fuel the chain of parents is the whole way up. -/
theorem chain_eq (lineage : Lineage forest start line) {fuel : Nat} (enough : line.length ≤ fuel) :
    forest.chain fuel start = line := by
  induction lineage generalizing fuel with
  | top => cases fuel <;> rfl
  | up found _ ih =>
    cases fuel with
    | zero => exact absurd enough (Nat.not_succ_le_zero _)
    | succ fuel => rw [chain, parent?_of_get? found, ih (Nat.le_of_succ_le_succ enough)]

/-- A change that keeps the parents of the contexts on the way up keeps the
way. -/
theorem transfer {after : ContextForest} (lineage : Lineage forest start line)
    (kept : ∀ id ∈ line, ∀ context, forest.get? id = some context →
      ∃ later, after.get? id = some later ∧ later.parent = context.parent) :
    Lineage after start line := by
  induction lineage with
  | top => exact .top
  | @up first context above found tail ih =>
    obtain ⟨later, found', same⟩ := kept first List.mem_cons_self context found
    refine .up found' ?_
    rw [same]
    exact ih fun id mem => kept id (List.mem_cons_of_mem _ mem)

/-- Where the child is not on the way up, a link keeps the way. -/
theorem link (lineage : Lineage forest start line) (parent : ContextId) (avoids : child ∉ line) :
    Lineage (forest.link parent child) start line := by
  apply lineage.transfer
  intro id mem context found
  have other : child ≠ id := fun same => avoids (same ▸ mem)
  exact ⟨_, get?_link_of_get? found parent child, if_neg other⟩

end Lineage

/-! ### Sound forests -/

/-- The parents, the children and the roots of a forest agree, and the way up
from every context comes to an end. -/
structure Sound (forest : ContextForest) : Prop where
  /-- Every root is issued. -/
  roots_issued : ∀ {id}, id ∈ forest.roots → id < forest.size
  /-- A context is among the children of its parent and of no other. -/
  mem_children_iff : ∀ {child parent}, child ∈ forest.children parent ↔
    forest.parent? child = some parent
  /-- No context is a child twice. -/
  children_nodup : ∀ id, (forest.children id).Nodup
  /-- No context is a root twice. -/
  roots_nodup : forest.roots.Nodup
  /-- No root has a parent. -/
  root_parentless : ∀ {id}, id ∈ forest.roots → forest.parent? id = none
  /-- From every context there is a way up. -/
  grounded : ∀ {id}, id < forest.size → ∃ line, forest.Lineage (some id) line

/-- The relation of a context to its parent. -/
def Below (forest : ContextForest) (id parent : ContextId) : Prop :=
  forest.parent? id = some parent

namespace Sound

theorem parent_issued (sound : forest.Sound) (above : forest.parent? id = some parent) :
    parent < forest.size :=
  lt_size_of_mem_children (sound.mem_children_iff.mpr above)

theorem child_issued (sound : forest.Sound) (below : child ∈ forest.children parent) :
    child < forest.size :=
  lt_size_of_parent? (sound.mem_children_iff.mp below)

/-- The ancestors of a context are the whole way up from it: the bound on the
length of the chain cuts nothing off. -/
theorem lineage_ancestors (sound : forest.Sound) (issued : id < forest.size) :
    forest.Lineage (some id) (id :: forest.ancestors id) := by
  obtain ⟨line, lineage⟩ := sound.grounded issued
  cases lineage with
  | up found tail =>
    rw [ancestors, parent?_of_get? found, tail.chain_eq tail.length_le_size]
    exact .up found tail

theorem ancestors_nodup (sound : forest.Sound) (issued : id < forest.size) :
    (forest.ancestors id).Nodup :=
  (List.nodup_cons.mp (sound.lineage_ancestors issued).nodup).2

theorem not_mem_ancestors (sound : forest.Sound) (issued : id < forest.size) :
    id ∉ forest.ancestors id :=
  (List.nodup_cons.mp (sound.lineage_ancestors issued).nodup).1

theorem ancestor_issued (sound : forest.Sound) (issued : id < forest.size) {above : ContextId}
    (mem : above ∈ forest.ancestors id) : above < forest.size :=
  (sound.lineage_ancestors issued).lt_size_of_mem (List.mem_cons_of_mem _ mem)

/-- The ancestors of a context are its parent and the ancestors of that. -/
theorem ancestors_of_parent? (sound : forest.Sound) (above : forest.parent? id = some parent) :
    forest.ancestors id = parent :: forest.ancestors parent := by
  have issued := lt_size_of_parent? above
  have line := sound.lineage_ancestors issued
  cases line with
  | up found tail =>
    rw [← parent?_of_get? found, above] at tail
    exact tail.unique (sound.lineage_ancestors (sound.parent_issued above))

/-- The ancestors are the contexts that parents lead to. -/
theorem mem_ancestors_of_transGen (sound : forest.Sound) {above : ContextId}
    (path : Relation.TransGen forest.Below id above) : above ∈ forest.ancestors id := by
  induction path using Relation.TransGen.head_induction_on with
  | single edge =>
    rw [sound.ancestors_of_parent? edge]
    exact List.mem_cons_self
  | head edge _ ih =>
    rw [sound.ancestors_of_parent? edge]
    exact List.mem_cons_of_mem _ ih

/-- Parents lead to every ancestor, and to nothing else. -/
theorem mem_ancestors_iff (sound : forest.Sound) {above : ContextId} :
    above ∈ forest.ancestors id ↔ Relation.TransGen forest.Below id above := by
  refine ⟨?_, sound.mem_ancestors_of_transGen⟩
  rw [ancestors]
  generalize forest.size = fuel
  intro mem
  induction fuel generalizing id with
  | zero => cases edge : forest.parent? id <;> simp [edge, chain] at mem
  | succ fuel ih =>
    cases edge : forest.parent? id with
    | none => simp [edge, chain] at mem
    | some parent =>
      rw [edge, chain] at mem
      rcases List.mem_cons.mp mem with rfl | further
      · exact .single edge
      · exact .head edge (ih further)

/-- Parents never lead back to the context that they start from. -/
theorem acyclic (sound : forest.Sound) (id : ContextId) :
    ¬ Relation.TransGen forest.Below id id := by
  intro cycle
  obtain ⟨parent, edge, -⟩ := Relation.TransGen.head'_iff.mp cycle
  exact sound.not_mem_ancestors (lt_size_of_parent? edge) (sound.mem_ancestors_of_transGen cycle)

end Sound

/-! ### Changes keep a forest sound -/

/-- The empty forest is sound. -/
theorem sound_empty : ({} : ContextForest).Sound where
  roots_issued mem := absurd mem List.not_mem_nil
  mem_children_iff := by simp [children, parent?, get?]
  children_nodup := by simp [children, get?]
  roots_nodup := List.nodup_nil
  root_parentless mem := absurd mem List.not_mem_nil
  grounded issued := absurd issued (Nat.not_lt_zero _)

namespace Sound

theorem insert (sound : forest.Sound) (kind : ContextKind) : (forest.insert kind).2.Sound where
  roots_issued mem := by
    rw [size_insert]
    exact Nat.lt_succ_of_lt (sound.roots_issued mem)
  mem_children_iff := by
    intro child parent
    rw [children_insert, parent?_insert]
    exact sound.mem_children_iff
  children_nodup id := by
    rw [children_insert]
    exact sound.children_nodup id
  roots_nodup := sound.roots_nodup
  root_parentless mem := by
    rw [parent?_insert]
    exact sound.root_parentless mem
  grounded := by
    intro id issued
    rw [size_insert] at issued
    rcases Nat.lt_succ_iff_lt_or_eq.mp issued with old | rfl
    · obtain ⟨line, lineage⟩ := sound.grounded old
      refine ⟨line, lineage.transfer fun id mem context found => ⟨context, ?_, rfl⟩⟩
      rw [get?_insert_of_lt (lineage.lt_size_of_mem mem), found]
    · exact ⟨[forest.size], .up (by rw [get?_insert, if_pos rfl]) .top⟩

theorem addRoot (sound : forest.Sound) {after : ContextForest}
    (added : forest.addRoot id = .ok after) : after.Sound := by
  obtain ⟨issued, parentless, notRoot, rfl⟩ := addRoot_eq_ok_iff.mp added
  exact
    { roots_issued := fun mem => by
        rcases List.mem_append.mp mem with old | new
        · exact sound.roots_issued old
        · rwa [List.mem_singleton.mp new]
      mem_children_iff := sound.mem_children_iff
      children_nodup := sound.children_nodup
      roots_nodup := List.nodup_append.mpr ⟨sound.roots_nodup, by simp,
        fun root mem other new same => notRoot (List.mem_singleton.mp new ▸ same ▸ mem)⟩
      root_parentless := fun mem => by
        rcases List.mem_append.mp mem with old | new
        · exact sound.root_parentless old
        · rw [List.mem_singleton.mp new]
          exact parentless
      grounded := fun issued => by
        obtain ⟨line, lineage⟩ := sound.grounded issued
        exact ⟨line, lineage.transfer fun id _ context found => ⟨context, found, rfl⟩⟩ }

/-- Below a parent that it is not above, a context without a place leaves a way
up from everywhere: the way from the context goes on through the parent. -/
theorem grounded_link (sound : forest.Sound) (issued : parent < forest.size)
    (distinct : parent ≠ child) (notAbove : child ∉ forest.ancestors parent)
    {start : Option ContextId} {line : List ContextId} (lineage : forest.Lineage start line) :
    ∃ longer, (forest.link parent child).Lineage start longer := by
  have fromParent : (forest.link parent child).Lineage (some parent)
      (parent :: forest.ancestors parent) :=
    (sound.lineage_ancestors issued).link parent fun mem =>
      (List.mem_cons.mp mem).elim (fun same => distinct same.symm) notAbove
  induction lineage with
  | top => exact ⟨[], .top⟩
  | @up first context above found _ ih =>
    obtain ⟨longer, rest⟩ := ih
    by_cases same : child = first
    · refine ⟨first :: parent :: forest.ancestors parent,
        .up (get?_link_of_get? found parent child) ?_⟩
      rw [if_pos same]
      exact fromParent
    · refine ⟨first :: longer, .up (get?_link_of_get? found parent child) ?_⟩
      rw [if_neg same]
      exact rest

theorem addChild (sound : forest.Sound) {after : ContextForest}
    (added : forest.addChild parent child = .ok after) : after.Sound := by
  obtain ⟨parentIssued, childIssued, distinct, notAbove, parentless, notRoot, rfl⟩ :=
    addChild_eq_ok_iff.mp added
  -- The child had no parent, so it was among the children of no context.
  have notChild : ∀ id, child ∉ forest.children id := fun id mem => by
    rw [sound.mem_children_iff, parentless] at mem
    cases mem
  exact
    { roots_issued := fun mem => by
        rw [size_link]
        exact sound.roots_issued mem
      mem_children_iff := by
        intro id above
        rw [children_link parentIssued, parent?_link childIssued]
        by_cases same : child = id
        · subst same
          by_cases here : parent = above
          · simp [here]
          · simp [here, notChild above]
        · have kept : id ∈ forest.children above ↔ forest.parent? id = some above :=
            sound.mem_children_iff
          by_cases here : parent = above <;> simp [here, same, Ne.symm same, kept]
      children_nodup := fun id => by
        rw [children_link parentIssued]
        by_cases here : parent = id
        · rw [if_pos here]
          exact List.nodup_append.mpr ⟨sound.children_nodup id, by simp,
            fun old mem new added same => notChild id (List.mem_singleton.mp added ▸ same ▸ mem)⟩
        · rw [if_neg here]
          exact sound.children_nodup id
      roots_nodup := sound.roots_nodup
      root_parentless := fun {id} mem => by
        have other : child ≠ id := fun same => notRoot (same ▸ mem)
        rw [parent?_link childIssued, if_neg other]
        exact sound.root_parentless mem
      grounded := fun issued => by
        rw [size_link] at issued
        obtain ⟨line, lineage⟩ := sound.grounded issued
        exact sound.grounded_link parentIssued distinct notAbove lineage }

end Sound

/-! ### A new context can be placed anywhere -/

/-- A new context becomes a root. -/
theorem addRoot_insert (sound : forest.Sound) (kind : ContextKind) :
    (forest.insert kind).2.addRoot forest.size =
      .ok { (forest.insert kind).2 with roots := forest.roots ++ [forest.size] } := by
  refine addRoot_eq_ok_iff.mpr ⟨by simp, ?_, fun mem => ?_, rfl⟩
  · rw [parent?_insert, parent?, get?_eq_none_iff.mpr (Nat.le_refl _)]
    rfl
  · exact Nat.lt_irrefl _ (sound.roots_issued mem)

/-- A new context is put below any context that was issued before it. -/
theorem addChild_insert (sound : forest.Sound) (kind : ContextKind) (issued : id < forest.size) :
    (forest.insert kind).2.addChild id forest.size =
      .ok ((forest.insert kind).2.link id forest.size) := by
  have above : id < (forest.insert kind).2.size := by
    rw [size_insert]
    exact Nat.lt_succ_of_lt issued
  -- Nothing above an old context is new.
  have old : forest.size ∉ (forest.insert kind).2.ancestors id := by
    intro mem
    have line : (forest.insert kind).2.Lineage (some id) (id :: forest.ancestors id) :=
      (sound.lineage_ancestors issued).transfer fun other mem context found => ⟨context, by
        rw [get?_insert_of_lt (lt_size_of_get? found), found], rfl⟩
    have same := ((sound.insert kind).lineage_ancestors above).unique line
    rw [List.cons.injEq] at same
    rw [same.2] at mem
    exact Nat.lt_irrefl _ (sound.ancestor_issued issued mem)
  refine addChild_eq_ok_iff.mpr
    ⟨above, by simp, Nat.ne_of_lt issued, old, ?_, fun mem => ?_, rfl⟩
  · rw [parent?_insert, parent?, get?_eq_none_iff.mpr (Nat.le_refl _)]
    rfl
  · exact Nat.lt_irrefl _ (sound.roots_issued mem)

end Bindery.ContextForest
