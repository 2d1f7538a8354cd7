/-
Walks through a context forest come to an end.

The names of contexts and their order are computed by walks whose length is
bounded from outside. `Named` and `Walked` are the same walks without a bound:
they are derived visit by visit, so a derivation is a walk that ends and reads
issued contexts only. In a sound forest the bounded walks are these
(`Sound.named_name`, `Sound.walked_preOrder`). For the walk over all contexts
that needs an invariant, `Pending`: what was visited and what is yet to be
visited are different contexts, and a context comes up only below one that was
visited. Where every context has a place, the walk visits each of them once
(`Sound.preOrder_perm_range`).
-/

import Bindery.Proofs.Context.Soundness

namespace Bindery.ContextForest

variable {forest : ContextForest} {id parent child : ContextId}

/-! ### Names -/

/-- The display name of a context: a share is called like its parent, and like
nothing without one. -/
inductive Named (forest : ContextForest) : ContextId → String → Prop where
  | type {id : ContextId} {context : Context} {decl : Decl} {mapped : Option String} :
      forest.get? id = some context → context.kind = .type decl mapped →
      Named forest id decl.identifier
  | module {id : ContextId} {context : Context} {name : String} :
      forest.get? id = some context → context.kind = .module name → Named forest id name
  | detached {id : ContextId} {context : Context} {origin : ContextId} {methods : List Method} :
      forest.get? id = some context → context.kind = .share origin methods →
      context.parent = none → Named forest id ""
  | share {id parent : ContextId} {context : Context} {origin : ContextId} {methods : List Method}
      {name : String} :
      forest.get? id = some context → context.kind = .share origin methods →
      context.parent = some parent → Named forest parent name → Named forest id name

/-- Where the way up is no longer than the bound, the bounded name is the
name. -/
theorem Lineage.named_nameWithin {line : List ContextId} {fuel : Nat}
    (lineage : forest.Lineage (some id) line) (enough : line.length ≤ fuel + 1) :
    forest.Named id (forest.nameWithin fuel id) := by
  induction fuel generalizing id line with
  | zero =>
    cases lineage with
    | @up _ context above found tail =>
      have top : context.parent = none := by
        cases parentEq : context.parent with
        | none => rfl
        | some parent =>
          rw [parentEq] at tail
          cases tail
          simp at enough
      cases kindEq : context.kind with
      | type decl mapped => simpa [nameWithin, found, kindEq] using Named.type found kindEq
      | module name => simpa [nameWithin, found, kindEq] using Named.module found kindEq
      | share origin methods =>
        simpa [nameWithin, found, kindEq] using Named.detached found kindEq top
  | succ fuel ih =>
    cases lineage with
    | @up _ context above found tail =>
      cases kindEq : context.kind with
      | type decl mapped => simpa [nameWithin, found, kindEq] using Named.type found kindEq
      | module name => simpa [nameWithin, found, kindEq] using Named.module found kindEq
      | share origin methods =>
        cases parentEq : context.parent with
        | none =>
          simpa [nameWithin, found, kindEq, parentEq] using Named.detached found kindEq parentEq
        | some parent =>
          rw [parentEq] at tail
          have same : forest.nameWithin (fuel + 1) id = forest.nameWithin fuel parent := by
            rw [nameWithin]
            simp only [found, kindEq, parentEq]
          rw [same]
          exact .share found kindEq parentEq (ih tail (Nat.le_of_succ_le_succ enough))

/-- Every issued context has its display name. -/
theorem Sound.named_name (sound : forest.Sound) (issued : id < forest.size) :
    forest.Named id (forest.name id) := by
  obtain ⟨line, lineage⟩ := sound.grounded issued
  exact lineage.named_nameWithin (Nat.le_succ_of_le lineage.length_le_size)

/-! ### The order of the contexts -/

/-- The contexts on a stack in the order in which they are visited, the children
of each before the rest of the stack. -/
inductive Walked (forest : ContextForest) : List ContextId → List ContextId → Prop where
  | done : Walked forest [] []
  | visit {id : ContextId} {context : Context} {stack order : List ContextId} :
      forest.get? id = some context → Walked forest (context.children ++ stack) order →
      Walked forest (id :: stack) (id :: order)

/-- What a walk knows: the contexts that were visited and those on the stack are
issued, no two are the same, and each is parentless or below one that was
visited. -/
structure Pending (forest : ContextForest) (visited stack : List ContextId) : Prop where
  nodup : (visited ++ stack).Nodup
  issued : ∀ id ∈ visited ++ stack, id < forest.size
  placed : ∀ id ∈ visited ++ stack, forest.parent? id = none ∨
    ∃ parent ∈ visited, forest.parent? id = some parent

namespace Pending

variable {visited stack : List ContextId}

/-- A walk starts from the roots. -/
theorem roots (sound : forest.Sound) : forest.Pending [] forest.roots where
  nodup := sound.roots_nodup
  issued _ mem := sound.roots_issued mem
  placed _ mem := .inl (sound.root_parentless mem)

/-- The children of the context that is visited next did not come up before:
their parent was not visited yet. -/
theorem children_disjoint (sound : forest.Sound) (pending : forest.Pending visited (id :: stack))
    (below : child ∈ forest.children id) : child ∉ visited ++ id :: stack := by
  intro mem
  have above := sound.mem_children_iff.mp below
  rcases pending.placed child mem with parentless | ⟨parent, earlier, same⟩
  · rw [parentless] at above
    cases above
  · rw [above, Option.some.injEq] at same
    subst same
    exact (List.nodup_append.mp pending.nodup).2.2 id earlier id List.mem_cons_self rfl

/-- A visit moves a context from the stack to those visited and puts its
children on the stack. -/
theorem visit (sound : forest.Sound) (pending : forest.Pending visited (id :: stack)) :
    forest.Pending (visited ++ [id]) (forest.children id ++ stack) := by
  have split : (visited ++ [id] ++ (forest.children id ++ stack)).Perm
      (forest.children id ++ (visited ++ id :: stack)) := by
    have moved := List.perm_append_comm_assoc (visited ++ [id]) (forest.children id) stack
    simpa only [List.append_assoc, List.singleton_append] using moved
  refine ⟨?_, ?_, ?_⟩
  · refine (split.nodup_iff).mpr (List.nodup_append.mpr
      ⟨sound.children_nodup id, pending.nodup, fun child below other mem same => ?_⟩)
    exact children_disjoint sound pending below (same ▸ mem)
  · intro other mem
    rcases List.mem_append.mp (split.mem_iff.mp mem) with below | old
    · exact sound.child_issued below
    · exact pending.issued other old
  · intro other mem
    rcases List.mem_append.mp (split.mem_iff.mp mem) with below | old
    · exact .inr ⟨id, by simp, sound.mem_children_iff.mp below⟩
    · rcases pending.placed other old with parentless | ⟨parent, earlier, above⟩
      · exact .inl parentless
      · exact .inr ⟨parent, List.mem_append_left _ earlier, above⟩

/-- There are no more contexts visited and pending than there are. -/
theorem length_le_size (pending : forest.Pending visited stack) :
    visited.length + stack.length ≤ forest.size := by
  have within : visited ++ stack ⊆ List.range forest.size := fun id mem =>
    List.mem_range.mpr (pending.issued id mem)
  simpa using (pending.nodup.subperm within).length_le

/-- With as much fuel as there are contexts not visited, the bounded walk is the
walk. -/
theorem walked_walk (sound : forest.Sound) {fuel : Nat} (pending : forest.Pending visited stack)
    (enough : forest.size ≤ visited.length + fuel) :
    forest.Walked stack (forest.walk fuel stack) := by
  induction fuel generalizing visited stack with
  | zero =>
    cases stack with
    | nil => exact .done
    | cons id stack =>
      have bound := pending.length_le_size
      simp only [List.length_cons] at bound
      omega
  | succ fuel ih =>
    cases stack with
    | nil => exact .done
    | cons id stack =>
      obtain ⟨context, found⟩ := exists_get?_of_lt (pending.issued id (by simp))
      refine .visit found ?_
      rw [← children_of_get? found]
      refine ih (pending.visit sound) ?_
      simp only [List.length_append, List.length_singleton]
      omega

end Pending

/-- The order of the contexts is the walk from the roots. -/
theorem Sound.walked_preOrder (sound : forest.Sound) :
    forest.Walked forest.roots forest.preOrder :=
  (Pending.roots sound).walked_walk sound (by simp)

/-! ### No context is missed -/

namespace Walked

variable {visited stack order : List ContextId}

/-- A walk that has come to its end has nothing pending. -/
theorem pending (sound : forest.Sound) (walked : forest.Walked stack order)
    (before : forest.Pending visited stack) : forest.Pending (visited ++ order) [] := by
  induction walked generalizing visited with
  | done => simpa using before
  | @visit id context stack order found _ ih =>
    have next := before.visit sound
    rw [children_of_get? found] at next
    simpa using ih next

/-- A walk visits what is on the stack. -/
theorem mem_of_mem_stack (walked : forest.Walked stack order) (mem : id ∈ stack) : id ∈ order := by
  induction walked with
  | done => exact absurd mem List.not_mem_nil
  | visit found _ ih =>
    rcases List.mem_cons.mp mem with rfl | later
    · exact List.mem_cons_self
    · exact List.mem_cons_of_mem _ (ih (List.mem_append_right _ later))

/-- A walk visits the children of what it visits. -/
theorem mem_of_mem_children (walked : forest.Walked stack order) (mem : id ∈ order)
    (below : child ∈ forest.children id) : child ∈ order := by
  induction walked with
  | done => exact absurd mem List.not_mem_nil
  | visit found rest ih =>
    rcases List.mem_cons.mp mem with rfl | later
    · rw [children_of_get? found] at below
      exact List.mem_cons_of_mem _ (rest.mem_of_mem_stack (List.mem_append_left _ below))
    · exact List.mem_cons_of_mem _ (ih later)

end Walked

/-- Every context is a root or below another one. -/
def Placed (forest : ContextForest) : Prop :=
  ∀ id < forest.size, id ∈ forest.roots ∨ ∃ parent, forest.parent? id = some parent

/-- Where every context is placed, the order of the contexts has each of them
once. -/
theorem Sound.preOrder_perm_range (sound : forest.Sound) (placed : forest.Placed) :
    forest.preOrder.Perm (List.range forest.size) := by
  have walked := sound.walked_preOrder
  have done : forest.Pending forest.preOrder [] := walked.pending sound (.roots sound)
  have all : ∀ {start line}, forest.Lineage start line → ∀ id ∈ start, id ∈ forest.preOrder := by
    intro start line lineage
    induction lineage with
    | top => simp
    | @up first context above found tail ih =>
      rintro id ⟨⟩
      rcases placed first (lt_size_of_get? found) with root | ⟨parent, up⟩
      · exact walked.mem_of_mem_stack root
      · rw [parent?_of_get? found] at up
        refine walked.mem_of_mem_children (ih parent up) ?_
        rw [sound.mem_children_iff, parent?_of_get? found, up]
  refine (List.perm_ext_iff_of_nodup ?_ List.nodup_range).mpr fun id => ?_
  · simpa using done.nodup
  · rw [List.mem_range]
    constructor
    · intro mem
      exact done.issued id (List.mem_append_left _ mem)
    · intro issued
      obtain ⟨line, lineage⟩ := sound.grounded issued
      exact all lineage id rfl

end Bindery.ContextForest
