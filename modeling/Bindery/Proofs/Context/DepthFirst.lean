/-
The order of the contexts is depth first.

The order of the contexts is computed with a stack. `ContextForest.subtree` says
what it should be, by recursion over the children: a context, followed by the
subtrees of its children. The recursion is bounded by a depth, since nothing in a
list of contexts says that the links to children come to an end; in a sound
forest the bound is never reached, because a context has fewer ancestors than
there are contexts. The main statements are

* `Sound.subtree_eq` and `Sound.subtree_unique`, the recursion without a bound,
  and that nothing else satisfies it;
* `Sound.preOrder_eq_flatMap`, that the stack gives the subtrees of the roots;
* `Sound.mem_preOrder_iff`, that it gives the contexts that hang on a root;
* `Sound.sublist_preOrder`, that ancestors come first;
* `Assembly.perform_depthFirst`, all of it after any history of changes.
-/

import Bindery.Proofs.Context.History

namespace Bindery

namespace ContextForest

variable {forest : ContextForest} {id child above : ContextId} {stack order : List ContextId}

/-! ### Subtrees -/

/-- A context, followed by what is below it down to a depth. -/
def subtreeWithin (forest : ContextForest) : Nat → ContextId → List ContextId
  | 0, id => [id]
  | depth + 1, id => id :: (forest.children id).flatMap (forest.subtreeWithin depth)

/-- A context, followed by what is below it. Nothing is deeper below it than
there are contexts. -/
def subtree (forest : ContextForest) (id : ContextId) : List ContextId :=
  forest.subtreeWithin forest.size id

/-- The context is a root, or the last context above it is one. -/
def Attached (forest : ContextForest) (id : ContextId) : Prop :=
  id ∈ forest.roots ∨ ∃ root ∈ forest.roots, (forest.ancestors id).getLast? = some root

namespace Sound

/-- A child has one ancestor more than its parent, and still fewer than there are
contexts. -/
theorem length_ancestors_child (sound : forest.Sound) (below : child ∈ forest.children id) :
    (forest.ancestors child).length = (forest.ancestors id).length + 1 ∧
      (forest.ancestors child).length < forest.size := by
  constructor
  · rw [sound.ancestors_of_parent? (sound.mem_children_iff.mp below)]
    rfl
  · exact (sound.lineage_ancestors (sound.child_issued below)).length_le_size

/-- A bound that leaves room for all contexts that are not above may be raised. -/
theorem subtreeWithin_succ (sound : forest.Sound) {depth : Nat}
    (enough : forest.size ≤ depth + (forest.ancestors id).length + 1) :
    forest.subtreeWithin (depth + 1) id = forest.subtreeWithin depth id := by
  induction depth generalizing id with
  | zero =>
    -- A child would have as many ancestors as there are contexts.
    have childless : forest.children id = [] := by
      apply List.eq_nil_iff_forall_not_mem.mpr
      intro child below
      obtain ⟨length, bound⟩ := sound.length_ancestors_child below
      omega
    simp [subtreeWithin, childless]
  | succ depth ih =>
    rw [subtreeWithin, subtreeWithin]
    congr 1
    apply List.flatMap_congr
    intro child below
    obtain ⟨length, -⟩ := sound.length_ancestors_child below
    apply ih
    omega

/-- **A subtree is a context, followed by the subtrees of its children.** -/
theorem subtree_eq (sound : forest.Sound) (id : ContextId) :
    forest.subtree id = id :: (forest.children id).flatMap forest.subtree := by
  have raised : forest.subtreeWithin (forest.size + 1) id = forest.subtreeWithin forest.size id :=
    sound.subtreeWithin_succ (by omega)
  exact raised.symm

/-- **Nothing else is a context, followed by the same for its children.** -/
theorem subtree_unique (sound : forest.Sound) {enumerate : ContextId → List ContextId}
    (recursive : ∀ id, enumerate id = id :: (forest.children id).flatMap enumerate) :
    enumerate = forest.subtree := by
  funext id
  -- What is listed for a child is part of what is listed for its parent.
  induction shorter : (enumerate id).length using Nat.strongRecOn generalizing id with
  | _ length ih =>
    rw [recursive id, sound.subtree_eq id]
    congr 1
    apply List.flatMap_congr
    intro child below
    refine ih _ ?_ child rfl
    have part : (enumerate child).length ≤ ((forest.children id).flatMap enumerate).length :=
      (List.infix_flatMap_of_mem below enumerate).length_le
    rw [← shorter, recursive id, List.length_cons]
    omega

/-! ### The stack -/

/-- What is on the stack is visited with all that is below it, before the rest of
the stack. -/
theorem eq_flatMap_of_walked (sound : forest.Sound) (walked : forest.Walked stack order) :
    order = stack.flatMap forest.subtree := by
  induction walked with
  | done => rfl
  | @visit id context stack order found _ ih =>
    rw [List.flatMap_cons, sound.subtree_eq id, children_of_get? found, ih, List.flatMap_append]
    rfl

/-- **The order of the contexts is that of the subtrees of the roots.** -/
theorem preOrder_eq_flatMap (sound : forest.Sound) :
    forest.preOrder = forest.roots.flatMap forest.subtree :=
  sound.eq_flatMap_of_walked sound.walked_preOrder

/-- The order lists no context twice, and lists only contexts that are issued and
whose parents it lists. -/
theorem pending_preOrder (sound : forest.Sound) : forest.Pending forest.preOrder [] :=
  sound.walked_preOrder.pending sound (.roots sound)

theorem preOrder_nodup (sound : forest.Sound) : forest.preOrder.Nodup := by
  simpa using sound.pending_preOrder.nodup

theorem issued_of_mem_preOrder (sound : forest.Sound) (mem : id ∈ forest.preOrder) :
    id < forest.size :=
  sound.pending_preOrder.issued id (by simpa using mem)

/-! ### Contexts that hang on a root -/

/-- What is below an attached context is attached. -/
theorem attached_child (sound : forest.Sound) (attached : forest.Attached id)
    (below : child ∈ forest.children id) : forest.Attached child := by
  rw [Attached, sound.ancestors_of_parent? (sound.mem_children_iff.mp below), List.getLast?_cons]
  rcases attached with root | ⟨root, mem, last⟩
  · have top : forest.ancestors id = [] := by
      rw [ancestors, sound.root_parentless root]
      cases forest.size <;> rfl
    exact .inr ⟨id, root, by rw [top]; rfl⟩
  · exact .inr ⟨root, mem, by rw [last]; rfl⟩

/-- A walk from attached contexts visits attached contexts. -/
theorem attached_of_walked (sound : forest.Sound) (walked : forest.Walked stack order)
    (attached : ∀ id ∈ stack, forest.Attached id) : ∀ id ∈ order, forest.Attached id := by
  induction walked with
  | done => exact attached
  | @visit id context stack order found _ ih =>
    obtain ⟨here, rest⟩ := List.forall_mem_cons.mp attached
    refine List.forall_mem_cons.mpr ⟨here, ih ?_⟩
    intro other mem
    rcases List.mem_append.mp mem with below | later
    · rw [← children_of_get? found] at below
      exact sound.attached_child here below
    · exact rest other later

/-- Where the way up ends at a root, all contexts on it are visited. -/
theorem mem_preOrder_of_lineage (sound : forest.Sound) {start : Option ContextId}
    {line : List ContextId} {root : ContextId} (lineage : forest.Lineage start line)
    (mem : root ∈ forest.roots) (last : line.getLast? = some root) :
    ∀ id ∈ start, id ∈ forest.preOrder := by
  induction lineage with
  | top => exact nofun
  | @up first context line found tail ih =>
    rintro id ⟨⟩
    cases above : context.parent with
    | none =>
      rw [above] at tail
      cases tail
      obtain rfl : first = root := Option.some.inj last
      exact sound.walked_preOrder.mem_of_mem_stack mem
    | some parent =>
      rw [above] at tail ih
      have further : line.getLast? = some root := by
        cases tail with
        | up => simpa using last
      have below : first ∈ forest.children parent :=
        sound.mem_children_iff.mpr ((parent?_of_get? found).trans above)
      exact sound.walked_preOrder.mem_of_mem_children (ih further parent rfl) below

/-- **The order lists the contexts that are attached.** -/
theorem mem_preOrder_iff (sound : forest.Sound) (issued : id < forest.size) :
    id ∈ forest.preOrder ↔ forest.Attached id := by
  constructor
  · exact sound.attached_of_walked sound.walked_preOrder (fun _ root => .inl root) id
  · rintro (root | ⟨root, mem, last⟩)
    · exact sound.walked_preOrder.mem_of_mem_stack root
    · have whole : (id :: forest.ancestors id).getLast? = some root := by
        rw [List.getLast?_cons, last]
        rfl
      exact sound.mem_preOrder_of_lineage (sound.lineage_ancestors issued) mem whole id rfl

/-- **A context is listed exactly if what is above it is.** -/
theorem mem_preOrder_iff_ancestor (sound : forest.Sound) (mem : above ∈ forest.ancestors id) :
    id ∈ forest.preOrder ↔ above ∈ forest.preOrder := by
  have step : ∀ {id parent}, forest.Below id parent →
      (id ∈ forest.preOrder ↔ parent ∈ forest.preOrder) := by
    intro id parent edge
    constructor
    · intro listed
      rcases sound.pending_preOrder.placed id (by simpa using listed) with parentless | ⟨_, mem, up⟩
      · exact absurd (parentless.symm.trans edge) nofun
      · obtain rfl : _ = parent := Option.some.inj (up.symm.trans edge)
        exact mem
    · intro listed
      exact sound.walked_preOrder.mem_of_mem_children listed (sound.mem_children_iff.mpr edge)
  rw [sound.mem_ancestors_iff] at mem
  induction mem with
  | single edge => exact step edge
  | tail _ edge ih => exact ih.trans (step edge)

/-! ### Ancestors come first -/

/-- The subtree of a context has all that is below it, behind the context. -/
theorem mem_flatMap_of_ancestor (sound : forest.Sound) (mem : above ∈ forest.ancestors id) :
    id ∈ (forest.children above).flatMap forest.subtree := by
  have head : ∀ id, id ∈ forest.subtree id := fun id => by
    rw [sound.subtree_eq]
    exact List.mem_cons_self
  rw [sound.mem_ancestors_iff] at mem
  induction mem with
  | single edge => exact List.mem_flatMap.mpr ⟨id, sound.mem_children_iff.mpr edge, head id⟩
  | tail _ edge ih =>
    refine List.mem_flatMap.mpr ⟨_, sound.mem_children_iff.mpr edge, ?_⟩
    rw [sound.subtree_eq]
    exact List.mem_cons_of_mem _ ih

/-- A walk visits a context and what is below it in one go. -/
theorem subtree_infix_of_walked (sound : forest.Sound) (walked : forest.Walked stack order)
    (mem : id ∈ order) : forest.subtree id <:+: order := by
  induction walked with
  | done => exact absurd mem List.not_mem_nil
  | @visit first context stack order found rest ih =>
    rcases List.mem_cons.mp mem with rfl | later
    · rw [sound.eq_flatMap_of_walked (.visit found rest), List.flatMap_cons]
      exact (List.prefix_append _ _).isInfix
    · exact (ih later).trans (List.suffix_cons _ _).isInfix

/-- **A context is listed behind all contexts above it.** -/
theorem sublist_preOrder (sound : forest.Sound) (listed : id ∈ forest.preOrder)
    (mem : above ∈ forest.ancestors id) : [above, id].Sublist forest.preOrder := by
  have earlier := (sound.mem_preOrder_iff_ancestor mem).mp listed
  have below := sound.mem_flatMap_of_ancestor mem
  calc [above, id].Sublist (above :: (forest.children above).flatMap forest.subtree) :=
        (List.singleton_sublist.mpr below).cons_cons above
    _ = forest.subtree above := (sound.subtree_eq above).symm
    List.Sublist _ forest.preOrder :=
        (sound.subtree_infix_of_walked sound.walked_preOrder earlier).sublist

end Sound

end ContextForest

/-- **After any history of changes, the order of the contexts is depth first.** A
subtree is a context, followed by the subtrees of its children, and nothing else
is. The walk with a stack comes to an end, and gives the subtrees of the roots. It
lists no context twice; it lists a context that is a root or whose last ancestor
is one, and no other, so with a context it leaves out all that is below it; and it
lists a context behind all of its ancestors. -/
theorem Assembly.perform_depthFirst (changes : List Change) :
    let forest := (({} : Assembly).perform changes).forest
    (∀ id, forest.subtree id = id :: (forest.children id).flatMap forest.subtree) ∧
    (∀ enumerate : ContextId → List ContextId,
      (∀ id, enumerate id = id :: (forest.children id).flatMap enumerate) →
        enumerate = forest.subtree) ∧
    forest.Walked forest.roots forest.preOrder ∧
    forest.preOrder = forest.roots.flatMap forest.subtree ∧
    forest.preOrder.Nodup ∧
    (∀ id ∈ forest.preOrder, id < forest.size) ∧
    (∀ id < forest.size, id ∈ forest.preOrder ↔
      id ∈ forest.roots ∨ ∃ root ∈ forest.roots, (forest.ancestors id).getLast? = some root) ∧
    (∀ id, ∀ above ∈ forest.ancestors id, id ∈ forest.preOrder ↔ above ∈ forest.preOrder) ∧
    ∀ id ∈ forest.preOrder, ∀ above ∈ forest.ancestors id,
      [above, id].Sublist forest.preOrder := by
  intro forest
  have sound : forest.Sound := (sound_empty.perform changes).1.forest
  exact ⟨sound.subtree_eq, fun _ => sound.subtree_unique, sound.walked_preOrder,
    sound.preOrder_eq_flatMap, sound.preOrder_nodup, fun _ => sound.issued_of_mem_preOrder,
    fun _ => sound.mem_preOrder_iff, fun _ _ => sound.mem_preOrder_iff_ancestor,
    fun _ listed _ => sound.sublist_preOrder listed⟩

end Bindery
