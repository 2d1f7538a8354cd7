/-
The open emitters of a family make a chain.

The root is open or nothing is. Below an open emitter there is at most one open
emitter, its child, and every emitter that is not on this chain is closed and
holds nothing. On the chain each emitter stands deeper than its parent by its
offset and the levels of its own scopes. `Family.Chained` says all this of a
family and the list of its open emitters, the root first. The main statements
are

* `Family.Spine.closes_closeChain`, what closing an emitter does: it shuts the
  emitter and all emitters below it and touches no other;
* `Family.Chained.cut`, `Family.Chained.adjust`, `Family.Chained.withChild` and
  `Family.Chained.close`, which together are all that an operation does to the
  frames of a family: it closes the child of an emitter, changes the emitter,
  gives it a child, or closes the root;
* `Family.Chained.mem_iff_onChain` and `Family.Chained.stands_below`, what the
  chain says of a single emitter.

The level of a child is copied from its parent when it is created. The law of
levels holds later on because an operation that changes the level of an emitter
closes its child first, so only the last emitter of the chain ever changes.
-/

import Bindery.Layout.Emitter
import Mathlib.Algebra.Order.Ring.Nat
import Mathlib.Data.List.Nodup
import Mathlib.Data.List.Perm.Subperm

namespace Bindery.Layout

/-! ### Frames -/

namespace Frame

/-- The levels that the open scopes of an emitter have added. -/
def scopeLevels (frame : Frame) : Nat :=
  (frame.scopes.map Scope.levels).sum

/-- A closed emitter that holds nothing. -/
structure Bare (frame : Frame) : Prop where
  closed : frame.closed = true
  child : frame.child = none
  scopes : frame.scopes = []

/-- The level is that of the parent, the offset and the levels of the scopes. -/
def Stands (frame : Frame) (above : Nat) : Prop :=
  frame.level = above + frame.offset + frame.scopeLevels

/-- The frame without its child. -/
def childless (frame : Frame) : Frame :=
  { frame with child := none }

/-- The frame after its scopes were released and it was closed. -/
def shut (frame : Frame) : Frame :=
  { frame with
    level := frame.level - frame.scopeLevels
    scopes := []
    child := none
    closed := true }

theorem bare_shut (frame : Frame) : frame.shut.Bare := ⟨rfl, rfl, rfl⟩

/-- A change of a frame that stands as it did and has no offset to take back
that it did not have. -/
structure Steady (before after : Frame) : Prop where
  stands : ∀ {above}, before.Stands above → after.Stands above
  offset : before.offset = 0 → after.offset = 0
  fresh : (before.fresh = true → 0 < before.offset) → after.fresh = true → 0 < after.offset

/-- A steady change of a frame that keeps its parent and its child and is open
as before. -/
structure Adjusts (before after : Frame) : Prop extends Steady before after where
  parent : after.parent = before.parent
  child : after.child = before.child
  closed : after.closed = before.closed

theorem Steady.refl (frame : Frame) : frame.Steady frame :=
  ⟨fun stands => stands, fun zero => zero, fun positive => positive⟩

theorem steady_childless (frame : Frame) : frame.Steady frame.childless :=
  ⟨fun stands => stands, fun zero => zero, fun positive => positive⟩

theorem childless_eq_self {frame : Frame} (none : frame.child = none) :
    frame.childless = frame := by
  rw [childless, ← none]

/-- Releasing scopes gives back what they have added. -/
theorem steady_shut (frame : Frame) : frame.Steady frame.shut := by
  refine ⟨?_, fun zero => zero, fun positive => positive⟩
  intro above stands
  have level : frame.level = above + frame.offset + frame.scopeLevels := stands
  show frame.level - frame.scopeLevels = above + frame.offset + 0
  omega

end Frame

/-- Releasing scopes gives back their levels. -/
theorem Page.releaseAll_level (page : Page) (level : Nat) (scopes : List Scope) :
    (page.releaseAll level scopes).2 = level - (scopes.map Scope.levels).sum := by
  induction scopes generalizing page level with
  | nil => rfl
  | cons scope outer ih =>
    rw [Page.releaseAll, ih, List.map_cons, List.sum_cons, Nat.sub_sub]

namespace Family

variable {family : Family} {i j : FrameId}

/-! ### Reading a changed family -/

theorem frame_of_size_le (beyond : family.frames.size ≤ i) :
    family.frame i = { closed := true } := by
  simp [frame, Array.getD_eq_getD_getElem?, Array.getElem?_eq_none beyond]

theorem lt_size_of_open (opened : (family.frame i).closed = false) : i < family.frames.size := by
  by_contra beyond
  rw [frame_of_size_le (Nat.not_lt.mp beyond)] at opened
  cases opened

@[simp] theorem size_modify (family : Family) (i : FrameId) (f : Frame → Frame) :
    (family.modify i f).frames.size = family.frames.size :=
  Array.size_modify

theorem frame_modify_self (f : Frame → Frame) (within : i < family.frames.size) :
    (family.modify i f).frame i = f (family.frame i) := by
  simp [frame, modify, Array.getD_eq_getD_getElem?, Array.getElem_modify, within]

theorem frame_modify_of_ne (f : Frame → Frame) (other : i ≠ j) :
    (family.modify i f).frame j = family.frame j := by
  simp [frame, modify, Array.getD_eq_getD_getElem?, Array.getElem?_modify, other]

theorem frame_shut_self (within : i < family.frames.size)
    (childless : (family.frame i).child = none) :
    (family.shut i).frame i = (family.frame i).shut := by
  have level := Page.releaseAll_level family.page (family.frame i).level (family.frame i).scopes
  refine (frame_modify_self _ within).trans ?_
  simp only [Frame.shut, Frame.scopeLevels, Frame.mk.injEq, true_and, and_true]
  exact ⟨level, childless⟩

theorem frame_shut_of_ne (other : i ≠ j) : (family.shut i).frame j = family.frame j :=
  frame_modify_of_ne _ other

@[simp] theorem size_shut (family : Family) (i : FrameId) :
    (family.shut i).frames.size = family.frames.size :=
  size_modify _ _ _

/-! ### The chain -/

/-- Emitters that are open, each the child of the one before it and standing
below it; the first stands below `parent`, which is at level `above`. -/
def Spine (family : Family) : Option FrameId → Nat → List FrameId → Prop
  | _, _, [] => True
  | parent, above, i :: rest =>
    (family.frame i).closed = false ∧ (family.frame i).parent = parent ∧
      (family.frame i).Stands above ∧ (family.frame i).child = rest.head? ∧
      family.Spine (some i) (family.frame i).level rest

/-- What closing some emitters does to the frames of a family. -/
structure Closes (before after : Family) (closed : List FrameId) : Prop where
  size : after.frames.size = before.frames.size
  kept : ∀ i ∉ closed, after.frame i = before.frame i
  shut : ∀ i ∈ closed, after.frame i = (before.frame i).shut

theorem Closes.offset {after : Family} {closed : List FrameId} (closes : family.Closes after closed)
    (j : FrameId) : (after.frame j).offset = (family.frame j).offset := by
  by_cases mem : j ∈ closed
  · rw [closes.shut j mem]
    rfl
  · rw [closes.kept j mem]

theorem Closes.steady {after : Family} {closed : List FrameId} (closes : family.Closes after closed)
    (j : FrameId) : (family.frame j).Steady (after.frame j) := by
  by_cases mem : j ∈ closed
  · rw [closes.shut j mem]
    exact Frame.steady_shut _
  · rw [closes.kept j mem]
    exact Frame.Steady.refl _

namespace Spine

variable {parent : Option FrameId} {above : Nat} {chain : List FrameId}

/-- A spine depends on its own frames only. -/
theorem congr {after : Family} (spine : family.Spine parent above chain)
    (same : ∀ i ∈ chain, after.frame i = family.frame i) : after.Spine parent above chain := by
  induction chain generalizing parent above with
  | nil => trivial
  | cons i rest ih =>
    obtain ⟨opened, linked, stands, child, below⟩ := spine
    have here := same i List.mem_cons_self
    refine ⟨here ▸ opened, here ▸ linked, here ▸ stands, here ▸ child, ?_⟩
    rw [here]
    exact ih below fun j mem => same j (List.mem_cons_of_mem _ mem)

theorem opened (spine : family.Spine parent above chain) (mem : i ∈ chain) :
    (family.frame i).closed = false := by
  induction chain generalizing parent above with
  | nil => exact absurd mem List.not_mem_nil
  | cons j rest ih =>
    obtain ⟨opened, -, -, -, below⟩ := spine
    rcases List.mem_cons.mp mem with rfl | later
    · exact opened
    · exact ih below later

theorem stands (spine : family.Spine parent above chain) (mem : i ∈ chain) :
    ∃ above, (family.frame i).Stands above := by
  induction chain generalizing parent above with
  | nil => exact absurd mem List.not_mem_nil
  | cons j rest ih =>
    obtain ⟨-, -, stands, -, below⟩ := spine
    rcases List.mem_cons.mp mem with rfl | later
    · exact ⟨above, stands⟩
    · exact ih below later

/-- Closing the first emitter of a spine shuts the whole spine, the last emitter
first, and touches nothing else. -/
theorem closes_closeChain {rest : List FrameId} {fuel : Nat}
    (spine : family.Spine parent above (i :: rest)) (nodup : (i :: rest).Nodup)
    (enough : rest.length < fuel) : family.Closes (closeChain fuel i family) (i :: rest) := by
  induction rest generalizing family parent above i fuel with
  | nil =>
    obtain ⟨opened, -, -, child, -⟩ := spine
    obtain ⟨fuel, rfl⟩ := Nat.exists_eq_add_of_lt enough
    rw [closeChain, child]
    refine ⟨size_shut _ _, ?_, ?_⟩
    · intro j other
      exact frame_shut_of_ne fun same => other (same ▸ List.mem_cons_self)
    · intro j mem
      rw [List.mem_singleton.mp mem]
      exact frame_shut_self (lt_size_of_open opened) child
  | cons c rest ih =>
    obtain ⟨opened, -, -, child, below⟩ := spine
    obtain ⟨fuel, rfl⟩ := Nat.exists_eq_add_of_lt enough
    obtain ⟨notBelow, nodup'⟩ := List.nodup_cons.mp nodup
    have within := lt_size_of_open opened
    -- The spine below is the same once its first emitter is unlinked.
    have below' : (family.unlink i).Spine (some i) (family.frame i).level (c :: rest) :=
      below.congr fun j mem => frame_modify_of_ne _ fun same => notBelow (same ▸ mem)
    have shorter : rest.length < (c :: rest).length + fuel := by
      rw [List.length_cons]
      omega
    have closes := ih below' nodup' shorter
    rw [closeChain, child]
    have here : (closeChain ((c :: rest).length + fuel) c (family.unlink i)).frame i =
        (family.frame i).childless := by
      rw [closes.kept i notBelow]
      exact frame_modify_self _ within
    have size : (closeChain ((c :: rest).length + fuel) c (family.unlink i)).frames.size =
        family.frames.size := closes.size.trans (size_modify _ _ _)
    refine ⟨(size_shut _ _).trans size, ?_, ?_⟩
    · intro j other
      obtain ⟨notFirst, notLater⟩ := not_or.mp (mt List.mem_cons.mpr other)
      refine (frame_shut_of_ne (Ne.symm notFirst)).trans ((closes.kept j notLater).trans ?_)
      exact frame_modify_of_ne _ (Ne.symm notFirst)
    · intro j mem
      by_cases same : i = j
      · subst same
        refine (frame_shut_self (size ▸ within) (by rw [here]; rfl)).trans ?_
        rw [here]
        rfl
      · have later := (List.mem_cons.mp mem).resolve_left (Ne.symm same)
        refine (frame_shut_of_ne same).trans ((closes.shut j later).trans ?_)
        exact congrArg Frame.shut (frame_modify_of_ne _ same)

/-- The part of a spine from some emitter on. -/
theorem right {before rest : List FrameId} (spine : family.Spine parent above (before ++ rest)) :
    ∃ parent' above', family.Spine parent' above' rest := by
  induction before generalizing parent above with
  | nil => exact ⟨parent, above, spine⟩
  | cons j before ih => exact ih spine.2.2.2.2

/-- A spine may change from some emitter on if it stays as it is above. -/
theorem replace {after : Family} {before rest rest' : List FrameId}
    (spine : family.Spine parent above (before ++ i :: rest))
    (kept : ∀ j ∈ before, after.frame j = family.frame j)
    (replaced : ∀ {parent above}, family.Spine parent above (i :: rest) →
      after.Spine parent above (i :: rest')) :
    after.Spine parent above (before ++ i :: rest') := by
  induction before generalizing parent above with
  | nil => exact replaced spine
  | cons j before ih =>
    obtain ⟨opened, linked, stands, child, below⟩ := spine
    have here := kept j List.mem_cons_self
    refine ⟨here ▸ opened, here ▸ linked, here ▸ stands, ?_, ?_⟩
    · rw [here, child]
      cases before <;> rfl
    · rw [here]
      exact ih below fun k mem => kept k (List.mem_cons_of_mem _ mem)

/-- A steady change of the last emitter leaves a spine. -/
theorem last {after : Family} {rest : List FrameId} (spine : family.Spine parent above (i :: rest))
    (steady : (family.frame i).Steady (after.frame i))
    (parent' : (after.frame i).parent = (family.frame i).parent)
    (child : (after.frame i).child = none)
    (closed : (after.frame i).closed = (family.frame i).closed) :
    after.Spine parent above [i] := by
  obtain ⟨opened, linked, stands, -, -⟩ := spine
  exact ⟨closed.trans opened, parent'.trans linked, steady.stands stands, child, trivial⟩

end Spine

/-- What an emitter does to its family before it goes on: the emitters below it
are shut, it loses its child, and nothing else is touched. -/
structure Cuts (before after : Family) (i : FrameId) (below : List FrameId) : Prop where
  size : after.frames.size = before.frames.size
  here : after.frame i = (before.frame i).childless
  kept : ∀ j ∉ below, j ≠ i → after.frame j = before.frame j
  shut : ∀ j ∈ below, after.frame j = (before.frame j).shut

theorem Cuts.steady {after : Family} {below : List FrameId} (cuts : family.Cuts after i below)
    (j : FrameId) : (family.frame j).Steady (after.frame j) := by
  by_cases closed : j ∈ below
  · rw [cuts.shut j closed]
    exact Frame.steady_shut _
  · by_cases same : j = i
    · rw [same, cuts.here]
      exact Frame.steady_childless _
    · rw [cuts.kept j closed same]
      exact Frame.Steady.refl _

theorem Cuts.offset {after : Family} {below : List FrameId} (cuts : family.Cuts after i below)
    (j : FrameId) : (after.frame j).offset = (family.frame j).offset := by
  by_cases closed : j ∈ below
  · rw [cuts.shut j closed]
    rfl
  · by_cases same : j = i
    · rw [same, cuts.here]
      rfl
    · rw [cuts.kept j closed same]

/-- Closing the child of an emitter of a spine shuts the rest of the spine. -/
theorem Spine.cuts_closeChild {parent : Option FrameId} {above : Nat} {rest : List FrameId}
    (spine : family.Spine parent above (i :: rest)) (nodup : (i :: rest).Nodup)
    (enough : (i :: rest).length ≤ family.frames.size) :
    family.Cuts (family.closeChild i) i rest := by
  obtain ⟨opened, -, -, child, below⟩ := spine
  obtain ⟨notBelow, nodup'⟩ := List.nodup_cons.mp nodup
  rw [closeChild, child]
  cases rest with
  | nil =>
    refine ⟨rfl, (Frame.childless_eq_self child).symm, fun _ _ _ => rfl, ?_⟩
    intro j mem
    exact absurd mem List.not_mem_nil
  | cons c rest =>
    have below' : (family.unlink i).Spine (some i) (family.frame i).level (c :: rest) :=
      below.congr fun j mem => frame_modify_of_ne _ fun same => notBelow (same ▸ mem)
    have closes := below'.closes_closeChain nodup'
      (by simp only [List.length_cons] at enough; omega : rest.length < family.frames.size)
    refine ⟨closes.size.trans (size_modify _ _ _), ?_, ?_, ?_⟩
    · exact (closes.kept i notBelow).trans (frame_modify_self _ (lt_size_of_open opened))
    · intro j other notSame
      exact (closes.kept j other).trans (frame_modify_of_ne _ (Ne.symm notSame))
    · intro j mem
      have other : i ≠ j := fun same => notBelow (same ▸ mem)
      exact (closes.shut j mem).trans (congrArg Frame.shut (frame_modify_of_ne _ other))

/-! ### Families -/

/-- The open emitters of a family are the emitters of `chain`, the root first.
All others hold nothing. The root stands on its scopes alone, and an offset that
can be taken back is not zero. -/
structure Chained (family : Family) (chain : List FrameId) : Prop where
  head : ∀ i ∈ chain.head?, i = 0
  nodup : chain.Nodup
  spine : family.Spine none 0 chain
  bare : ∀ i ∉ chain, (family.frame i).Bare
  root : (family.frame 0).Stands 0
  offset : (family.frame 0).offset = 0
  fresh : ∀ i, (family.frame i).fresh = true → 0 < (family.frame i).offset

theorem chained_root (width : Nat) : (root width).Chained [0] where
  head i first := (Option.some.inj first).symm
  nodup := List.nodup_singleton 0
  spine := ⟨rfl, rfl, rfl, rfl, trivial⟩
  bare i other := by
    have beyond : (root width).frames.size ≤ i :=
      Nat.one_le_iff_ne_zero.mpr fun zero => other (List.mem_singleton.mpr zero)
    rw [frame_of_size_le beyond]
    exact ⟨rfl, rfl, rfl⟩
  root := rfl
  offset := rfl
  fresh i fresh := by
    cases i with
    | zero => cases fresh
    | succ i =>
      rw [frame_of_size_le (Nat.succ_le_succ (Nat.zero_le i))] at fresh
      cases fresh

namespace Chained

variable {after : Family} {chain chain' before below : List FrameId}

/-- An emitter is open if and only if it is on the chain. -/
theorem open_iff_mem (chained : family.Chained chain) :
    (family.frame i).closed = false ↔ i ∈ chain := by
  constructor
  · intro opened
    by_contra other
    rw [(chained.bare i other).closed] at opened
    cases opened
  · exact chained.spine.opened

theorem length_le (chained : family.Chained chain) : chain.length ≤ family.frames.size := by
  have within : chain ⊆ List.range family.frames.size := fun i mem =>
    List.mem_range.mpr (lt_size_of_open (chained.spine.opened mem))
  have length := (List.subperm_of_subset chained.nodup within).length_le
  rwa [List.length_range] at length

/-- The chain can only get shorter while all frames stay steady. -/
theorem shorten (chained : family.Chained chain) (shorter : chain' <+: chain)
    (steady : ∀ j, (family.frame j).Steady (after.frame j)) (spine : after.Spine none 0 chain')
    (bare : ∀ j ∉ chain', (after.frame j).Bare) : after.Chained chain' where
  head i first := by
    obtain ⟨more, rfl⟩ := shorter
    exact chained.head i (List.mem_head?_append_of_mem_head? first)
  nodup := chained.nodup.sublist shorter.sublist
  spine := spine
  bare := bare
  root := (steady 0).stands chained.root
  offset := (steady 0).offset chained.offset
  fresh i := (steady i).fresh (chained.fresh i)

theorem cuts_closeChild (chained : family.Chained (before ++ i :: below)) :
    family.Cuts (family.closeChild i) i below := by
  obtain ⟨parent, above, spine⟩ := chained.spine.right
  refine spine.cuts_closeChild (chained.nodup.sublist (List.sublist_append_right _ _)) ?_
  have length := chained.length_le
  rw [List.length_append] at length
  omega

/-- **Closing the child of an open emitter makes that emitter the last of the
chain.** -/
theorem cut (chained : family.Chained (before ++ i :: below)) :
    (family.closeChild i).Chained (before ++ [i]) := by
  have cuts := chained.cuts_closeChild
  have apart := List.nodup_append.mp chained.nodup
  refine chained.shorten ⟨below, by simp⟩ cuts.steady ?_ ?_
  · refine chained.spine.replace ?_ ?_
    · intro j mem
      have notBelow : j ∉ below := fun later =>
        apart.2.2 j mem j (List.mem_cons_of_mem _ later) rfl
      exact cuts.kept j notBelow (apart.2.2 j mem i List.mem_cons_self)
    · intro parent above spine
      refine spine.last (cuts.steady i) ?_ ?_ ?_ <;> rw [cuts.here] <;> rfl
  · intro j other
    obtain ⟨notBefore, notHere⟩ := not_or.mp (mt List.mem_append.mpr other)
    have notHere' : j ≠ i := fun same => notHere (List.mem_singleton.mpr same)
    by_cases closed : j ∈ below
    · rw [cuts.shut j closed]
      exact Frame.bare_shut _
    · rw [cuts.kept j closed notHere']
      apply chained.bare
      intro mem
      rcases List.mem_append.mp mem with mem | mem
      · exact notBefore mem
      · exact (List.mem_cons.mp mem).elim notHere' closed

/-- **The last emitter of the chain may change as long as it keeps its place.** -/
theorem adjust {f : Frame → Frame} (chained : family.Chained (before ++ [i]))
    (adjusts : (family.frame i).Adjusts (f (family.frame i))) :
    (family.modify i f).Chained (before ++ [i]) := by
  have here := frame_modify_self f
    (lt_size_of_open (chained.open_iff_mem.mpr (List.mem_append_right before List.mem_cons_self)))
  have steady : ∀ j, (family.frame j).Steady ((family.modify i f).frame j) := by
    intro j
    by_cases same : i = j
    · rw [← same, here]
      exact adjusts.toSteady
    · rw [frame_modify_of_ne f same]
      exact Frame.Steady.refl _
  have apart := List.nodup_append.mp chained.nodup
  refine chained.shorten (List.prefix_refl _) steady ?_ ?_
  · refine chained.spine.replace ?_ ?_
    · intro j mem
      exact frame_modify_of_ne f (apart.2.2 j mem i List.mem_cons_self).symm
    · intro parent above spine
      refine spine.last (steady i) (here ▸ adjusts.parent) ?_ (here ▸ adjusts.closed)
      rw [here, adjusts.child]
      exact spine.2.2.2.1
  · intro j other
    have notHere : i ≠ j := fun same =>
      other (same ▸ List.mem_append_right before List.mem_cons_self)
    rw [frame_modify_of_ne f notHere]
    exact chained.bare j other

/-- Closing an emitter that has a parent is closing the child of the parent. -/
theorem close_eq_closeChild {parent : FrameId}
    (chained : family.Chained (before ++ parent :: i :: below)) :
    family.close i = family.closeChild parent := by
  obtain ⟨-, -, -, -, -, child, opened, linked, -⟩ := chained.spine.right
  have child' : (family.frame parent).child = some i := child
  simp only [Family.close, closeChild, detach, isClosed, opened, linked, child', if_true,
    Bool.false_eq_true, if_false]

/-- Closing the root shuts all emitters of the chain. It has no parent to be
unlinked from. -/
theorem closes_close (chained : family.Chained (i :: below)) :
    family.Closes (family.close i) (i :: below) := by
  obtain ⟨opened, linked, -⟩ := chained.spine
  have enough := chained.length_le
  rw [Family.close, detach, isClosed, opened, linked]
  exact chained.spine.closes_closeChain chained.nodup enough

/-- **Closing the root closes everything.** -/
theorem close (chained : family.Chained (i :: below)) : (family.close i).Chained [] := by
  have closes := chained.closes_close
  refine chained.shorten List.nil_prefix closes.steady trivial ?_
  intro j _
  by_cases mem : j ∈ i :: below
  · exact closes.shut j mem ▸ Frame.bare_shut _
  · exact closes.kept j mem ▸ chained.bare j mem

end Chained

/-! ### New children -/

/-- The frame of a child that was just created. -/
def newborn (family : Family) (i : FrameId) (levels : Nat) : Frame :=
  { level := (family.frame i).level + levels, offset := levels, fresh := true, parent := some i }

/-- The family with a child, some levels deeper than its parent. -/
def withChild (family : Family) (i : FrameId) (levels : Nat) : Family :=
  let linked := family.modify i fun frame => { frame with child := some family.frames.size }
  { linked with frames := linked.frames.push (family.newborn i levels) }

/-- A child is created when it adds a level and its parent is open and has no
child. -/
theorem newChild_eq_ok_iff {levels : Nat} {after : Family} :
    family.newChild i levels = .ok (j, after) ↔
      (levels ≠ 0 ∧ (family.frame i).closed = false ∧ (family.frame i).child = none) ∧
        j = family.frames.size ∧ after = family.withChild i levels := by
  by_cases zero : levels = 0 <;> cases closed : (family.frame i).closed <;>
    cases child : (family.frame i).child <;>
    simp [newChild, withChild, newborn, isClosed, zero, closed, child, eq_comm]

@[simp] theorem size_withChild (family : Family) (i : FrameId) (levels : Nat) :
    (family.withChild i levels).frames.size = family.frames.size + 1 := by
  simp [withChild, modify]

theorem frame_withChild_last (levels : Nat) :
    (family.withChild i levels).frame family.frames.size = family.newborn i levels := by
  simp [frame, withChild, modify, Array.getD_eq_getD_getElem?, Array.getElem_push]

theorem frame_withChild_parent (levels : Nat) (within : i < family.frames.size) :
    (family.withChild i levels).frame i =
      { family.frame i with child := some family.frames.size } := by
  simp [frame, withChild, modify, Array.getD_eq_getD_getElem?, Array.getElem_push,
    Array.getElem_modify, within, Nat.lt_succ_of_lt within]

theorem frame_withChild_of_ne (levels : Nat) (other : i ≠ j) (old : j ≠ family.frames.size) :
    (family.withChild i levels).frame j = family.frame j := by
  simp [frame, withChild, modify, Array.getD_eq_getD_getElem?, Array.getElem?_push,
    Array.getElem?_modify, other, old]

theorem steady_withChild (levels : Nat) (within : i < family.frames.size)
    (old : j ≠ family.frames.size) :
    (family.frame j).Steady ((family.withChild i levels).frame j) := by
  by_cases same : i = j
  · rw [← same, frame_withChild_parent levels within]
    exact ⟨fun stands => stands, fun zero => zero, fun positive => positive⟩
  · rw [frame_withChild_of_ne levels same old]
    exact Frame.Steady.refl _

/-- A new child comes last on a spine. -/
theorem Spine.withChild {parent : Option FrameId} {above levels : Nat} {before : List FrameId}
    (spine : family.Spine parent above (before ++ [i])) (nodup : (before ++ [i]).Nodup) :
    (family.withChild i levels).Spine parent above (before ++ [i, family.frames.size]) := by
  refine spine.replace ?_ ?_
  · intro j mem
    have other := (List.nodup_append.mp nodup).2.2 j mem i List.mem_cons_self
    have within := lt_size_of_open (spine.opened (List.mem_append_left [i] mem))
    exact frame_withChild_of_ne levels (Ne.symm other) (Nat.ne_of_lt within)
  · rintro parent above ⟨opened, linked, stands, -, -⟩
    rw [Spine, frame_withChild_parent levels (lt_size_of_open opened)]
    refine ⟨opened, linked, stands, rfl, ?_⟩
    rw [Spine, frame_withChild_last]
    exact ⟨rfl, rfl, rfl, rfl, trivial⟩

/-- **A new child comes last on the chain.** -/
theorem Chained.withChild {before : List FrameId} {levels : Nat}
    (chained : family.Chained (before ++ [i])) (positive : levels ≠ 0) :
    (family.withChild i levels).Chained (before ++ [i, family.frames.size]) := by
  have old : family.frames.size ∉ before ++ [i] := fun mem =>
    Nat.lt_irrefl _ (lt_size_of_open (chained.spine.opened mem))
  have within := lt_size_of_open
    (chained.spine.opened (List.mem_append_right before List.mem_cons_self))
  have steady : ∀ {j}, j ≠ family.frames.size →
      (family.frame j).Steady ((family.withChild i levels).frame j) :=
    steady_withChild levels within
  have rootOld : 0 ≠ family.frames.size := Nat.ne_of_lt (Nat.zero_lt_of_lt within)
  have longer : before ++ [i, family.frames.size] = before ++ [i] ++ [family.frames.size] := by simp
  refine ⟨?_, ?_, chained.spine.withChild chained.nodup, ?_, (steady rootOld).stands chained.root,
    (steady rootOld).offset chained.offset, ?_⟩
  · intro j first
    apply chained.head
    cases before <;> exact first
  · rw [longer, List.nodup_append_comm, List.singleton_append]
    exact List.nodup_cons.mpr ⟨old, chained.nodup⟩
  · intro j other
    rw [longer, List.mem_append, not_or] at other
    have other' : i ≠ j := fun same =>
      other.1 (same ▸ List.mem_append_right before List.mem_cons_self)
    rw [frame_withChild_of_ne levels other' (mt List.mem_singleton.mpr other.2)]
    exact chained.bare j other.1
  · intro j fresh
    by_cases new : j = family.frames.size
    · rw [new, frame_withChild_last]
      exact Nat.pos_of_ne_zero positive
    · exact (steady new).fresh (chained.fresh j) fresh

/-! ### Reading a chain -/

/-- The emitters that are reached from the root by links to children. -/
inductive OnChain (family : Family) : FrameId → Prop
  | root : family.OnChain 0
  | child {i j : FrameId} :
      family.OnChain i → (family.frame i).child = some j → family.OnChain j

theorem Spine.onChain {parent : Option FrameId} {above : Nat} {chain : List FrameId}
    (spine : family.Spine parent above chain) (first : ∀ i ∈ chain.head?, family.OnChain i)
    (mem : j ∈ chain) : family.OnChain j := by
  induction chain generalizing parent above with
  | nil => exact absurd mem List.not_mem_nil
  | cons i rest ih =>
    obtain ⟨-, -, -, child, below⟩ := spine
    have here := first i rfl
    rcases List.mem_cons.mp mem with rfl | later
    · exact here
    · exact ih below (fun k next => .child here (child.trans next)) later

theorem Spine.child_mem {parent : Option FrameId} {above : Nat} {chain : List FrameId}
    (spine : family.Spine parent above chain) (mem : i ∈ chain)
    (child : (family.frame i).child = some j) : j ∈ chain := by
  obtain ⟨before, below, rfl⟩ := List.append_of_mem mem
  obtain ⟨parent', above', -, -, -, next, -⟩ := spine.right
  have first : below.head? = some j := next.symm.trans child
  exact List.mem_append_right before (List.mem_cons_of_mem i (List.mem_of_head? first))

namespace Chained

variable {chain : List FrameId}

/-- While the root is open, the chain holds what is reached from it. -/
theorem mem_iff_onChain (chained : family.Chained chain) :
    i ∈ chain ↔ (family.frame 0).closed = false ∧ family.OnChain i := by
  constructor
  · intro mem
    have first : ∀ k ∈ chain.head?, k = 0 := chained.head
    refine ⟨?_, chained.spine.onChain (fun k head => first k head ▸ .root) mem⟩
    cases chain with
    | nil => exact absurd mem List.not_mem_nil
    | cons k rest =>
      obtain rfl := first k rfl
      exact chained.spine.1
  · rintro ⟨opened, reached⟩
    induction reached with
    | root => exact chained.open_iff_mem.mp opened
    | child _ link ih => exact chained.spine.child_mem ih link

/-- An open emitter that is not the root stands below its parent. -/
theorem stands_below (chained : family.Chained chain) (opened : (family.frame i).closed = false)
    (notRoot : i ≠ 0) :
    ∃ parent, (family.frame i).parent = some parent ∧ (family.frame parent).closed = false ∧
      (family.frame parent).child = some i ∧
      (family.frame i).Stands (family.frame parent).level := by
  obtain ⟨before, below, rfl⟩ := List.append_of_mem (chained.open_iff_mem.mp opened)
  rcases List.eq_nil_or_concat before with rfl | ⟨above, parent, rfl⟩
  · exact absurd (chained.head i rfl) notRoot
  · have spine := chained.spine
    rw [List.concat_eq_append, List.append_assoc] at spine
    obtain ⟨-, -, openParent, -, -, child, -, linked, stands, -⟩ := spine.right
    exact ⟨parent, linked, openParent, child, stands⟩

end Chained

end Family

end Bindery.Layout
