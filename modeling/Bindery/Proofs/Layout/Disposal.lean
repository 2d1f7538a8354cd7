/-
Disposing of emitters by hand.

Closing an emitter closes the emitters below it first, and each of them releases
its scopes before it is closed. All this could be done by hand, emitter by emitter
and scope by scope (`Family.disposeChain`). Two laws say that the result is the
same: what was released by hand before need not be released by closing
(`Family.Chained.close_release`), and what was closed below before need not be
closed (`Family.Chained.close_closeChild`). The main statements are

* `Family.Chained.disposeChain_below`, that an emitter that is about to do
  something disposes of the emitters below it;
* `Family.Chained.disposeChain_self`, that closing an emitter disposes of it after
  those;
* `Family.replay_disposal`, both for every open emitter after any acts, and that
  the emitter goes on as one that has no child.
-/

import Bindery.Proofs.Layout.Custody
import Bindery.Proofs.Layout.Plain
import Mathlib.Logic.Function.Iterate

namespace Bindery.Layout

variable {ε : Type}

namespace Frame

variable {frame : Frame} {scope : Scope} {outer : List Scope}

/-- Closing an emitter writes the closing text of its innermost scope first, and
goes on as if that scope had been released. -/
theorem closings_eq_append (scopes : frame.scopes = scope :: outer) :
    frame.closings = scope.strokes (frame.level - scope.levels) ++
      (frame.popTo (frame.level - scope.levels) outer).closings := by
  rw [closings, scopes]
  rfl

theorem shut_popTo (scopes : frame.scopes = scope :: outer) :
    (frame.popTo (frame.level - scope.levels) outer).shut = frame.shut := by
  have levels : frame.level - scope.levels - (outer.map Scope.levels).sum =
      frame.level - frame.scopeLevels := by
    rw [Nat.sub_sub, scopeLevels, scopes, List.map_cons, List.sum_cons]
  simp only [shut, popTo, scopeLevels, levels]

end Frame

namespace Family

variable {family other : Family} {i j : FrameId} {before below : List FrameId}

/-! ### Disposal -/

/-- Disposes of an emitter: its scopes are released one at a time, innermost
first, and then it is closed. -/
def disposeOf (family : Family) (i : FrameId) : Family :=
  ((·.release i)^[(family.frame i).scopes.length] family).close i

/-- Disposes of emitters of which each is the child of the one before it: the last
comes first. -/
def disposeChain (family : Family) (chain : List FrameId) : Family :=
  chain.reverse.foldl disposeOf family

theorem disposeChain_cons (family : Family) (i : FrameId) (chain : List FrameId) :
    family.disposeChain (i :: chain) = (family.disposeChain chain).disposeOf i := by
  simp [disposeChain]

/-! ### Families that are the same -/

/-- A family is its page and its frames. -/
theorem ext_frame (page : family.page = other.page)
    (size : family.frames.size = other.frames.size)
    (frame : ∀ j, family.frame j = other.frame j) : family = other := by
  have frames : family.frames = other.frames := by
    apply Array.ext size
    intro j within within'
    have here := frame j
    simpa [Family.frame, Array.getD_eq_getD_getElem?, within, within'] using here
  cases family
  cases other
  exact Family.mk.injEq .. ▸ ⟨page, frames⟩

namespace Chained

/-- The frames after an emitter was closed: it and the emitters below it are shut,
its parent has lost its child, and the others are as they were. -/
theorem frame_close (chained : family.Chained (before ++ i :: below)) (j : FrameId) :
    (family.close i).frame j =
      if j ∈ i :: below then (family.frame j).shut
      else if before.getLast? = some j then (family.frame j).childless
      else family.frame j := by
  rcases List.eq_nil_or_concat before with rfl | ⟨above, parent, rfl⟩
  · have closes := chained.closes_close
    by_cases mem : j ∈ i :: below
    · rw [if_pos mem, closes.shut j mem]
    · rw [if_neg mem, closes.kept j mem]
      rfl
  · rw [List.concat_eq_append] at chained ⊢
    rw [List.append_assoc, List.singleton_append] at chained
    have cuts := chained.cuts_closeChild
    rw [chained.close_eq_closeChild, List.getLast?_concat]
    by_cases mem : j ∈ i :: below
    · rw [if_pos mem, cuts.shut j mem]
    · rw [if_neg mem]
      by_cases same : j = parent
      · rw [if_pos (congrArg some same.symm), same, cuts.here]
      · rw [if_neg fun here => same (Option.some.inj here).symm, cuts.kept j mem same]

theorem size_close (chained : family.Chained (before ++ i :: below)) :
    (family.close i).frames.size = family.frames.size :=
  (chained.sustains_close chained.closed_eq_false).size

/-! ### Closing in steps -/

/-- An emitter that has closed its child has none to close. -/
theorem closeChild_closeChild (chained : family.Chained (before ++ i :: below)) :
    (family.closeChild i).closeChild i = family.closeChild i :=
  chained.cut.closeChild_last

/-- What is below an emitter may be closed before the emitter is. -/
theorem close_closeChild (chained : family.Chained (before ++ i :: below)) :
    (family.closeChild i).close i = family.close i := by
  have cuts := chained.cuts_closeChild
  have cut := chained.cut
  have apart := List.nodup_append.mp chained.nodup
  apply ext_frame
  · rw [cut.page_close, chained.page_close, chained.page_closeChild, closings_cons, closings_cons,
      Page.draw_append, Page.draw_append, cuts.here]
    rfl
  · rw [cut.size_close, chained.size_close, cuts.size]
  · intro j
    rw [cut.frame_close, chained.frame_close]
    by_cases same : j = i
    · rw [if_pos (by simp [same]), if_pos (by simp [same]), same, cuts.here]
      rfl
    · by_cases mem : j ∈ below
      · have notAbove : before.getLast? ≠ some j := fun last =>
          apart.2.2 j (List.mem_of_getLast? last) j (List.mem_cons_of_mem _ mem) rfl
        rw [if_neg (by simpa using same), if_neg notAbove, if_pos (by simp [mem]),
          cuts.shut j mem]
      · simp only [List.mem_cons, List.not_mem_nil, same, mem, or_self, if_false,
          cuts.kept j mem same]

/-- The last emitter has nothing to release when it is in no scope. -/
theorem release_bare (chained : family.Chained (before ++ [i]))
    (scopes : (family.frame i).scopes = []) : family.release i = family := by
  simp only [Family.release, isClosed, chained.closed_eq_false, chained.closeChild_last, scopes,
    Bool.false_eq_true, if_false]

theorem release_last (chained : family.Chained (before ++ [i])) {scope : Scope}
    {outer : List Scope} (scopes : (family.frame i).scopes = scope :: outer) :
    family.release i =
      ⟨family.page.conclude ((family.frame i).level - scope.levels) scope,
        (family.modify i (Frame.popTo ((family.frame i).level - scope.levels) outer)).frames⟩ := by
  rw [chained.release_eq chained.closed_eq_false scopes, chained.closeChild_last]

/-- The innermost scope of an emitter may be released before the emitter is
closed. -/
theorem close_release (chained : family.Chained (before ++ [i])) :
    (family.release i).close i = family.close i := by
  have opened := chained.closed_eq_false
  have released := chained.release
  cases scopes : (family.frame i).scopes with
  | nil => rw [chained.release_bare scopes]
  | cons scope outer =>
    let popped := (family.frame i).popTo ((family.frame i).level - scope.levels) outer
    have eq := chained.release_last scopes
    have page : (family.release i).page =
        family.page.draw (scope.strokes ((family.frame i).level - scope.levels)) := by
      rw [eq]
      exact Page.conclude_eq_draw _ _ scope
    have here : (family.release i).frame i = popped := by
      rw [eq]
      exact frame_modify_self _ (lt_size_of_open opened)
    have others : ∀ j ≠ i, (family.release i).frame j = family.frame j := by
      intro j other
      rw [eq]
      exact frame_modify_of_ne _ (Ne.symm other)
    apply ext_frame
    · rw [released.page_close, chained.page_close, page, ← Page.draw_append]
      simp only [closings, List.reverse_singleton, List.flatMap_singleton, here,
        Frame.closings_eq_append scopes]
      rfl
    · rw [released.size_close, chained.size_close, eq]
      exact size_modify _ _ _
    · intro j
      rw [released.frame_close, chained.frame_close]
      by_cases same : j = i
      · rw [if_pos (by simp [same]), if_pos (by simp [same]), same, here]
        exact Frame.shut_popTo scopes
      · rw [others j same]

/-- **Disposing of an emitter that has no child is closing it.** -/
theorem disposeOf_last (chained : family.Chained (before ++ [i])) :
    family.disposeOf i = family.close i := by
  rw [disposeOf]
  generalize (family.frame i).scopes.length = count
  induction count generalizing family with
  | zero => rfl
  | succ count ih =>
    rw [Function.iterate_succ_apply, ih chained.release, chained.close_release]

/-- **Before an emitter does anything, the emitters below it are disposed of.** -/
theorem disposeChain_below (chained : family.Chained (before ++ i :: below)) :
    family.disposeChain below = family.closeChild i := by
  induction below generalizing before i with
  | nil => exact chained.closeChild_last.symm
  | cons child below ih =>
    have longer : before ++ i :: child :: below = before ++ [i] ++ child :: below := by simp
    have chained' : family.Chained (before ++ [i] ++ child :: below) := longer ▸ chained
    rw [disposeChain_cons, ih chained', chained'.cut.disposeOf_last, chained'.close_closeChild,
      chained.close_eq_closeChild]

/-- **Closing an emitter disposes of the emitters below it and then of itself.** -/
theorem disposeChain_self (chained : family.Chained (before ++ i :: below)) :
    family.disposeChain (i :: below) = family.close i := by
  rw [disposeChain_cons, chained.disposeChain_below, chained.cut.disposeOf_last,
    chained.close_closeChild]

theorem isClosed_closeChild (chained : family.Chained (before ++ i :: below)) :
    (family.closeChild i).isClosed i = family.isClosed i := by
  rw [isClosed, isClosed, chained.cut.closed_eq_false, chained.closed_eq_false]

/-- The open emitters are a chain after any acts. -/
theorem replay {chain : List FrameId} (chained : family.Chained chain) (acts : List Act) :
    ∃ chain, (family.replay acts).Chained chain := by
  induction acts generalizing family chain with
  | nil => exact ⟨chain, chained⟩
  | cons act acts ih =>
    obtain ⟨chain', chained'⟩ := chained.act act
    exact ih chained'

end Chained

/-! ### All acts -/

/-- **Closing is disposing by hand.** After any acts, an open emitter and the
emitters below it are open, each the child of the one before it. Closing the
emitter leaves the page and the frames that are left when all of them are disposed
of by hand, the last first. Writing, lending, opening and releasing a scope, a
reset and the output start with disposing of the emitters below, which leaves the
emitter itself as it is but for its child, and go on as they do without one. On
the page, either writes the closing text of every scope once, at the level that is
left when the scope has given its levels back. -/
theorem replay_disposal (width : Nat) (acts : List Act) (i : FrameId)
    (opened : ((root width).replay acts).isClosed i = false) :
    let family := (root width).replay acts
    let below := family.below i
    let cleared := family.disposeChain below
    (∃ parent above, family.Spine parent above (i :: below)) ∧
    family.close i = family.disposeChain (i :: below) ∧
    (family.close i).page = family.page.draw (family.closings (i :: below)) ∧
    cleared.page = family.page.draw (family.closings below) ∧
    cleared.frame i = { family.frame i with child := none } ∧
    (∀ text, family.write i text = cleared.write i text) ∧
    (∀ text, family.writeLine i text = cleared.writeLine i text) ∧
    (∀ body rest : Script ε, (Script.writer body rest).run i family =
      (Script.writer body rest).run i cleared) ∧
    (∀ scope, family.openScope i scope = cleared.openScope i scope) ∧
    (∀ scope, family.openBlock i scope = cleared.openBlock i scope) ∧
    family.release i = cleared.release i ∧
    family.reset i = cleared.reset i ∧
    family.output i = cleared.output i := by
  intro family below cleared
  obtain ⟨chain, chained⟩ := (chained_root width).replay acts
  obtain ⟨before, behind, rfl⟩ := List.append_of_mem (chained.open_iff_mem.mp opened)
  have belowEq : below = behind := chained.below_eq
  have clearedEq : cleared = family.closeChild i := by
    show family.disposeChain below = _
    rw [belowEq, chained.disposeChain_below]
  have isOpen : family.isClosed i = false := opened
  have stillOpen : cleared.isClosed i = false := by
    rw [clearedEq, chained.isClosed_closeChild, opened]
  have again : cleared.closeChild i = family.closeChild i := by
    rw [clearedEq, chained.closeChild_closeChild]
  refine ⟨belowEq ▸ chained.spine.right, belowEq ▸ chained.disposeChain_self.symm,
    belowEq ▸ chained.page_close, ?_, ?_, ?_, ?_, ?_, ?_, ?_, ?_, ?_, ?_⟩
  · rw [clearedEq, belowEq, chained.page_closeChild]
  · rw [clearedEq, chained.frame_closeChild]
    rfl
  · intro text
    simp only [write, settle, isOpen, stillOpen, again, Bool.false_eq_true, if_false]
  · intro text
    simp only [writeLine, settle, isOpen, stillOpen, again, Bool.false_eq_true, if_false]
  · intro body rest
    simp only [Script.run, lend, isOpen, stillOpen, again, Bool.false_eq_true, if_false]
  · intro scope
    simp only [openScope, pushScope, isOpen, stillOpen, again, Bool.false_eq_true, if_false]
  · intro scope
    simp only [openBlock, pushScope, isOpen, stillOpen, again, Bool.false_eq_true, if_false]
  · simp only [release, isOpen, stillOpen, again, Bool.false_eq_true, if_false]
  · simp only [reset, isOpen, stillOpen, again, Bool.false_eq_true, if_false]
  · simp only [output, again]

/-- A root with a child in a block and a grandchild in two scopes. -/
theorem replay_disposal_nested :
    let family := (root 4).replay
      [.newChild 0 1, .openBlock 1 (.indentWith "\x7d" true), .line 1 "a", .newChild 1 1,
        .openScope 2 ⟨2, some ")", false⟩, .openBlock 2 (.withClosing ";")]
    family.isClosed 0 = false ∧ family.below 0 = [1, 2] ∧
      family.close 0 = family.disposeChain (0 :: family.below 0) := by
  intro family
  have opened : family.isClosed 0 = false := by decide
  exact ⟨opened, by decide, (replay_disposal (ε := Empty) 4 _ 0 opened).2.1⟩

end Family

end Bindery.Layout
