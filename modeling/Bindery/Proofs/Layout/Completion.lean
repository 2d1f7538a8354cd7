/-
Scripts that cannot be aborted.

A script is aborted only by a write to a closed emitter. The emitters that a
script is given are open, and what it opens on them is released behind it, so
only a script that closes an emitter by itself can be aborted. The main
statement is `Script.run_keeps`: the run of a script that never closes
(`Script.NeverCloses`) ends otherwise, and leaves its emitter open.
-/

import Bindery.Proofs.Layout.Levels

namespace Bindery.Layout

variable {ε : Type}

/-! ### Scripts that never close -/

/-- The script closes no emitter by itself. -/
def Script.NeverCloses : Script ε → Prop
  | .done | .fail _ => True
  | .write _ rest | .line _ rest | .reset rest => rest.NeverCloses
  | .scope _ body rest | .block _ body rest | .child _ body rest | .writer body rest =>
    body.NeverCloses ∧ rest.NeverCloses
  | .close _ => False

/-! ### What a run keeps -/

namespace Family.Chained

variable {family : Family} {before below : List FrameId} {i : FrameId}

theorem closed_eq_false (chained : family.Chained (before ++ i :: below)) :
    (family.frame i).closed = false :=
  chained.open_iff_mem.mpr (List.mem_append_right before List.mem_cons_self)

theorem settle (chained : family.Chained (before ++ i :: below)) :
    (family.settle i).Chained (before ++ [i]) :=
  chained.cut.adjust (Frame.adjusts_settled _)

theorem pushScope (chained : family.Chained (before ++ i :: below)) (scope : Scope) :
    (family.pushScope i scope).Chained (before ++ [i]) :=
  chained.cut.adjust (Frame.adjusts_opened _ scope)

theorem release (chained : family.Chained (before ++ i :: below)) :
    (family.release i).Chained (before ++ [i]) := by
  rw [Family.release, isClosed, chained.closed_eq_false]
  simp only [Bool.false_eq_true, if_false]
  cases scopes : ((family.closeChild i).frame i).scopes with
  | nil => exact chained.cut
  | cons scope outer =>
    let level := ((family.closeChild i).frame i).level - scope.levels
    exact (chained.cut.adjust (f := fun frame => { frame with level, scopes := outer })
      (Frame.adjusts_released scopes)).onPage _

/-- An emitter without a child is the last of the chain. -/
theorem below_eq_nil (chained : family.Chained (before ++ i :: below))
    (childless : (family.frame i).child = none) : below = [] := by
  obtain ⟨-, -, -, -, -, child, -⟩ := chained.spine.right
  exact List.head?_eq_none_iff.mp (child.symm.trans childless)

end Family.Chained

/-- The run was not aborted, and it has left the emitter open below those of
`before`. -/
structure Run.Keeps (run : Run ε) (before : List FrameId) (i : FrameId) : Prop where
  ending : run.ending ≠ .aborted
  chained : ∃ below, run.family.Chained (before ++ i :: below)

namespace Run.Keeps

variable {run : Run ε} {before before' : List FrameId} {i i' : FrameId}

theorem leave (keeps : run.Keeps before i) {cleanUp : Family → Family}
    (clean : ∀ {family below}, family.Chained (before ++ i :: below) →
      ∃ below, (cleanUp family).Chained (before' ++ i' :: below)) :
    (run.leave cleanUp).Keeps before' i' := by
  obtain ⟨ending, family⟩ := run
  obtain ⟨below, chained⟩ := keeps.chained
  cases ending with
  | aborted => exact absurd rfl keeps.ending
  | done => exact ⟨by simp [leave], clean chained⟩
  | refused reason => exact ⟨by simp [leave], clean chained⟩
  | failed cause => exact ⟨by simp [leave], clean chained⟩

theorem andThen (keeps : run.Keeps before i) {next : Family → Run ε}
    (goesOn : ∀ {family below}, family.Chained (before ++ i :: below) →
      (next family).Keeps before i) : (run.andThen next).Keeps before i := by
  obtain ⟨ending, family⟩ := run
  obtain ⟨below, chained⟩ := keeps.chained
  cases ending with
  | done => exact goesOn chained
  | refused reason => exact keeps
  | failed cause => exact keeps
  | aborted => exact keeps

end Run.Keeps

/-- **A script that never closes is never aborted**, and it leaves its emitter
open. -/
theorem Script.run_keeps {script : Script ε} (never : script.NeverCloses) {family : Family}
    {before below : List FrameId} {i : FrameId} (chained : family.Chained (before ++ i :: below)) :
    (script.run i family).Keeps before i := by
  induction script generalizing family before below i with
  | done => exact ⟨by simp [Script.run], below, chained⟩
  | fail cause => exact ⟨by simp [Script.run], below, chained⟩
  | write text rest ih =>
    simp only [Script.run, Family.write, Family.isClosed, chained.closed_eq_false,
      Bool.false_eq_true, if_false]
    exact ih never (chained.settle.onPage _)
  | line text rest ih =>
    simp only [Script.run, Family.writeLine, Family.isClosed, chained.closed_eq_false,
      Bool.false_eq_true, if_false]
    exact ih never (chained.settle.onPage _)
  | scope s body rest ihBody ihRest =>
    by_cases none : s.levels = 0
    · simp only [Script.run, Family.openScope, none, if_true]
      exact ⟨by simp, below, chained⟩
    · simp only [Script.run, Family.openScope, Family.isClosed, chained.closed_eq_false, none,
        Bool.false_eq_true, if_false]
      have inner := ihBody never.1 (chained.pushScope s)
      exact (inner.leave fun chained => ⟨[], chained.release⟩).andThen (ihRest never.2)
  | block s body rest ihBody ihRest =>
    simp only [Script.run, Family.openBlock, Family.isClosed, chained.closed_eq_false,
      Bool.false_eq_true, if_false]
    have inner := ihBody never.1 (chained.pushScope s)
    exact (inner.leave fun chained => ⟨[], chained.release⟩).andThen (ihRest never.2)
  | child levels body rest ihBody ihRest =>
    rw [Script.run]
    cases created : family.newChild i levels with
    | error reason => exact ⟨by simp, below, chained⟩
    | ok created' =>
      obtain ⟨j, after⟩ := created'
      obtain ⟨⟨positive, -, childless⟩, rfl, rfl⟩ := Family.newChild_eq_ok_iff.mp created
      obtain rfl := chained.below_eq_nil childless
      have longer : before ++ [i, family.frames.size] = before ++ [i] ++ [family.frames.size] := by
        simp
      have inner := ihBody never.1 (longer ▸ chained.withChild positive)
      refine (inner.leave fun chained => ⟨[], ?_⟩).andThen (ihRest never.2)
      rw [List.append_assoc, List.singleton_append] at chained
      rw [chained.close_eq_closeChild]
      exact chained.cut
  | writer body rest ihBody ihRest =>
    simp only [Script.run, Family.lend, Family.isClosed, chained.closed_eq_false,
      Bool.false_eq_true, if_false]
    exact (ihBody never.1 chained.cut).andThen (ihRest never.2)
  | reset rest ih =>
    simp only [Script.run, Family.reset, Family.isClosed, chained.closed_eq_false,
      Bool.false_eq_true, if_false]
    exact ih never (chained.cut.adjust (Frame.adjusts_takeBack _))
  | close rest ih => exact never.elim

end Bindery.Layout
