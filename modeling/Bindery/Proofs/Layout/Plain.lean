/-
Plain scripts.

A script is plain if it closes nothing, takes no levels back, and gives every
scope and every child a level at least. What it does can be read off the script:
the failure that it runs into (`Script.failure?`) and the strokes that it draws
from a level on (`Script.strokes`). It leaves its emitter as it has found it
(`Family.Resumes`). The main statements are `Script.Plain.run`, for a script on any
emitter, and `Script.Plain.run_root`, for a script that has a page for itself.
-/

import Bindery.Proofs.Layout.Strokes

namespace Bindery.Layout

variable {ε : Type}

/-! ### Reading a script -/

/-- What is drawn behind a script, which is nothing if it has failed. -/
def unlessFailed (failure : Option ε) (later : List Stroke) : List Stroke :=
  if failure.isSome then [] else later

theorem unlessFailed_or (first second : Option ε) (strokes later : List Stroke) :
    unlessFailed first (strokes ++ unlessFailed second later) =
      unlessFailed first strokes ++ unlessFailed (first.or second) later := by
  cases first <;> rfl

namespace Script

/-- The script closes no emitter, takes no levels back, and every scope and child
of it adds a level. -/
@[grind =] def Plain : Script ε → Prop
  | .done | .fail _ => True
  | .write _ rest | .line _ rest => rest.Plain
  | .scope s body rest => 0 < s.levels ∧ body.Plain ∧ rest.Plain
  | .child levels body rest => 0 < levels ∧ body.Plain ∧ rest.Plain
  | .block _ body rest | .writer body rest => body.Plain ∧ rest.Plain
  | .reset _ | .close _ => False

/-- The first failure of a script. -/
def failure? : Script ε → Option ε
  | .done => none
  | .fail cause => some cause
  | .write _ rest | .line _ rest | .reset rest | .close rest => rest.failure?
  | .scope _ body rest | .block _ body rest | .child _ body rest | .writer body rest =>
    body.failure?.or rest.failure?

/-- The strokes of a plain script from a level on. The closing text of a scope is
drawn also when its body has failed. -/
def strokes (level : Nat) : Script ε → List Stroke
  | .done | .fail _ => []
  | .write text rest => .write level text :: rest.strokes level
  | .line text rest => .line level text :: rest.strokes level
  | .scope s body rest | .block s body rest =>
    body.strokes (level + s.levels) ++ s.strokes level ++
      unlessFailed body.failure? (rest.strokes level)
  | .child levels body rest =>
    body.strokes (level + levels) ++ unlessFailed body.failure? (rest.strokes level)
  | .writer body rest =>
    body.strokes level ++ unlessFailed body.failure? (rest.strokes level)
  | .reset rest | .close rest => rest.strokes level

theorem Plain.neverCloses {script : Script ε} (plain : script.Plain) : script.NeverCloses := by
  induction script with
  | done => trivial
  | fail cause => trivial
  | write text rest ih => exact ih plain
  | line text rest ih => exact ih plain
  | scope s body rest ihBody ihRest => exact ⟨ihBody plain.2.1, ihRest plain.2.2⟩
  | child levels body rest ihBody ihRest => exact ⟨ihBody plain.2.1, ihRest plain.2.2⟩
  | block s body rest ihBody ihRest => exact ⟨ihBody plain.1, ihRest plain.2⟩
  | writer body rest ihBody ihRest => exact ⟨ihBody plain.1, ihRest plain.2⟩
  | reset rest ih => exact plain.elim
  | close rest ih => exact plain.elim

/-! ### Composed scripts -/

@[grind ←] theorem Plain.append {first second : Script ε} (plain : first.Plain)
    (next : second.Plain) : (first ++ second).Plain := by
  show (first.append second).Plain
  induction first with
  | done => exact next
  | fail cause => trivial
  | write text rest ih => exact ih plain
  | line text rest ih => exact ih plain
  | scope s body rest _ ih => exact ⟨plain.1, plain.2.1, ih plain.2.2⟩
  | child levels body rest _ ih => exact ⟨plain.1, plain.2.1, ih plain.2.2⟩
  | block s body rest _ ih => exact ⟨plain.1, ih plain.2⟩
  | writer body rest _ ih => exact ⟨plain.1, ih plain.2⟩
  | reset rest ih => exact plain.elim
  | close rest ih => exact plain.elim

@[grind ←] theorem Plain.sequence {α : Type} {write : α → Script ε}
    (plain : ∀ item, (write item).Plain) (items : List α) :
    (Script.sequence (items.map write)).Plain := by
  induction items with
  | nil => trivial
  | cons item rest ih => exact (plain item).append ih

@[grind .] theorem plain_texts (pieces : List String) : (texts pieces : Script ε).Plain := by
  induction pieces with
  | nil => trivial
  | cons piece rest ih => exact ih

@[grind .] theorem plain_lines (texts : List String) : (lines texts : Script ε).Plain := by
  induction texts with
  | nil => trivial
  | cons text rest ih => exact ih

/-- Of two scripts, the first that fails decides. -/
@[simp] theorem failure?_append (first second : Script ε) :
    (first ++ second).failure? = first.failure?.or second.failure? := by
  show (first.append second).failure? = _
  induction first with
  | done => rfl
  | fail cause => rfl
  | write text rest ih | line text rest ih | reset rest ih | close rest ih => exact ih
  | scope s body rest _ ih | block s body rest _ ih | child levels body rest _ ih
  | writer body rest _ ih =>
    simp only [append, failure?, ih, Option.or_assoc]

@[simp] theorem failure?_sequence {α : Type} (write : α → Script ε) (items : List α) :
    (sequence (items.map write)).failure? = items.findSome? fun item => (write item).failure? := by
  induction items with
  | nil => rfl
  | cons item rest ih =>
    show (write item ++ sequence (rest.map write)).failure? = _
    rw [failure?_append, ih, List.findSome?_cons]
    cases (write item).failure? <;> rfl

@[simp] theorem failure?_lines (texts : List String) :
    (lines texts : Script ε).failure? = none := by
  induction texts with
  | nil => rfl
  | cons text rest ih => exact ih

theorem strokes_lines (level : Nat) (texts : List String) :
    (lines texts : Script ε).strokes level = texts.map (.line level) := by
  induction texts with
  | nil => rfl
  | cons text rest ih => exact congrArg (List.cons _) ih

theorem strokes_append (level : Nat) (first second : Script ε) :
    (first ++ second).strokes level =
      first.strokes level ++ unlessFailed first.failure? (second.strokes level) := by
  show (first.append second).strokes level = _
  induction first with
  | done => rfl
  | fail cause => rfl
  | write text rest ih | line text rest ih => exact congrArg (List.cons _) ih
  | reset rest ih | close rest ih => exact ih
  | scope s body rest _ ih | block s body rest _ ih | child levels body rest _ ih
  | writer body rest _ ih =>
    simp only [append, strokes, failure?, ih, unlessFailed_or, List.append_assoc]

theorem strokes_append_of_ok {first : Script ε} (ok : first.failure? = none) (level : Nat)
    (second : Script ε) :
    (first ++ second).strokes level = first.strokes level ++ second.strokes level := by
  rw [strokes_append, ok]
  rfl

theorem strokes_sequence {α : Type} {write : α → Script ε} {items : List α}
    (ok : ∀ item ∈ items, (write item).failure? = none) (level : Nat) :
    (sequence (items.map write)).strokes level =
      items.flatMap fun item => (write item).strokes level := by
  induction items with
  | nil => rfl
  | cons item rest ih =>
    obtain ⟨here, later⟩ := List.forall_mem_cons.mp ok
    rw [List.flatMap_cons, ← ih later, ← strokes_append_of_ok here]
    rfl

end Script

/-! ### What a plain script leaves -/

namespace Family

variable {family after later : Family} {outer : List FrameId} {i : FrameId}
  {strokes strokes' : List Stroke}

/-- The last emitter of a chain has drawn strokes and is where it was: its level
and its scopes are the same, and the emitters above it are untouched. -/
structure Resumes (before after : Family) (outer : List FrameId) (i : FrameId)
    (strokes : List Stroke) : Prop where
  chained : after.Chained (outer ++ [i])
  above : ∀ j ∈ outer, after.frame j = before.frame j
  level : (after.frame i).level = (before.frame i).level
  scopes : (after.frame i).scopes = (before.frame i).scopes
  page : after.page = before.page.draw strokes

theorem Chained.resumes (chained : family.Chained (outer ++ [i])) :
    family.Resumes family outer i [] :=
  ⟨chained, fun _ _ => rfl, rfl, rfl, rfl⟩

theorem Resumes.trans (first : family.Resumes after outer i strokes)
    (second : after.Resumes later outer i strokes') :
    family.Resumes later outer i (strokes ++ strokes') where
  chained := second.chained
  above j mem := (second.above j mem).trans (first.above j mem)
  level := second.level.trans first.level
  scopes := second.scopes.trans first.scopes
  page := by rw [second.page, first.page, Page.draw_append]

namespace Chained

theorem childless_last (chained : family.Chained (outer ++ [i])) :
    (family.frame i).child = none := by
  obtain ⟨-, -, -, -, -, child, -⟩ := chained.spine.right
  exact child

theorem closeChild_last (chained : family.Chained (outer ++ [i])) :
    family.closeChild i = family := by
  rw [closeChild, chained.childless_last]

theorem ne_last (chained : family.Chained (outer ++ [i])) {j : FrameId} (mem : j ∈ outer) :
    i ≠ j :=
  ((List.nodup_append.mp chained.nodup).2.2 j mem i List.mem_cons_self).symm

theorem settle_last (chained : family.Chained (outer ++ [i])) :
    family.settle i = family.modify i fun frame => { frame with fresh := false } := by
  rw [Family.settle, chained.closeChild_last]

theorem frame_settle (chained : family.Chained (outer ++ [i])) :
    (family.settle i).frame i = { family.frame i with fresh := false } := by
  rw [chained.settle_last]
  exact frame_modify_self _ (lt_size_of_open chained.closed_eq_false)

/-- An emitter that is ready to write, and a page on which it has written. -/
theorem resumes_settle (chained : family.Chained (outer ++ [i])) {page : Page}
    (drawn : page = family.page.draw strokes) :
    family.Resumes { family.settle i with page } outer i strokes where
  chained := chained.settle.onPage page
  above j mem := by
    show (family.settle i).frame j = family.frame j
    rw [chained.settle_last]
    exact frame_modify_of_ne _ (chained.ne_last mem)
  level := by
    show ((family.settle i).frame i).level = (family.frame i).level
    rw [chained.frame_settle]
  scopes := by
    show ((family.settle i).frame i).scopes = (family.frame i).scopes
    rw [chained.frame_settle]
  page := drawn

/-- The last emitter writes at its level. -/
theorem write_last (chained : family.Chained (outer ++ [i])) (text : String) :
    ∃ after, family.write i text = some after ∧
      family.Resumes after outer i [.write (family.frame i).level text] := by
  have drawn : (family.settle i).page.write ((family.settle i).frame i).level text =
      family.page.draw [.write (family.frame i).level text] := by
    rw [chained.frame_settle, chained.settle_last]
    rfl
  refine ⟨_, ?_, chained.resumes_settle drawn⟩
  simp only [Family.write, isClosed, chained.closed_eq_false, Bool.false_eq_true, if_false]

theorem writeLine_last (chained : family.Chained (outer ++ [i])) (text : String) :
    ∃ after, family.writeLine i text = some after ∧
      family.Resumes after outer i [.line (family.frame i).level text] := by
  have drawn : (family.settle i).page.writeLine ((family.settle i).frame i).level text =
      family.page.draw [.line (family.frame i).level text] := by
    rw [chained.frame_settle, chained.settle_last]
    exact Page.writeLine_eq_draw _ _ text
  refine ⟨_, ?_, chained.resumes_settle drawn⟩
  simp only [Family.writeLine, isClosed, chained.closed_eq_false, Bool.false_eq_true, if_false]

theorem frame_pushScope (chained : family.Chained (outer ++ [i])) (scope : Scope) :
    (family.pushScope i scope).frame i =
      { family.frame i with
        level := (family.frame i).level + scope.levels
        scopes := scope :: (family.frame i).scopes } := by
  rw [Family.pushScope, chained.closeChild_last]
  exact frame_modify_self _ (lt_size_of_open chained.closed_eq_false)

/-- Releasing a scope behind its body brings the emitter back, and writes the
closing text at the level that it had. -/
theorem resumes_release (chained : family.Chained (outer ++ [i])) {scope : Scope}
    (inner : (family.pushScope i scope).Resumes after outer i strokes) :
    family.Resumes (after.release i) outer i
      (strokes ++ scope.strokes (family.frame i).level) := by
  have opened := chained.frame_pushScope scope
  have scopes := inner.scopes
  have level := inner.level
  rw [opened] at scopes level
  have left : (after.frame i).level - scope.levels = (family.frame i).level := by
    rw [level, Nat.add_sub_cancel]
  have released : after.release i =
      { after with page := after.page.conclude (family.frame i).level scope }.modify i
        fun frame => { frame with
          level := (family.frame i).level, scopes := (family.frame i).scopes } := by
    simp only [Family.release, isClosed, inner.chained.closed_eq_false,
      inner.chained.closeChild_last, scopes, left, Bool.false_eq_true, if_false]
  have here : (after.release i).frame i = { after.frame i with
      level := (family.frame i).level, scopes := (family.frame i).scopes } := by
    rw [released]
    exact frame_modify_self _ (lt_size_of_open inner.chained.closed_eq_false)
  refine ⟨inner.chained.release, ?_, ?_, ?_, ?_⟩
  · intro j mem
    have other := chained.ne_last mem
    have before : (family.pushScope i scope).frame j = family.frame j := by
      rw [Family.pushScope, chained.closeChild_last]
      exact frame_modify_of_ne _ other
    rw [released, ← before, ← inner.above j mem]
    exact frame_modify_of_ne _ other
  · rw [here]
  · rw [here]
  · rw [released, Page.draw_append]
    show after.page.conclude _ scope = _
    rw [Page.conclude_eq_draw, inner.page, Family.pushScope, chained.closeChild_last]
    rfl

/-- Closing a child behind its body brings the parent back. -/
theorem resumes_close (chained : family.Chained (outer ++ [i])) {levels : Nat}
    (inner : (family.withChild i levels).Resumes after (outer ++ [i]) family.frames.size strokes) :
    family.Resumes (after.close family.frames.size) outer i strokes := by
  have within := lt_size_of_open chained.closed_eq_false
  have chained' := inner.chained
  rw [List.append_assoc, List.singleton_append] at chained'
  have cuts := chained'.cuts_closeChild
  have here : (after.closeChild i).frame i = (family.frame i).childless := by
    rw [cuts.here, inner.above i List.mem_concat_self, frame_withChild_parent levels within]
    rfl
  rw [chained'.close_eq_closeChild]
  refine ⟨chained'.cut, ?_, ?_, ?_, ?_⟩
  · intro j mem
    have other := chained.ne_last mem
    have old : j ≠ family.frames.size := by
      have opened := chained.open_iff_mem.mpr (List.mem_append_left [i] mem)
      exact (lt_size_of_open opened).ne
    rw [cuts.kept j (by simpa using old) (Ne.symm other),
      inner.above j (List.mem_append_left [i] mem), frame_withChild_of_ne levels other old]
  · rw [here]
    rfl
  · rw [here, Frame.childless_eq_self chained.childless_last]
  · have bare : (after.frame family.frames.size).scopes = [] := by
      rw [inner.scopes, frame_withChild_last]
      rfl
    have silent : after.closings [family.frames.size] = [] := by
      simp [closings, Frame.closings, bare, Scope.releases]
    rw [chained'.page_closeChild, silent]
    exact inner.page

end Chained

end Family

/-! ### Running a plain script -/

/-- The ending of a script that fails for a cause, or not at all. -/
def Ending.ofFailure : Option ε → Ending ε
  | none => .done
  | some cause => .failed cause

/-- A run on the last emitter of a chain has ended with a failure, or not, has
drawn strokes and has brought the emitter back. -/
structure Run.Draws (run : Run ε) (before : Family) (outer : List FrameId) (i : FrameId)
    (failure : Option ε) (strokes : List Stroke) : Prop where
  ending : run.ending = .ofFailure failure
  resumes : before.Resumes run.family outer i strokes

namespace Run.Draws

variable {run : Run ε} {family : Family} {outer : List FrameId} {i : FrameId}
  {failure failure' : Option ε} {strokes strokes' : List Stroke}

/-- A run that was not aborted is cleaned up behind. -/
theorem leave {before : Family} {inside : List FrameId} {j : FrameId}
    (draws : run.Draws before inside j failure strokes) {cleanUp : Family → Family}
    (clean : before.Resumes run.family inside j strokes →
      family.Resumes (cleanUp run.family) outer i strokes') :
    (run.leave cleanUp).Draws family outer i failure strokes' := by
  obtain ⟨ending, left⟩ := run
  obtain ⟨ended, resumes⟩ := draws
  cases failure with
  | none =>
    obtain rfl : ending = .done := ended
    exact ⟨rfl, clean resumes⟩
  | some cause =>
    obtain rfl : ending = .failed cause := ended
    exact ⟨rfl, clean resumes⟩

/-- What was drawn before the run comes first. -/
theorem behind {after : Family} (draws : run.Draws after outer i failure strokes')
    (resumes : family.Resumes after outer i strokes) :
    run.Draws family outer i failure (strokes ++ strokes') :=
  ⟨draws.ending, resumes.trans draws.resumes⟩

theorem andThen (draws : run.Draws family outer i failure strokes) {next : Family → Run ε}
    (follows : ∀ {after : Family}, after.Chained (outer ++ [i]) →
      (after.frame i).level = (family.frame i).level →
      (next after).Draws after outer i failure' strokes') :
    (run.andThen next).Draws family outer i (failure.or failure')
      (strokes ++ unlessFailed failure strokes') := by
  obtain ⟨ending, left⟩ := run
  obtain ⟨ended, resumes⟩ := draws
  cases failure with
  | none =>
    obtain rfl : ending = .done := ended
    obtain ⟨ended', resumes'⟩ := follows resumes.chained resumes.level
    exact ⟨ended', resumes.trans resumes'⟩
  | some cause =>
    obtain rfl : ending = .failed cause := ended
    refine ⟨rfl, ?_⟩
    rw [unlessFailed, Option.isSome_some, if_pos rfl, List.append_nil]
    exact resumes

end Run.Draws

/-- **A plain script on the last emitter of a chain ends as its first failure says,
draws its strokes and brings the emitter back.** -/
theorem Script.Plain.run {script : Script ε} (plain : script.Plain) {family : Family}
    {outer : List FrameId} {i : FrameId} (chained : family.Chained (outer ++ [i])) :
    (script.run i family).Draws family outer i script.failure?
      (script.strokes (family.frame i).level) := by
  induction script generalizing family outer i with
  | done => exact ⟨rfl, chained.resumes⟩
  | fail cause => exact ⟨rfl, chained.resumes⟩
  | write text rest ih =>
    obtain ⟨after, written, resumes⟩ := chained.write_last text
    have draws := (ih plain resumes.chained).behind resumes
    rw [resumes.level] at draws
    rw [Script.run, written]
    exact draws
  | line text rest ih =>
    obtain ⟨after, written, resumes⟩ := chained.writeLine_last text
    have draws := (ih plain resumes.chained).behind resumes
    rw [resumes.level] at draws
    rw [Script.run, written]
    exact draws
  | scope s body rest ihBody ihRest =>
    obtain ⟨positive, plainBody, plainRest⟩ := plain
    have inner := ihBody plainBody (chained.pushScope s)
    rw [chained.frame_pushScope] at inner
    have opened : family.openScope i s = .ok (family.pushScope i s) := by
      simp only [Family.openScope, Family.isClosed, chained.closed_eq_false, positive.ne',
        Bool.false_eq_true, if_false]
    rw [Script.run, opened]
    refine (inner.leave fun inner => chained.resumes_release inner).andThen fun chained level => ?_
    rw [← level]
    exact ihRest plainRest chained
  | block s body rest ihBody ihRest =>
    have inner := ihBody plain.1 (chained.pushScope s)
    rw [chained.frame_pushScope] at inner
    have opened : family.openBlock i s = some (family.pushScope i s) := by
      simp only [Family.openBlock, Family.isClosed, chained.closed_eq_false, Bool.false_eq_true,
        if_false]
    rw [Script.run, opened]
    refine (inner.leave fun inner => chained.resumes_release inner).andThen fun chained level => ?_
    rw [← level]
    exact ihRest plain.2 chained
  | child levels body rest ihBody ihRest =>
    obtain ⟨positive, plainBody, plainRest⟩ := plain
    have chained' := chained.withChild positive.ne'
    rw [← List.singleton_append, ← List.append_assoc] at chained'
    have inner := ihBody plainBody chained'
    rw [Family.frame_withChild_last] at inner
    have created := Family.newChild_eq_ok_iff.mpr
      ⟨⟨positive.ne', chained.closed_eq_false, chained.childless_last⟩, rfl, rfl⟩
    rw [Script.run, created]
    refine (inner.leave fun inner => chained.resumes_close inner).andThen fun chained level => ?_
    rw [← level]
    exact ihRest plainRest chained
  | writer body rest ihBody ihRest =>
    have lent : family.lend i = some family := by
      simp only [Family.lend, Family.isClosed, chained.closed_eq_false, chained.closeChild_last,
        Bool.false_eq_true, if_false]
    rw [Script.run, lent]
    refine (ihBody plain.1 chained).andThen fun chained level => ?_
    rw [← level]
    exact ihRest plain.2 chained
  | reset rest ih => exact plain.elim
  | close rest ih => exact plain.elim

/-- A plain script that has a page for itself: its root has released all scopes, and
closing it writes nothing more. -/
theorem Script.Plain.run_root {script : Script ε} (plain : script.Plain) (width : Nat) :
    (script.run 0 (Family.root width)).ending = .ofFailure script.failure? ∧
      ((script.run 0 (Family.root width)).family.close 0).page =
        Page.draw { width } (script.strokes 0) := by
  have chained : (Family.root width).Chained ([] ++ [0]) := Family.chained_root width
  obtain ⟨ending, resumes⟩ := plain.run chained
  have released : ((script.run 0 (Family.root width)).family.frame 0).scopes = [] := resumes.scopes
  have silent : (script.run 0 (Family.root width)).family.closings [0] = [] := by
    simp [Family.closings, Frame.closings, released, Scope.releases]
  refine ⟨ending, ?_⟩
  rw [resumes.chained.page_close, silent]
  exact resumes.page

end Bindery.Layout
