/-
The course of a script, seen from its emitter.

A script acts on its own emitter and on children that it creates and closes
itself. So what it does is a matter of the frame that it starts from: the level,
the offset and the scopes, but not the links to other emitters (`Frame.alone`).
`Script.play` computes how the script ends, the strokes that it draws and the
frame that it leaves, without a page and without a family. The main statement is
`Script.run_takes`: a script that runs on the last emitter of a chain takes the
course that it has by itself, and leaves the emitters above where they were.

A script may close its own emitter and go on. From then on the chain is that of
the emitters above (`Family.Trails`).
-/

import Bindery.Proofs.Layout.Disposal

namespace Bindery.Layout

variable {ε : Type}

/-! ### Frames by themselves -/

namespace Frame

/-- The frame without its links. -/
def alone (frame : Frame) : Frame :=
  { frame with parent := none, child := none }

@[simp] theorem closed_alone (frame : Frame) : frame.alone.closed = frame.closed := rfl

@[simp] theorem level_alone (frame : Frame) : frame.alone.level = frame.level := rfl

/-- The frame of an emitter that has written something. -/
def settled (frame : Frame) : Frame :=
  { frame with fresh := false }

/-- The frame in a scope. -/
def opened (scope : Scope) (frame : Frame) : Frame :=
  { frame with level := frame.level + scope.levels, scopes := scope :: frame.scopes }

/-- The frame without its innermost scope. -/
def popped (frame : Frame) : Frame :=
  match frame.scopes with
  | [] => frame
  | scope :: outer => frame.popTo (frame.level - scope.levels) outer

/-- The frame of a child. -/
def offspring (levels : Nat) (frame : Frame) : Frame :=
  { level := frame.level + levels, offset := levels, fresh := true }

end Frame

/-! ### Courses -/

/-- How a script ends, what it draws, and the frame that it leaves. After an abort
the frame means nothing. -/
structure Course (ε : Type) where
  ending : Ending ε
  strokes : List Stroke
  frame : Frame

namespace Course

/-- The course with strokes in front. -/
def behind (strokes : List Stroke) (course : Course ε) : Course ε :=
  { course with strokes := strokes ++ course.strokes }

@[simp] theorem behind_nil (course : Course ε) : course.behind [] = course := rfl

/-- Cleans up behind a block, unless the script was aborted. -/
def leave (course : Course ε) (strokes : Frame → List Stroke) (cleanUp : Frame → Frame) :
    Course ε :=
  match course.ending with
  | .aborted => course
  | _ => ⟨course.ending, course.strokes ++ strokes course.frame, cleanUp course.frame⟩

/-- Goes on behind a block that has ended well. -/
def andThen (course : Course ε) (next : Frame → Course ε) : Course ε :=
  match course.ending with
  | .done => (next course.frame).behind course.strokes
  | _ => course

section

variable {course : Course ε} {strokes : Frame → List Stroke} {cleanUp : Frame → Frame}
  {next : Frame → Course ε}

theorem leave_of_aborted (aborted : course.ending = .aborted) :
    course.leave strokes cleanUp = course := by
  rw [leave, aborted]

theorem leave_of_continued (continued : course.ending ≠ .aborted) :
    course.leave strokes cleanUp =
      ⟨course.ending, course.strokes ++ strokes course.frame, cleanUp course.frame⟩ := by
  rw [leave]
  split
  · rename_i aborted
    exact absurd aborted continued
  · rfl

theorem andThen_of_done (done : course.ending = .done) :
    course.andThen next = (next course.frame).behind course.strokes := by
  rw [andThen, done]

theorem andThen_of_stopped (stopped : course.ending ≠ .done) : course.andThen next = course := by
  rw [andThen]
  split
  · rename_i done
    exact absurd done stopped
  · rfl

/-- An emitter that was closed behind a block stays closed. -/
theorem closed_leave_shut (continued : (course.leave strokes Frame.shut).ending ≠ .aborted) :
    (course.leave strokes Frame.shut).frame.closed = true := by
  by_cases aborted : course.ending = .aborted
  · rw [leave_of_aborted aborted] at continued
    exact absurd aborted continued
  · rw [leave_of_continued aborted]
    rfl

end

end Course

/-- The course of a script from a frame on. -/
def Script.play : Script ε → Frame → Course ε
  | .done, frame => ⟨.done, [], frame⟩
  | .write text rest, frame =>
    if frame.closed then ⟨.aborted, [], frame⟩
    else (rest.play frame.settled).behind [.write frame.level text]
  | .line text rest, frame =>
    if frame.closed then ⟨.aborted, [], frame⟩
    else (rest.play frame.settled).behind [.line frame.level text]
  | .scope s body rest, frame =>
    if s.levels = 0 then ⟨.refused .nonPositiveIndent, [], frame⟩
    else if frame.closed then ⟨.refused .closed, [], frame⟩
    else ((body.play (frame.opened s)).leave Frame.innermost Frame.popped).andThen rest.play
  | .block s body rest, frame =>
    if frame.closed then ⟨.aborted, [], frame⟩
    else ((body.play (frame.opened s)).leave Frame.innermost Frame.popped).andThen rest.play
  | .child levels body rest, frame =>
    if levels = 0 then ⟨.refused .nonPositiveIndent, [], frame⟩
    else if frame.closed then ⟨.refused .closed, [], frame⟩
    else
      -- Whatever the child does, its parent is where it was.
      let inner := (body.play (frame.offspring levels)).leave Frame.closings Frame.shut
      { inner with frame }.andThen rest.play
  | .writer body rest, frame =>
    if frame.closed then ⟨.aborted, [], frame⟩ else (body.play frame).andThen rest.play
  | .reset rest, frame =>
    if frame.closed then ⟨.aborted, [], frame⟩ else rest.play frame.takeBack
  | .close rest, frame => (rest.play frame.shut).behind frame.closings
  | .fail cause, frame => ⟨.failed cause, [], frame⟩

/-! ### What an operation of the last emitter does -/

namespace Family

variable {family after later : Family} {outer : List FrameId} {i : FrameId} {frame frame' : Frame}
  {strokes strokes' : List Stroke}

/-- The emitter is open and the last of the chain, or it is closed and the chain
ends above it. -/
def Trails (family : Family) (outer : List FrameId) (i : FrameId) : Prop :=
  family.Chained (outer ++ [i]) ∨ (family.frame i).closed = true ∧ family.Chained outer

/-- The emitter draws strokes and comes to a frame. The emitters above it lose a
child at most. -/
structure Moves (before after : Family) (outer : List FrameId) (i : FrameId)
    (strokes : List Stroke) (frame : Frame) : Prop where
  trails : after.Trails outer i
  here : (after.frame i).alone = frame
  above : ∀ j ∈ outer, (after.frame j).alone = (before.frame j).alone
  page : after.page = before.page.draw strokes

theorem Trails.moves (trails : family.Trails outer i) :
    family.Moves family outer i [] (family.frame i).alone :=
  ⟨trails, rfl, fun _ _ => rfl, rfl⟩

theorem Moves.trans (first : family.Moves after outer i strokes frame)
    (second : after.Moves later outer i strokes' frame') :
    family.Moves later outer i (strokes ++ strokes') frame' where
  trails := second.trails
  here := second.here
  above j mem := (second.above j mem).trans (first.above j mem)
  page := by rw [second.page, first.page, Page.draw_append]

namespace Trails

/-- An open emitter is the last of the chain. -/
theorem chained (trails : family.Trails outer i) (opened : (family.frame i).closed = false) :
    family.Chained (outer ++ [i]) := by
  rcases trails with chained | ⟨closed, -⟩
  · exact chained
  · exact absurd (opened.symm.trans closed) Bool.false_ne_true

/-- A closed emitter holds nothing. -/
theorem bare (trails : family.Trails outer i) (closed : (family.frame i).closed = true) :
    (family.frame i).Bare := by
  rcases trails with chained | ⟨-, chained⟩
  · exact absurd (chained.closed_eq_false.symm.trans closed) Bool.false_ne_true
  · apply chained.bare
    intro mem
    exact absurd ((chained.open_iff_mem.mpr mem).symm.trans closed) Bool.false_ne_true

end Trails

namespace Chained

/-- The last emitter may draw and change as long as it keeps its place. -/
theorem moves_modify (chained : family.Chained (outer ++ [i])) {f : Frame → Frame}
    (adjusts : (family.frame i).Adjusts (f (family.frame i))) {page : Page}
    (drawn : page = family.page.draw strokes) :
    family.Moves { family.modify i f with page } outer i strokes (f (family.frame i)).alone where
  trails := .inl ((chained.adjust adjusts).onPage page)
  here := congrArg Frame.alone (frame_modify_self f (lt_size_of_open chained.closed_eq_false))
  above _ mem := congrArg Frame.alone (frame_modify_of_ne f (chained.ne_last mem))
  page := drawn

theorem moves_write (chained : family.Chained (outer ++ [i])) (text : String) :
    ∃ after, family.write i text = some after ∧
      family.Moves after outer i [.write (family.frame i).level text]
        (family.frame i).alone.settled := by
  refine ⟨_, ?_, chained.moves_modify (f := Frame.settled) (Frame.adjusts_settled _) rfl⟩
  simp only [Family.write, isClosed, chained.closed_eq_false, chained.level_settle,
    Bool.false_eq_true, if_false]
  rw [chained.settle_last]
  rfl

theorem moves_writeLine (chained : family.Chained (outer ++ [i])) (text : String) :
    ∃ after, family.writeLine i text = some after ∧
      family.Moves after outer i [.line (family.frame i).level text]
        (family.frame i).alone.settled := by
  refine ⟨_, ?_, chained.moves_modify (f := Frame.settled) (Frame.adjusts_settled _)
    (Page.writeLine_eq_draw _ _ text)⟩
  simp only [Family.writeLine, isClosed, chained.closed_eq_false, chained.level_settle,
    Bool.false_eq_true, if_false]
  rw [chained.settle_last]
  rfl

theorem moves_pushScope (chained : family.Chained (outer ++ [i])) (scope : Scope) :
    family.Moves (family.pushScope i scope) outer i [] ((family.frame i).alone.opened scope) := by
  rw [Family.pushScope, chained.closeChild_last]
  exact chained.moves_modify (f := Frame.opened scope) (Frame.adjusts_opened _ scope) rfl

theorem moves_reset (chained : family.Chained (outer ++ [i])) :
    ∃ after, family.reset i = some after ∧
      family.Moves after outer i [] (family.frame i).alone.takeBack := by
  have same : (family.frame i).takeBack.alone = (family.frame i).alone.takeBack := by
    cases fresh : (family.frame i).fresh <;> simp [Frame.takeBack, Frame.alone, fresh]
  refine ⟨_, ?_, same ▸ chained.moves_modify (f := Frame.takeBack) (Frame.adjusts_takeBack _) rfl⟩
  simp only [reset, isClosed, chained.closed_eq_false, chained.closeChild_last,
    Bool.false_eq_true, if_false]
  rfl

/-- Closing the last emitter leaves the chain above it. -/
theorem close_last (chained : family.Chained (outer ++ [i])) :
    (family.close i).Chained outer := by
  rcases List.eq_nil_or_concat outer with rfl | ⟨above, parent, rfl⟩
  · exact chained.close
  · rw [List.concat_eq_append] at chained ⊢
    rw [List.append_assoc, List.singleton_append] at chained
    rw [chained.close_eq_closeChild]
    exact chained.cut

end Chained

namespace Trails

/-- Releasing a scope pops it, if the emitter is open and has one. -/
theorem moves_release (trails : family.Trails outer i) :
    family.Moves (family.release i) outer i (family.frame i).alone.innermost
      (family.frame i).alone.popped := by
  cases scopes : (family.frame i).alone.scopes with
  | nil =>
    have same : family.release i = family := by
      cases closed : (family.frame i).closed with
      | true => exact release_of_closed closed
      | false => exact (trails.chained closed).release_bare scopes
    rw [same, Frame.innermost, Frame.popped, scopes]
    exact trails.moves
  | cons scope rest =>
    have opened : (family.frame i).closed = false := by
      by_contra closed
      have bare : (family.frame i).alone.scopes = [] :=
        (trails.bare (Bool.not_eq_false _ ▸ closed)).scopes
      rw [bare] at scopes
      cases scopes
    have chained := trails.chained opened
    rw [chained.release_last scopes, Frame.innermost, Frame.popped, scopes]
    exact chained.moves_modify (f := Frame.popTo _ rest) (Frame.adjusts_released scopes)
      (Page.conclude_eq_draw _ _ scope)

/-- Closing an emitter shuts it, if it is open. -/
theorem moves_close (trails : family.Trails outer i) :
    family.Moves (family.close i) outer i (family.frame i).alone.closings
      (family.frame i).alone.shut := by
  cases closed : (family.frame i).closed with
  | true =>
    have bare := trails.bare closed
    have still : (family.frame i).alone.shut = (family.frame i).alone := by
      simp [Frame.shut, Frame.alone, Frame.scopeLevels, bare.scopes, closed]
    have silent : (family.frame i).alone.closings = [] := by
      simp [Frame.closings, Frame.alone, Scope.releases, bare.scopes]
    have same : family.close i = family := by
      rw [Family.close, isClosed, closed, if_pos rfl]
    rw [same, still, silent]
    exact trails.moves
  | false =>
    have chained := trails.chained closed
    have here : (family.close i).frame i = (family.frame i).shut := by
      rw [chained.frame_close, if_pos (List.mem_singleton_self i)]
    refine ⟨.inr ⟨congrArg Frame.closed here, chained.close_last⟩, congrArg Frame.alone here, ?_, ?_⟩
    · intro j mem
      have other : j ∉ [i] := fun same => chained.ne_last mem (List.mem_singleton.mp same).symm
      rw [chained.frame_close, if_neg other]
      split <;> rfl
    · rw [chained.page_close]
      simp [closings, Frame.closings, Frame.alone]

end Trails

/-! ### Children -/

/-- A child starts by itself, behind its parent. -/
theorem Chained.trails_withChild (chained : family.Chained (outer ++ [i])) {levels : Nat}
    (positive : levels ≠ 0) :
    (family.withChild i levels).Trails (outer ++ [i]) family.frames.size := by
  have longer : outer ++ [i, family.frames.size] = outer ++ [i] ++ [family.frames.size] := by simp
  exact .inl (longer ▸ chained.withChild positive)

theorem alone_withChild_last (family : Family) (i : FrameId) (levels : Nat) :
    ((family.withChild i levels).frame family.frames.size).alone =
      (family.frame i).alone.offspring levels := by
  rw [frame_withChild_last]
  rfl

/-- A child that was closed leaves its parent where it was. -/
theorem Chained.moves_withChild (chained : family.Chained (outer ++ [i])) {levels : Nat}
    (inner : (family.withChild i levels).Moves after (outer ++ [i]) family.frames.size strokes frame)
    (closed : frame.closed = true) :
    family.Moves after outer i strokes (family.frame i).alone := by
  have same : ∀ j ∈ outer ++ [i], (after.frame j).alone = (family.frame j).alone := by
    intro j mem
    have within : j < family.frames.size := lt_size_of_open (chained.open_iff_mem.mpr mem)
    rw [inner.above j mem]
    by_cases here : i = j
    · subst here
      rw [frame_withChild_parent levels within]
      rfl
    · rw [frame_withChild_of_ne levels here within.ne]
  have shut : (after.frame family.frames.size).closed = true :=
    (congrArg Frame.closed inner.here).trans closed
  refine ⟨.inl ?_, same i List.mem_concat_self, ?_, inner.page⟩
  · rcases inner.trails with stillOpen | ⟨-, chained'⟩
    · exact absurd (stillOpen.closed_eq_false.symm.trans shut) Bool.false_ne_true
    · exact chained'
  · intro j mem
    exact same j (List.mem_append_left [i] mem)

end Family

/-! ### Running a script -/

/-- A run on an emitter has ended as a course says and has drawn its strokes. Unless
it was aborted, the emitter has come to the frame of the course. -/
structure Run.Takes (run : Run ε) (before : Family) (outer : List FrameId) (i : FrameId)
    (course : Course ε) : Prop where
  ending : run.ending = course.ending
  page : run.family.page = before.page.draw course.strokes
  moves : course.ending ≠ .aborted →
    before.Moves run.family outer i course.strokes course.frame

namespace Run.Takes

variable {run : Run ε} {family after : Family} {outer : List FrameId} {i : FrameId}
  {course : Course ε} {strokes : List Stroke} {frame : Frame}

theorem stop (moves : family.Moves after outer i strokes frame) (ending : Ending ε) :
    Run.Takes ⟨ending, after⟩ family outer i ⟨ending, strokes, frame⟩ :=
  ⟨rfl, moves.page, fun _ => moves⟩

/-- What was drawn before the run comes first. -/
theorem behind (takes : run.Takes after outer i course)
    (moves : family.Moves after outer i strokes frame) :
    run.Takes family outer i (course.behind strokes) where
  ending := takes.ending
  page := by rw [takes.page, moves.page, ← Page.draw_append]; rfl
  moves continued := moves.trans (takes.moves continued)

theorem leave (takes : run.Takes family outer i course) {cleanUp : Family → Family}
    {strokes : Frame → List Stroke} {f : Frame → Frame}
    (clean : ∀ {after : Family}, after.Trails outer i →
      after.Moves (cleanUp after) outer i (strokes (after.frame i).alone)
        (f (after.frame i).alone)) :
    (run.leave cleanUp).Takes family outer i (course.leave strokes f) := by
  obtain ⟨ending, left⟩ := run
  obtain ⟨ending', drawn, frame⟩ := course
  obtain ⟨rfl, page, moves⟩ := takes
  by_cases aborted : ending = .aborted
  · subst aborted
    exact ⟨rfl, page, moves⟩
  · have moves := moves aborted
    have cleaned := moves.trans (clean moves.trails)
    rw [moves.here] at cleaned
    cases ending with
    | aborted => exact absurd rfl aborted
    | done => exact stop cleaned _
    | refused reason => exact stop cleaned _
    | failed cause => exact stop cleaned _

theorem andThen (takes : run.Takes family outer i course) {next : Family → Run ε}
    {next' : Frame → Course ε}
    (follows : ∀ {after : Family}, after.Trails outer i →
      (next after).Takes after outer i (next' (after.frame i).alone)) :
    (run.andThen next).Takes family outer i (course.andThen next') := by
  obtain ⟨ending, left⟩ := run
  obtain ⟨ending', drawn, frame⟩ := course
  obtain ⟨rfl, page, moves⟩ := takes
  cases ending with
  | done =>
    have moves := moves (by simp)
    have later := (follows moves.trails).behind moves
    rw [moves.here] at later
    exact later
  | aborted => exact ⟨rfl, page, moves⟩
  | refused reason => exact ⟨rfl, page, moves⟩
  | failed cause => exact ⟨rfl, page, moves⟩

/-- A child that was closed hands over to its parent. -/
theorem toParent (chained : family.Chained (outer ++ [i])) {levels : Nat}
    (takes : run.Takes (family.withChild i levels) (outer ++ [i]) family.frames.size course)
    (closed : course.ending ≠ .aborted → course.frame.closed = true) :
    run.Takes family outer i { course with frame := (family.frame i).alone } where
  ending := takes.ending
  page := takes.page
  moves continued := chained.moves_withChild (takes.moves continued) (closed continued)

end Run.Takes

namespace Script

/-- A script takes the course that it has by itself. -/
def Faithful (script : Script ε) : Prop :=
  ∀ {family : Family} {outer : List FrameId} {i : FrameId}, family.Trails outer i →
    (script.run i family).Takes family outer i (script.play (family.frame i).alone)

variable {family after : Family} {outer : List FrameId} {i : FrameId} {body rest : Script ε}
  {strokes : List Stroke} {frame : Frame}

theorem Faithful.behind (faithful : rest.Faithful)
    (moves : family.Moves after outer i strokes frame) :
    (rest.run i after).Takes family outer i ((rest.play frame).behind strokes) :=
  moves.here ▸ (faithful moves.trails).behind moves

/-- The body of a scope, and what comes behind it. -/
theorem Faithful.throughScope (inside : body.Faithful) (later : rest.Faithful)
    (chained : family.Chained (outer ++ [i])) (s : Scope) :
    (((body.run i (family.pushScope i s)).leave (·.release i)).andThen (rest.run i)).Takes
      family outer i
      (((body.play ((family.frame i).alone.opened s)).leave Frame.innermost Frame.popped).andThen
        rest.play) := by
  have inner := inside.behind (chained.moves_pushScope s)
  rw [Course.behind_nil] at inner
  exact (inner.leave fun trails => trails.moves_release).andThen later

/-- The body of a child, and what comes behind it. -/
theorem Faithful.throughChild (inside : body.Faithful) (later : rest.Faithful)
    (chained : family.Chained (outer ++ [i])) {levels : Nat} (positive : levels ≠ 0) :
    (((body.run family.frames.size (family.withChild i levels)).leave
      (·.close family.frames.size)).andThen (rest.run i)).Takes family outer i
      ({ (body.play ((family.frame i).alone.offspring levels)).leave Frame.closings Frame.shut with
        frame := (family.frame i).alone }.andThen rest.play) := by
  have inner := inside (chained.trails_withChild positive)
  rw [Family.alone_withChild_last] at inner
  have shut := inner.leave fun trails => trails.moves_close
  exact (shut.toParent chained Course.closed_leave_shut).andThen later

/-- **A script takes the course that it has by itself** on the last emitter of a
chain, and on one that was closed. -/
theorem run_takes (script : Script ε) : script.Faithful := by
  induction script with
  | done => exact fun trails => .stop trails.moves _
  | fail cause => exact fun trails => .stop trails.moves _
  | write text rest ih =>
    intro family outer i trails
    cases closed : (family.frame i).closed with
    | true =>
      simpa [Script.run, Script.play, Family.write, Family.isClosed, closed] using
        Run.Takes.stop trails.moves .aborted
    | false =>
      obtain ⟨after, written, moves⟩ := (trails.chained closed).moves_write text
      simpa [Script.run, Script.play, written, closed] using ih.behind moves
  | line text rest ih =>
    intro family outer i trails
    cases closed : (family.frame i).closed with
    | true =>
      simpa [Script.run, Script.play, Family.writeLine, Family.isClosed, closed] using
        Run.Takes.stop trails.moves .aborted
    | false =>
      obtain ⟨after, written, moves⟩ := (trails.chained closed).moves_writeLine text
      simpa [Script.run, Script.play, written, closed] using ih.behind moves
  | scope s body rest ihBody ihRest =>
    intro family outer i trails
    by_cases none : s.levels = 0
    · simpa [Script.run, Script.play, Family.openScope, none] using
        Run.Takes.stop trails.moves (.refused .nonPositiveIndent)
    · cases closed : (family.frame i).closed with
      | true =>
        simpa [Script.run, Script.play, Family.openScope, Family.isClosed, none, closed] using
          Run.Takes.stop trails.moves (.refused .closed)
      | false =>
        simpa [Script.run, Script.play, Family.openScope, Family.isClosed, none, closed] using
          ihBody.throughScope ihRest (trails.chained closed) s
  | block s body rest ihBody ihRest =>
    intro family outer i trails
    cases closed : (family.frame i).closed with
    | true =>
      simpa [Script.run, Script.play, Family.openBlock, Family.isClosed, closed] using
        Run.Takes.stop trails.moves .aborted
    | false =>
      simpa [Script.run, Script.play, Family.openBlock, Family.isClosed, closed] using
        ihBody.throughScope ihRest (trails.chained closed) s
  | child levels body rest ihBody ihRest =>
    intro family outer i trails
    by_cases none : levels = 0
    · simpa [Script.run, Script.play, Family.newChild, none] using
        Run.Takes.stop trails.moves (.refused .nonPositiveIndent)
    · cases closed : (family.frame i).closed with
      | true =>
        simpa [Script.run, Script.play, Family.newChild, Family.isClosed, none, closed] using
          Run.Takes.stop trails.moves (.refused .closed)
      | false =>
        have chained := trails.chained closed
        have created : family.newChild i levels =
            .ok (family.frames.size, family.withChild i levels) :=
          Family.newChild_eq_ok_iff.mpr ⟨⟨none, closed, chained.childless_last⟩, rfl, rfl⟩
        simpa [Script.run, Script.play, created, none, closed] using
          ihBody.throughChild ihRest chained none
  | writer body rest ihBody ihRest =>
    intro family outer i trails
    cases closed : (family.frame i).closed with
    | true =>
      simpa [Script.run, Script.play, Family.lend, Family.isClosed, closed] using
        Run.Takes.stop trails.moves .aborted
    | false =>
      simpa [Script.run, Script.play, Family.lend, Family.isClosed, closed,
        (trails.chained closed).closeChild_last] using (ihBody trails).andThen ihRest
  | reset rest ih =>
    intro family outer i trails
    cases closed : (family.frame i).closed with
    | true =>
      simpa [Script.run, Script.play, Family.reset, Family.isClosed, closed] using
        Run.Takes.stop trails.moves .aborted
    | false =>
      obtain ⟨after, taken, moves⟩ := (trails.chained closed).moves_reset
      simpa [Script.run, Script.play, taken, closed] using ih.behind moves
  | close rest ih => exact fun trails => ih.behind trails.moves_close

end Script

end Bindery.Layout
