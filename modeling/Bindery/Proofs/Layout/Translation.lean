/-
Nested scripts write translated text.

A script that neither closes nor resets its emitter (`Script.KeepsPlace`) writes
the same some levels deeper: it ends in the same way, and every stroke is raised
by these levels. For its own emitter this is so because the script comes back to
the level that it starts from, whatever the scopes around it are. For a child,
which may be closed and reset, it is so because the frame of a child stands on
nothing but the level of its parent. On the page, raised strokes are the same
text, indented. The main statements are

* `Script.play_rises`, that any script on a raised frame draws raised strokes and
  leaves a raised frame;
* `Script.KeepsPlace.returns`, that a script that keeps its place leaves its
  emitter where it was, also when it ends early;
* `Script.KeepsPlace.shifts`, that such a script draws raised strokes on any
  emitter that is deeper;
* `Page.text_draw_raise`, that raised strokes show the same lines, deeper;
* `Family.replay_nested`, that after any acts a script in a scope writes what it
  writes outside, indented.
-/

import Bindery.Proofs.Layout.Course
import Bindery.Proofs.Layout.Lines
import Bindery.Text.Segments

namespace Bindery.Layout

variable {ε : Type} {n : Nat}

/-! ### Raising -/

/-- The stroke some levels deeper. -/
def Stroke.raise (n : Nat) (stroke : Stroke) : Stroke :=
  { stroke with level := stroke.level + n }

/-- The frame some levels deeper. -/
def Frame.raise (n : Nat) (frame : Frame) : Frame :=
  { frame with level := frame.level + n }

/-- The course some levels deeper. -/
def Course.raise (n : Nat) (course : Course ε) : Course ε :=
  ⟨course.ending, course.strokes.map (Stroke.raise n), course.frame.raise n⟩

namespace Scope

theorem strokes_raise (scope : Scope) (level : Nat) :
    scope.strokes (level + n) = (scope.strokes level).map (Stroke.raise n) := by
  obtain ⟨levels, closing, ownLine⟩ := scope
  cases closing <;> cases ownLine <;> rfl

theorem releases_raise {level : Nat} {scopes : List Scope}
    (enough : (scopes.map Scope.levels).sum ≤ level) :
    releases (level + n) scopes = (releases level scopes).map (Stroke.raise n) := by
  induction scopes generalizing level with
  | nil => rfl
  | cons scope outer ih =>
    rw [List.map_cons, List.sum_cons] at enough
    have left : level + n - scope.levels = level - scope.levels + n := by omega
    have enough' : (outer.map Scope.levels).sum ≤ level - scope.levels := by omega
    rw [releases, releases, left, strokes_raise, ih enough', List.map_append]

end Scope

namespace Frame

variable {frame : Frame} {above : Nat}

theorem opened_raise (frame : Frame) (scope : Scope) :
    (frame.raise n).opened scope = (frame.opened scope).raise n := by
  simp only [opened, raise, Nat.add_right_comm]

/-- The child of a deeper emitter is deeper. -/
theorem offspring_eq_raise {other : Frame} (deeper : other.level = frame.level + n) (levels : Nat) :
    other.offspring levels = (frame.offspring levels).raise n := by
  simp only [offspring, raise, deeper, Nat.add_right_comm]

theorem stands_offspring (frame : Frame) (levels : Nat) :
    (frame.offspring levels).Stands frame.level := rfl

namespace Stands

theorem closings_raise (stands : frame.Stands above) :
    (frame.raise n).closings = frame.closings.map (Stroke.raise n) := by
  apply Scope.releases_raise
  have level : frame.level = above + frame.offset + frame.scopeLevels := stands
  rw [level]
  exact Nat.le_add_left _ _

theorem shut_raise (stands : frame.Stands above) : (frame.raise n).shut = frame.shut.raise n := by
  have level : frame.level = above + frame.offset + frame.scopeLevels := stands
  have left : frame.level + n - frame.scopeLevels = frame.level - frame.scopeLevels + n := by omega
  simp only [shut, raise]
  rw [← left]
  rfl

theorem takeBack_raise (stands : frame.Stands above) :
    (frame.raise n).takeBack = frame.takeBack.raise n := by
  have level : frame.level = above + frame.offset + frame.scopeLevels := stands
  have left : frame.level + n - frame.offset = frame.level - frame.offset + n := by omega
  cases fresh : frame.fresh <;> simp [takeBack, raise, fresh, left]

/-- The innermost scope has added its levels. -/
theorem levels_le {scope : Scope} {outer : List Scope} (stands : frame.Stands above)
    (scopes : frame.scopes = scope :: outer) : scope.levels ≤ frame.level := by
  have level : frame.level = above + frame.offset + frame.scopeLevels := stands
  rw [scopeLevels, scopes, List.map_cons, List.sum_cons] at level
  omega

theorem innermost_raise (stands : frame.Stands above) :
    (frame.raise n).innermost = frame.innermost.map (Stroke.raise n) := by
  cases scopes : frame.scopes with
  | nil => simp [innermost, raise, scopes]
  | cons scope outer =>
    have left := Nat.sub_add_comm (stands.levels_le scopes) (m := n)
    simp only [innermost, raise, scopes]
    rw [left, Scope.strokes_raise]

theorem popped_raise (stands : frame.Stands above) :
    (frame.raise n).popped = frame.popped.raise n := by
  cases scopes : frame.scopes with
  | nil => simp [popped, raise, scopes]
  | cons scope outer =>
    have left := Nat.sub_add_comm (stands.levels_le scopes) (m := n)
    simp only [popped, raise, scopes, popTo, left]

theorem popped (stands : frame.Stands above) : frame.popped.Stands above := by
  cases scopes : frame.scopes with
  | nil =>
    rw [Frame.popped, scopes]
    exact stands
  | cons scope outer =>
    rw [Frame.popped, scopes]
    exact (adjusts_released scopes).stands stands

end Stands

end Frame

/-- The course on a raised frame is the raised course. Its emitter stands as it
stood. -/
structure Course.Rises (n above : Nat) (course raised : Course ε) : Prop where
  stands : course.frame.Stands above
  eq : raised = course.raise n

namespace Course.Rises

variable {course raised other otherRaised : Course ε} {strokes : Frame → List Stroke}
  {f : Frame → Frame} {next : Frame → Course ε} {frame : Frame} {above : Nat}

theorem stop (stands : frame.Stands above) (ending : Ending ε) :
    Rises n above ⟨ending, [], frame⟩ ⟨ending, [], frame.raise n⟩ :=
  ⟨stands, rfl⟩

theorem behind (rises : course.Rises n above raised) (strokes : List Stroke) :
    (course.behind strokes).Rises n above (raised.behind (strokes.map (Stroke.raise n))) := by
  refine ⟨rises.stands, ?_⟩
  simp only [rises.eq, Course.behind, raise, List.map_append]

theorem leave (rises : course.Rises n above raised)
    (drawn : ∀ {frame : Frame}, frame.Stands above →
      strokes (frame.raise n) = (strokes frame).map (Stroke.raise n))
    (left : ∀ {frame : Frame}, frame.Stands above →
      (f frame).Stands above ∧ f (frame.raise n) = (f frame).raise n) :
    (course.leave strokes f).Rises n above (raised.leave strokes f) := by
  obtain ⟨stands, rfl⟩ := rises
  by_cases aborted : course.ending = .aborted
  · have aborted' : (course.raise n).ending = .aborted := aborted
    rw [leave_of_aborted aborted, leave_of_aborted aborted']
    exact ⟨stands, rfl⟩
  · have continued : (course.raise n).ending ≠ .aborted := aborted
    rw [leave_of_continued aborted, leave_of_continued continued]
    refine ⟨(left stands).1, ?_⟩
    simp only [raise, drawn stands, (left stands).2, List.map_append]

theorem andThen (rises : course.Rises n above raised)
    (later : ∀ {frame : Frame}, frame.Stands above →
      (next frame).Rises n above (next (frame.raise n))) :
    (course.andThen next).Rises n above (raised.andThen next) := by
  obtain ⟨stands, rfl⟩ := rises
  by_cases done : course.ending = .done
  · have done' : (course.raise n).ending = .done := done
    rw [andThen_of_done done, andThen_of_done done']
    exact (later stands).behind course.strokes
  · have stopped : (course.raise n).ending ≠ .done := done
    rw [andThen_of_stopped done, andThen_of_stopped stopped]
    exact ⟨stands, rfl⟩

theorem ite {p : Prop} [Decidable p] (yes : course.Rises n above raised)
    (no : other.Rises n above otherRaised) :
    Rises n above (if p then course else other) (if p then raised else otherRaised) := by
  split
  · exact yes
  · exact no

theorem release (rises : course.Rises n above raised) :
    (course.leave Frame.innermost Frame.popped).Rises n above
      (raised.leave Frame.innermost Frame.popped) :=
  rises.leave (fun stands => stands.innermost_raise) fun stands =>
    ⟨stands.popped, stands.popped_raise⟩

theorem close (rises : course.Rises n above raised) :
    (course.leave Frame.closings Frame.shut).Rises n above
      (raised.leave Frame.closings Frame.shut) :=
  rises.leave (fun stands => stands.closings_raise) fun stands =>
    ⟨(Frame.steady_shut _).stands stands, stands.shut_raise⟩

/-- A child hands over to its parent. -/
theorem toParent {level : Nat} (rises : course.Rises n level raised) (stands : frame.Stands above) :
    Rises n above { course with frame } { raised with frame := frame.raise n } :=
  ⟨stands, by rw [rises.eq]; rfl⟩

end Course.Rises

/-- **A script on a raised frame takes the raised course.** -/
theorem Script.play_rises (script : Script ε) {frame : Frame} {above : Nat}
    (stands : frame.Stands above) :
    (script.play frame).Rises n above (script.play (frame.raise n)) := by
  induction script generalizing frame above with
  | done => exact .stop stands _
  | fail cause => exact .stop stands _
  | write text rest ih =>
    exact .ite (.stop stands _) ((ih ((Frame.adjusts_settled _).stands stands)).behind _)
  | line text rest ih =>
    exact .ite (.stop stands _) ((ih ((Frame.adjusts_settled _).stands stands)).behind _)
  | scope s body rest ihBody ihRest =>
    have inner := ihBody ((Frame.adjusts_opened _ s).stands stands)
    refine .ite (.stop stands _) (.ite (.stop stands _) ?_)
    rw [Frame.opened_raise]
    exact inner.release.andThen ihRest
  | block s body rest ihBody ihRest =>
    have inner := ihBody ((Frame.adjusts_opened _ s).stands stands)
    refine .ite (.stop stands _) ?_
    rw [Frame.opened_raise]
    exact inner.release.andThen ihRest
  | child levels body rest ihBody ihRest =>
    have inner := ihBody (frame.stands_offspring levels)
    have deeper : (frame.raise n).level = frame.level + n := rfl
    refine .ite (.stop stands _) (.ite (.stop stands _) ?_)
    rw [Frame.offspring_eq_raise deeper]
    exact (inner.close.toParent stands).andThen ihRest
  | writer body rest ihBody ihRest => exact .ite (.stop stands _) ((ihBody stands).andThen ihRest)
  | reset rest ih =>
    have later := ih ((Frame.adjusts_takeBack _).stands stands)
    rw [← stands.takeBack_raise] at later
    exact .ite (.stop stands _) later
  | close rest ih =>
    have later := (ih ((Frame.steady_shut _).stands stands)).behind frame.closings
    rw [← stands.shut_raise, ← stands.closings_raise] at later
    exact later

/-! ### Scripts that keep their place -/

/-- Whether a script neither closes nor resets the emitter that it runs on. Its
children may do both. -/
def Script.KeepsPlace : Script ε → Prop
  | .done | .fail _ => True
  | .write _ rest | .line _ rest | .child _ _ rest => rest.KeepsPlace
  | .scope _ body rest | .block _ body rest | .writer body rest =>
    body.KeepsPlace ∧ rest.KeepsPlace
  | .reset _ | .close _ => False

namespace Frame

variable (frame : Frame) (scope : Scope) (fresh : Bool)

theorem innermost_opened :
    { frame.opened scope with fresh }.innermost = scope.strokes frame.level := by
  simp [innermost, opened]

theorem popped_opened : { frame.opened scope with fresh }.popped = { frame with fresh } := by
  simp [popped, opened, popTo]

end Frame

/-- Unless it is aborted, the course ends at the frame that is given, but something
may have been written since. -/
def Course.Returns (course : Course ε) (frame : Frame) : Prop :=
  course.ending ≠ .aborted → ∃ fresh, course.frame = { frame with fresh }

namespace Course.Returns

variable {course : Course ε} {frame : Frame}

theorem stop (ending : Ending ε) (frame : Frame) : Course.Returns ⟨ending, [], frame⟩ frame :=
  fun _ => ⟨frame.fresh, rfl⟩

/-- Releasing a scope behind its body writes the closing text at the level that the
emitter comes back to. -/
theorem leave_eq {scope : Scope} (returns : course.Returns (frame.opened scope))
    (continued : course.ending ≠ .aborted) :
    ∃ fresh, course.leave Frame.innermost Frame.popped =
      ⟨course.ending, course.strokes ++ scope.strokes frame.level, { frame with fresh }⟩ := by
  obtain ⟨fresh, left⟩ := returns continued
  refine ⟨fresh, ?_⟩
  rw [leave_of_continued continued, left, Frame.innermost_opened, Frame.popped_opened]

theorem release {scope : Scope} (returns : course.Returns (frame.opened scope)) :
    (course.leave Frame.innermost Frame.popped).Returns frame := by
  intro continued
  by_cases aborted : course.ending = .aborted
  · rw [leave_of_aborted aborted] at continued
    exact absurd aborted continued
  · obtain ⟨fresh, released⟩ := returns.leave_eq aborted
    exact ⟨fresh, congrArg Course.frame released⟩

theorem andThen {next : Frame → Course ε} (returns : course.Returns frame)
    (later : ∀ fresh, (next { frame with fresh }).Returns frame) :
    (course.andThen next).Returns frame := by
  by_cases done : course.ending = .done
  · obtain ⟨fresh, left⟩ := returns (by simp [done])
    rw [andThen_of_done done, left]
    exact later fresh
  · rw [andThen_of_stopped done]
    exact returns

end Course.Returns

/-- **A script that keeps its place leaves its emitter where it was**, also when it
ends early. -/
theorem Script.KeepsPlace.returns {script : Script ε} (keeps : script.KeepsPlace) {frame : Frame}
    (opened : frame.closed = false) : (script.play frame).Returns frame := by
  induction script generalizing frame with
  | done => exact .stop _ frame
  | fail cause => exact .stop _ frame
  | write text rest ih =>
    simp only [play, opened, Bool.false_eq_true, if_false]
    exact ih keeps opened
  | line text rest ih =>
    simp only [play, opened, Bool.false_eq_true, if_false]
    exact ih keeps opened
  | scope s body rest ihBody ihRest =>
    have inner : (body.play (frame.opened s)).Returns (frame.opened s) := ihBody keeps.1 opened
    simp only [play, opened, Bool.false_eq_true, if_false]
    split
    · exact .stop _ frame
    · exact inner.release.andThen fun _ => ihRest keeps.2 opened
  | block s body rest ihBody ihRest =>
    have inner : (body.play (frame.opened s)).Returns (frame.opened s) := ihBody keeps.1 opened
    simp only [play, opened, Bool.false_eq_true, if_false]
    exact inner.release.andThen fun _ => ihRest keeps.2 opened
  | child levels body rest _ ihRest =>
    simp only [play, opened, Bool.false_eq_true, if_false]
    split
    · exact .stop _ frame
    · exact Course.Returns.andThen (fun _ => ⟨frame.fresh, rfl⟩) fun _ => ihRest keeps opened
  | writer body rest ihBody ihRest =>
    simp only [play, opened, Bool.false_eq_true, if_false]
    exact (ihBody keeps.1 opened).andThen fun _ => ihRest keeps.2 opened
  | reset rest _ => exact keeps.elim
  | close rest _ => exact keeps.elim

/-- The other course ends in the same way and draws the same strokes, deeper. -/
structure Course.Shifts (n : Nat) (course other : Course ε) : Prop where
  ending : other.ending = course.ending
  strokes : other.strokes = course.strokes.map (Stroke.raise n)

namespace Course.Shifts

variable {course course' : Course ε} {frame frame' : Frame}

theorem stop (ending : Ending ε) : Shifts n ⟨ending, [], frame⟩ ⟨ending, [], frame'⟩ :=
  ⟨rfl, rfl⟩

theorem behind (shifts : course.Shifts n course') (strokes : List Stroke) :
    (course.behind strokes).Shifts n (course'.behind (strokes.map (Stroke.raise n))) := by
  refine ⟨shifts.ending, ?_⟩
  simp only [Course.behind, shifts.strokes, List.map_append]

/-- Both release the same scope, at the levels that they have come back to. -/
theorem release {scope : Scope} (shifts : course.Shifts n course')
    (deeper : frame'.level = frame.level + n) (returns : course.Returns (frame.opened scope))
    (returns' : course'.Returns (frame'.opened scope)) :
    (course.leave Frame.innermost Frame.popped).Shifts n
      (course'.leave Frame.innermost Frame.popped) := by
  by_cases aborted : course.ending = .aborted
  · rw [leave_of_aborted aborted, leave_of_aborted (shifts.ending.trans aborted)]
    exact shifts
  · obtain ⟨fresh, released⟩ := returns.leave_eq aborted
    obtain ⟨fresh', released'⟩ := returns'.leave_eq (shifts.ending ▸ aborted)
    rw [released, released']
    refine ⟨shifts.ending, ?_⟩
    rw [shifts.strokes, deeper, Scope.strokes_raise, List.map_append]

theorem andThen {next next' : Frame → Course ε} (shifts : course.Shifts n course')
    (returns : course.Returns frame) (returns' : course'.Returns frame')
    (later : ∀ fresh fresh', (next { frame with fresh }).Shifts n
      (next' { frame' with fresh := fresh' })) :
    (course.andThen next).Shifts n (course'.andThen next') := by
  by_cases done : course.ending = .done
  · have done' : course'.ending = .done := shifts.ending.trans done
    obtain ⟨fresh, left⟩ := returns (by simp [done])
    obtain ⟨fresh', left'⟩ := returns' (by simp [done'])
    rw [andThen_of_done done, andThen_of_done done', left, left', shifts.strokes]
    exact (later fresh fresh').behind course.strokes
  · have stopped : course'.ending ≠ .done := shifts.ending ▸ done
    rw [andThen_of_stopped done, andThen_of_stopped stopped]
    exact shifts

theorem throughScope {scope : Scope} {next : Frame → Course ε} (shifts : course.Shifts n course')
    (deeper : frame'.level = frame.level + n) (returns : course.Returns (frame.opened scope))
    (returns' : course'.Returns (frame'.opened scope))
    (later : ∀ fresh fresh', (next { frame with fresh }).Shifts n
      (next { frame' with fresh := fresh' })) :
    ((course.leave Frame.innermost Frame.popped).andThen next).Shifts n
      ((course'.leave Frame.innermost Frame.popped).andThen next) :=
  (shifts.release deeper returns returns').andThen returns.release returns'.release later

end Course.Shifts

/-- **A script that keeps its place takes the same course some levels deeper**,
whatever scopes the two emitters are in. -/
theorem Script.KeepsPlace.shifts {script : Script ε} (keeps : script.KeepsPlace)
    {frame frame' : Frame} (opened : frame.closed = false) (opened' : frame'.closed = false)
    (deeper : frame'.level = frame.level + n) :
    (script.play frame).Shifts n (script.play frame') := by
  induction script generalizing frame frame' with
  | done => exact .stop _
  | fail cause => exact .stop _
  | write text rest ih =>
    have later : (rest.play frame.settled).Shifts n (rest.play frame'.settled) :=
      ih keeps opened opened' deeper
    simp only [play, opened, opened', deeper, Bool.false_eq_true, if_false]
    exact later.behind [.write frame.level text]
  | line text rest ih =>
    have later : (rest.play frame.settled).Shifts n (rest.play frame'.settled) :=
      ih keeps opened opened' deeper
    simp only [play, opened, opened', deeper, Bool.false_eq_true, if_false]
    exact later.behind [.line frame.level text]
  | scope s body rest ihBody ihRest =>
    have inner : (body.play (frame.opened s)).Shifts n (body.play (frame'.opened s)) :=
      ihBody keeps.1 opened opened' (by simp only [Frame.opened, deeper, Nat.add_right_comm])
    simp only [play, opened, opened', Bool.false_eq_true, if_false]
    split
    · exact .stop _
    · exact inner.throughScope deeper (keeps.1.returns opened) (keeps.1.returns opened') fun _ _ =>
        ihRest keeps.2 opened opened' deeper
  | block s body rest ihBody ihRest =>
    have inner : (body.play (frame.opened s)).Shifts n (body.play (frame'.opened s)) :=
      ihBody keeps.1 opened opened' (by simp only [Frame.opened, deeper, Nat.add_right_comm])
    simp only [play, opened, opened', Bool.false_eq_true, if_false]
    exact inner.throughScope deeper (keeps.1.returns opened) (keeps.1.returns opened') fun _ _ =>
      ihRest keeps.2 opened opened' deeper
  | child levels body rest _ ihRest =>
    -- The body may close and reset the child, so there is no induction hypothesis for
    -- it. But the two children differ in their level only.
    have inner := (body.play_rises (n := n) (frame.stands_offspring levels)).close
    rw [← Frame.offspring_eq_raise deeper] at inner
    simp only [play, opened, opened', Bool.false_eq_true, if_false]
    split
    · exact .stop _
    · refine Course.Shifts.andThen ⟨?_, ?_⟩ (fun _ => ⟨frame.fresh, rfl⟩)
        (fun _ => ⟨frame'.fresh, rfl⟩) fun _ _ => ihRest keeps opened opened' deeper
      · rw [inner.eq]
        rfl
      · rw [inner.eq]
        rfl
  | writer body rest ihBody ihRest =>
    simp only [play, opened, opened', Bool.false_eq_true, if_false]
    exact (ihBody keeps.1 opened opened' deeper).andThen (keeps.1.returns opened)
      (keeps.1.returns opened') fun _ _ => ihRest keeps.2 opened opened' deeper
  | reset rest _ => exact keeps.elim
  | close rest _ => exact keeps.elim

/-! ### Indented text -/

/-- The text with the indentation of some levels in front of each of its lines that
is not empty. -/
def indented (width levels : Nat) (text : String) : String :=
  Line.renderAll width ((Text.segments '\n' text).map (Line.mk levels))

/-- The lines of ink of one level are those of its text. -/
theorem splitOnP_ink (level : Nat) (text : List Char) :
    (text.map (level, ·)).splitOnP (·.2 == '\n') =
      (Text.cutAt '\n' text).map (·.map (level, ·)) := by
  induction text with
  | nil => rfl
  | cons c rest ih =>
    rw [List.map_cons, List.splitOnP_cons_eq_if_modifyHead, ih, Text.cutAt]
    by_cases feed : c = '\n'
    · simp [feed]
    · obtain ⟨piece, pieces, cut⟩ := List.exists_cons_of_ne_nil (Text.cutAt_ne_nil '\n' rest)
      simp [feed, cut]

theorem render_ofInk (width level : Nat) (piece : List Char) :
    (Line.ofInk (piece.map (level, ·))).render width =
      (Line.mk level (String.ofList piece)).render width := by
  cases piece with
  | nil => simp [Line.ofInk, Line.render]
  | cons c rest => simp [Line.ofInk, Function.comp_def]

/-- Indenting a text that starts a line indents its lines. -/
theorem ofList_indentLines (width levels : Nat) (text : List Char) :
    String.ofList (indentLines (List.replicate (levels * width) ' ') true text) =
      indented width levels (String.ofList text) := by
  obtain ⟨first, rest, split, shown⟩ := layOut_eq width true (text.map (levels, ·))
  have lines : (Line.ofInk first).renderFrom width true ::
      (rest.map Line.ofInk).map (Line.render width) =
      ((first :: rest).map Line.ofInk).map (Line.render width) := rfl
  rw [← layOut_text, shown, lines, ← split, splitOnP_ink, indented, Line.renderAll, Text.segments,
    String.toList_ofList]
  simp [Function.comp_def, render_ofInk]

example : indented 2 2 "a\n\n b\n" = "    a\n\n     b\n" := by decide

theorem indentLines_spaces (pad : List Char) (count : Nat) (text : List Char) :
    indentLines pad false (List.replicate count ' ' ++ text) =
      List.replicate count ' ' ++ indentLines pad false text := by
  induction count with
  | zero => rfl
  | succ count ih => simp [List.replicate_succ, indentLines, ih]

/-- The indentation of a line goes behind what is put in front of the line. -/
theorem indentLines_indentation (pad : List Char) (count : Nat) {c : Char} (inked : c ≠ '\n')
    (rest : List Char) :
    indentLines pad true (List.replicate count ' ' ++ c :: rest) =
      pad ++ (List.replicate count ' ' ++ c :: indentLines pad false rest) := by
  cases count with
  | zero => simp [indentLines, inked]
  | succ count => simp [List.replicate_succ, indentLines, indentLines_spaces, inked]

/-- Raised ink is laid out as the ink is, and then indented. -/
theorem layOut_raise (width : Nat) (atStart : Bool) (ink : List (Nat × Char)) :
    layOut width atStart (ink.map fun mark => (mark.1 + n, mark.2)) =
      indentLines (List.replicate (n * width) ' ') atStart (layOut width atStart ink) := by
  induction ink generalizing atStart with
  | nil => rfl
  | cons mark ink ih =>
    obtain ⟨level, c⟩ := mark
    by_cases feed : c = '\n'
    · simp [layOut, indentLines, feed, ih]
    · cases atStart with
      | false => simp [layOut, indentLines, feed, ih]
      | true =>
        have spaces : List.replicate (width * (level + n)) ' ' =
            List.replicate (n * width) ' ' ++ List.replicate (width * level) ' ' := by
          rw [List.replicate_append_replicate, Nat.mul_add, Nat.mul_comm n, Nat.add_comm]
        simp only [List.map_cons, layOut, feed, if_false, if_true, ih, spaces,
          indentLines_indentation _ _ feed, List.append_assoc]

theorem Stroke.ink_raise (strokes : List Stroke) :
    ink (strokes.map (raise n)) = (ink strokes).map fun mark => (mark.1 + n, mark.2) := by
  simp [ink, raise, List.flatMap_map, List.map_flatMap, Function.comp_def]

/-- **Raised strokes show the same lines, deeper.** -/
theorem Page.text_draw_raise {page : Page} (start : page.atLineStart = true) (n : Nat)
    (strokes : List Stroke) :
    ∃ added, (page.draw strokes).text = page.text ++ added ∧
      (page.draw (strokes.map (Stroke.raise n))).text =
        page.text ++ indented page.width n added := by
  refine ⟨_, by rw [draw_eq], ?_⟩
  rw [draw_eq, Stroke.ink_raise, layOut_raise, start, ofList_indentLines]

/-! ### Nested scripts -/

theorem Course.andThen_done (course : Course ε) : course.andThen Script.done.play = course := by
  by_cases done : course.ending = .done
  · rw [andThen_of_done done, behind, Script.play, List.append_nil, ← done]
  · exact andThen_of_stopped done

/-- A scope that has no closing text adds nothing to what its body draws. -/
theorem Script.KeepsPlace.shifts_scope {script : Script ε} (keeps : script.KeepsPlace)
    {frame : Frame} (opened : frame.closed = false) (positive : n ≠ 0) :
    (script.play frame).Shifts n ((Script.scope ⟨n, none, false⟩ script .done).play frame) := by
  have inner : (script.play frame).Shifts n (script.play (frame.opened ⟨n, none, false⟩)) :=
    keeps.shifts opened opened rfl
  have returns : (script.play (frame.opened ⟨n, none, false⟩)).Returns
      (frame.opened ⟨n, none, false⟩) := keeps.returns opened
  rw [play, if_neg positive, opened, if_neg Bool.false_ne_true, Course.andThen_done]
  by_cases aborted : (script.play (frame.opened ⟨n, none, false⟩)).ending = .aborted
  · rw [Course.leave_of_aborted aborted]
    exact inner
  · obtain ⟨fresh, released⟩ := returns.leave_eq aborted
    rw [released]
    exact ⟨inner.ending, by rw [← inner.strokes]; exact List.append_nil _⟩

namespace Family

theorem width_replay (width : Nat) (acts : List Act) :
    ((root width).replay acts).page.width = width := by
  rw [(chained_root width).page_replay, Page.draw_eq]
  rfl

/-- **A script in a scope writes what it writes outside, indented.** After any acts,
let an open emitter without a child stand at the start of a line, and let a script
neither close nor reset it. In a scope that adds levels and has no closing text the
script ends as it does outside, be it well or not, and adds the same text, with the
spaces of these levels in front of each line that is not empty. -/
theorem replay_nested (width : Nat) (acts : List Act) (i : FrameId) (n : Nat) (script : Script ε)
    (opened : ((root width).replay acts).isClosed i = false)
    (childless : (((root width).replay acts).frame i).child = none)
    (start : ((root width).replay acts).page.atLineStart = true)
    (positive : 0 < n) (keeps : script.KeepsPlace) :
    let family := (root width).replay acts
    let nested := (Script.scope ⟨n, none, false⟩ script .done).run i family
    let direct := script.run i family
    nested.ending = direct.ending ∧
      ∃ added, direct.family.page.text = family.page.text ++ added ∧
        nested.family.page.text = family.page.text ++ indented width n added := by
  intro family nested direct
  obtain ⟨chain, chained⟩ := (chained_root width).replay acts
  obtain ⟨outer, below, rfl⟩ := List.append_of_mem (chained.open_iff_mem.mp opened)
  obtain rfl := chained.below_eq_nil childless
  have trails : family.Trails outer i := .inl chained
  have shifts : (script.play (family.frame i).alone).Shifts n
      ((Script.scope ⟨n, none, false⟩ script .done).play (family.frame i).alone) :=
    keeps.shifts_scope opened positive.ne'
  have takes := script.run_takes trails
  have takes' := (Script.scope ⟨n, none, false⟩ script .done).run_takes trails
  obtain ⟨added, text, text'⟩ :=
    Page.text_draw_raise start n (script.play (family.frame i).alone).strokes
  refine ⟨?_, added, ?_, ?_⟩
  · exact takes'.ending.trans (shifts.ending.trans takes.ending.symm)
  · rw [← text, ← takes.page]
  · rw [takes'.page, shifts.strokes, text', width_replay]

/-- A script that writes several lines, has a child that is reset and closed, and
fails in a block, three levels deeper in a block of the root. -/
theorem replay_nested_failing :
    let family := (root 2).replay [.openBlock 0 (.indentWith "\x7d" true), .line 0 "x"]
    let script : Script Unit := .line "a\n\nb" (.child 1 (.reset (.write "c" (.close .done)))
      (.block (.indentWith ")" true) (.line "d" (.fail ())) .done))
    let nested := (Script.scope ⟨3, none, false⟩ script .done).run 0 family
    let direct := script.run 0 family
    family.isClosed 0 = false ∧ (family.frame 0).child = none ∧ family.page.atLineStart = true ∧
      script.KeepsPlace ∧ direct.ending = .failed () ∧ nested.ending = direct.ending ∧
      ∃ added, direct.family.page.text = family.page.text ++ added ∧
        nested.family.page.text = family.page.text ++ indented 2 3 added := by
  refine ⟨by decide, by decide, by decide, ⟨trivial, trivial⟩, by decide, ?_⟩
  exact replay_nested 2 _ 0 3 _ (by decide) (by decide) (by decide) (by decide) ⟨trivial, trivial⟩

end Family

end Bindery.Layout
