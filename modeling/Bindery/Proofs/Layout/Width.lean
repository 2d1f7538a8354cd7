/-
The width of a level.

How many spaces a level has shows in the text of the page and nowhere else. No
emitter ever looks at its page, so two families with the same frames behave
alike on different pages: they answer alike, they have the same frames after
each act, and they draw the same strokes. The main statements are

* `Family.frames_act` and `Family.strokes_congr`, for one act;
* `Script.run_alike`, for a script: it ends alike and performs the same acts;
* `Session.Alike.step`, for one operation of a session;
* `Session.perform_layout`, the layout of the page of a session.
-/

import Bindery.Proofs.Layout.Lines
import Mathlib.Data.List.Induction

namespace Bindery.Layout

variable {ε : Type}

/-! ### Families with the same frames -/

namespace Family

variable {family other : Family}

theorem frame_congr (same : family.frames = other.frames) (i : FrameId) :
    family.frame i = other.frame i := by
  rw [frame, frame, same]

theorem isClosed_congr (same : family.frames = other.frames) (i : FrameId) :
    family.isClosed i = other.isClosed i :=
  congrArg Frame.closed (frame_congr same i)

theorem frames_modify (same : family.frames = other.frames) (i : FrameId) (f : Frame → Frame) :
    (family.modify i f).frames = (other.modify i f).frames :=
  congrArg (·.modify i f) same

theorem frames_shut (same : family.frames = other.frames) (i : FrameId) :
    (family.shut i).frames = (other.shut i).frames := by
  simp only [shut, modify, Page.releaseAll_level, frame_congr same i, same]

theorem frames_closeChain (same : family.frames = other.frames) (fuel : Nat) (i : FrameId) :
    (closeChain fuel i family).frames = (closeChain fuel i other).frames := by
  induction fuel generalizing family other i with
  | zero => exact same
  | succ fuel ih =>
    rw [closeChain, closeChain, frame_congr same i]
    cases (other.frame i).child with
    | none => exact frames_shut same i
    | some child => exact frames_shut (ih (frames_modify same i _) child) i

theorem frames_closeChild (same : family.frames = other.frames) (i : FrameId) :
    (family.closeChild i).frames = (other.closeChild i).frames := by
  rw [closeChild, closeChild, frame_congr same i, same]
  cases (other.frame i).child with
  | none => exact same
  | some child => exact frames_closeChain (frames_modify same i _) _ child

theorem frames_detach (same : family.frames = other.frames) (i : FrameId) :
    (family.detach i).frames = (other.detach i).frames := by
  rw [detach, detach, frame_congr same i]
  cases (other.frame i).parent with
  | none => exact same
  | some parent =>
    simp only [frame_congr same parent]
    split
    · exact frames_modify same parent _
    · exact same

theorem frames_close (same : family.frames = other.frames) (i : FrameId) :
    (family.close i).frames = (other.close i).frames := by
  rw [close, close, isClosed_congr same i, same]
  split
  · exact same
  · exact frames_closeChain (frames_detach same i) _ i

theorem frames_release (same : family.frames = other.frames) (i : FrameId) :
    (family.release i).frames = (other.release i).frames := by
  have cut := frames_closeChild same i
  rw [release, release, isClosed_congr same i]
  split
  · exact same
  · simp only [frame_congr cut i]
    split
    · exact cut
    · exact frames_modify cut i _

theorem frames_settle (same : family.frames = other.frames) (i : FrameId) :
    (family.settle i).frames = (other.settle i).frames :=
  frames_modify (frames_closeChild same i) i _

theorem frames_pushScope (same : family.frames = other.frames) (i : FrameId) (scope : Scope) :
    (family.pushScope i scope).frames = (other.pushScope i scope).frames :=
  frames_modify (frames_closeChild same i) i _

/-! ### What an operation answers -/

theorem write_congr (same : family.frames = other.frames) (i : FrameId) (text : String) :
    (family.write i text).map frames = (other.write i text).map frames := by
  rw [write, write, isClosed_congr same i]
  split
  · rfl
  · exact congrArg some (frames_settle same i)

theorem writeLine_congr (same : family.frames = other.frames) (i : FrameId) (text : String) :
    (family.writeLine i text).map frames = (other.writeLine i text).map frames := by
  rw [writeLine, writeLine, isClosed_congr same i]
  split
  · rfl
  · exact congrArg some (frames_settle same i)

theorem lend_congr (same : family.frames = other.frames) (i : FrameId) :
    (family.lend i).map frames = (other.lend i).map frames := by
  rw [lend, lend, isClosed_congr same i]
  split
  · rfl
  · exact congrArg some (frames_closeChild same i)

theorem openBlock_congr (same : family.frames = other.frames) (i : FrameId) (scope : Scope) :
    (family.openBlock i scope).map frames = (other.openBlock i scope).map frames := by
  rw [openBlock, openBlock, isClosed_congr same i]
  split
  · rfl
  · exact congrArg some (frames_pushScope same i scope)

theorem reset_congr (same : family.frames = other.frames) (i : FrameId) :
    (family.reset i).map frames = (other.reset i).map frames := by
  rw [reset, reset, isClosed_congr same i]
  split
  · rfl
  · exact congrArg some (frames_modify (frames_closeChild same i) i _)

theorem openScope_congr (same : family.frames = other.frames) (i : FrameId) (scope : Scope) :
    (family.openScope i scope).map frames = (other.openScope i scope).map frames := by
  rw [openScope, openScope, isClosed_congr same i]
  split
  · rfl
  · split
    · rfl
    · exact congrArg Except.ok (frames_pushScope same i scope)

theorem newChild_congr (same : family.frames = other.frames) (i : FrameId) (levels : Nat) :
    (family.newChild i levels).map (Prod.map id frames) =
      (other.newChild i levels).map (Prod.map id frames) := by
  simp only [newChild, isClosed_congr same i, frame_congr same i, modify, same]
  split
  · rfl
  · split
    · rfl
    · split <;> rfl

/-- Of two answers that are alike, both or none have a result. -/
theorem answers_alike {answer answer' : Option Family}
    (alike : answer.map frames = answer'.map frames) :
    answer = none ∧ answer' = none ∨
      ∃ after after', answer = some after ∧ answer' = some after' ∧
        after.frames = after'.frames := by
  cases answer with
  | none =>
    refine .inl ⟨rfl, ?_⟩
    simpa [eq_comm] using alike
  | some after =>
    obtain ⟨after', answered, same⟩ := Option.map_eq_some_iff.mp alike.symm
    exact .inr ⟨after, after', rfl, answered, same.symm⟩

/-- Of two attempts that are alike, both succeed or both are refused for the same
reason. -/
theorem attempts_alike {α β : Type} {view : α → β} {attempt attempt' : Except Refusal α}
    (alike : attempt.map view = attempt'.map view) :
    (∃ reason, attempt = .error reason ∧ attempt' = .error reason) ∨
      ∃ result result', attempt = .ok result ∧ attempt' = .ok result' ∧
        view result = view result' := by
  cases attempt <;> cases attempt' <;> simp_all [Except.map]

/-- **An act leaves the same frames, whatever is on the page.** -/
theorem frames_act (same : family.frames = other.frames) (act : Act) :
    (family.act act).frames = (other.act act).frames := by
  have answered : ∀ {answer answer' : Option Family},
      answer.map frames = answer'.map frames →
        (answer.getD family).frames = (answer'.getD other).frames := by
    intro answer answer' alike
    obtain ⟨rfl, rfl⟩ | ⟨after, after', rfl, rfl, same'⟩ := answers_alike alike
    · exact same
    · exact same'
  cases act with
  | write i text => exact answered (write_congr same i text)
  | line i text => exact answered (writeLine_congr same i text)
  | lend i => exact answered (lend_congr same i)
  | output i => exact frames_closeChild same i
  | openScope i scope =>
    obtain ⟨reason, left, right⟩ | ⟨after, after', left, right, same'⟩ :=
      attempts_alike (openScope_congr same i scope)
    · simpa [act, left, right] using same
    · simpa [act, left, right] using same'
  | openBlock i scope => exact answered (openBlock_congr same i scope)
  | release i => exact frames_release same i
  | newChild i levels =>
    obtain ⟨reason, left, right⟩ | ⟨after, after', left, right, same'⟩ :=
      attempts_alike (newChild_congr same i levels)
    · simpa [act, left, right] using same
    · simpa [act, left, right] using congrArg Prod.snd same'
  | reset i => exact answered (reset_congr same i)
  | close i => exact frames_close same i

/-! ### The strokes of an act -/

theorem descent_congr (same : family.frames = other.frames) (fuel : Nat) (i : FrameId) :
    family.descent fuel i = other.descent fuel i := by
  induction fuel generalizing i with
  | zero => rfl
  | succ fuel ih =>
    rw [descent, descent, frame_congr same i]
    cases (other.frame i).child with
    | none => rfl
    | some child => exact congrArg (i :: ·) (ih child)

theorem strokesBy_congr (same : family.frames = other.frames) (i : FrameId)
    (own : List Stroke) : family.strokesBy i own = other.strokesBy i own := by
  have below : family.below i = other.below i := by
    simp only [Family.below, frame_congr same i, descent_congr same, same]
  rw [strokesBy, strokesBy, isClosed_congr same i, below,
    closings_congr fun j _ => (frame_congr same j).symm]

/-- **An act draws the same strokes, whatever is on the page.** -/
theorem strokes_congr (same : family.frames = other.frames) (act : Act) :
    family.strokes act = other.strokes act := by
  cases act <;> simp only [strokes, strokesBy_congr same, frame_congr same]

theorem strokesAlong_congr (same : family.frames = other.frames) (acts : List Act) :
    family.strokesAlong acts = other.strokesAlong acts := by
  induction acts generalizing family other with
  | nil => rfl
  | cons act acts ih =>
    rw [strokesAlong, strokesAlong, strokes_congr same, ih (frames_act same act)]

end Family

/-! ### Scripts -/

/-- Two runs that end alike and leave the same frames. -/
structure Run.Alike (run other : Run ε) : Prop where
  ending : run.ending = other.ending
  frames : run.family.frames = other.family.frames

namespace Run.Alike

variable {run other : Run ε}

theorem leave (alike : run.Alike other) (act : Act) :
    (run.leave (·.act act)).Alike (other.leave (·.act act)) := by
  obtain ⟨ending, family⟩ := run
  obtain ⟨ending', family'⟩ := other
  obtain ⟨rfl, frames⟩ := alike
  cases ending with
  | aborted => exact ⟨rfl, frames⟩
  | done => exact ⟨rfl, Family.frames_act frames act⟩
  | refused reason => exact ⟨rfl, Family.frames_act frames act⟩
  | failed cause => exact ⟨rfl, Family.frames_act frames act⟩

/-- Runs that go on alike are alike and perform the same acts. -/
theorem onward (alike : run.Alike other) {next : Family → Run ε} {acts : Family → List Act}
    (follows : ∀ {family other : Family}, family.frames = other.frames →
      (next family).Alike (next other) ∧ acts family = acts other) :
    (run.andThen next).Alike (other.andThen next) ∧ run.actsThen acts = other.actsThen acts := by
  obtain ⟨ending, family⟩ := run
  obtain ⟨ending', family'⟩ := other
  obtain ⟨rfl, frames⟩ := alike
  cases ending with
  | done => exact follows frames
  | refused reason => exact ⟨⟨rfl, frames⟩, rfl⟩
  | failed cause => exact ⟨⟨rfl, frames⟩, rfl⟩
  | aborted => exact ⟨⟨rfl, frames⟩, rfl⟩

/-- Blocks with the same body clean up and go on alike. -/
theorem block (alike : run.Alike other) {body body' : List Act} (sameBody : body = body')
    (act : Act) {next : Family → Run ε} {acts : Family → List Act}
    (follows : ∀ {family other : Family}, family.frames = other.frames →
      (next family).Alike (next other) ∧ acts family = acts other) :
    ((run.leave (·.act act)).andThen next).Alike ((other.leave (·.act act)).andThen next) ∧
      body ++ run.ending.cleanUp act ++ (run.leave (·.act act)).actsThen acts =
        body' ++ other.ending.cleanUp act ++ (other.leave (·.act act)).actsThen acts := by
  obtain ⟨outer, outerActs⟩ := (alike.leave act).onward follows
  exact ⟨outer, by rw [sameBody, alike.ending, outerActs]⟩

end Run.Alike

/-- **A script ends alike and performs the same acts, whatever is on the page.** -/
theorem Script.run_alike (script : Script ε) {family other : Family}
    (same : family.frames = other.frames) (i : FrameId) :
    (script.run i family).Alike (script.run i other) ∧
      script.acts i family = script.acts i other := by
  induction script generalizing family other i with
  | done => exact ⟨⟨rfl, same⟩, rfl⟩
  | fail cause => exact ⟨⟨rfl, same⟩, rfl⟩
  | write text rest ih =>
    obtain ⟨left, right⟩ | ⟨after, after', left, right, same'⟩ :=
      Family.answers_alike (Family.write_congr same i text)
    · rw [run, run, acts, acts, left, right]
      exact ⟨⟨rfl, same⟩, rfl⟩
    · rw [run, run, acts, acts, left, right]
      exact (ih same' i).imp_right (congrArg (List.cons _))
  | line text rest ih =>
    obtain ⟨left, right⟩ | ⟨after, after', left, right, same'⟩ :=
      Family.answers_alike (Family.writeLine_congr same i text)
    · rw [run, run, acts, acts, left, right]
      exact ⟨⟨rfl, same⟩, rfl⟩
    · rw [run, run, acts, acts, left, right]
      exact (ih same' i).imp_right (congrArg (List.cons _))
  | scope s body rest ihBody ihRest =>
    obtain ⟨reason, left, right⟩ | ⟨after, after', left, right, same'⟩ :=
      Family.attempts_alike (Family.openScope_congr same i s)
    · rw [run, run, acts, acts, left, right]
      exact ⟨⟨rfl, same⟩, rfl⟩
    · rw [run, run, acts, acts, left, right]
      obtain ⟨inner, sameBody⟩ := ihBody same' i
      have block := inner.block sameBody (.release i) fun same => ihRest same i
      exact block.imp_right (congrArg (List.cons _))
  | block s body rest ihBody ihRest =>
    obtain ⟨left, right⟩ | ⟨after, after', left, right, same'⟩ :=
      Family.answers_alike (Family.openBlock_congr same i s)
    · rw [run, run, acts, acts, left, right]
      exact ⟨⟨rfl, same⟩, rfl⟩
    · rw [run, run, acts, acts, left, right]
      obtain ⟨inner, sameBody⟩ := ihBody same' i
      have block := inner.block sameBody (.release i) fun same => ihRest same i
      exact block.imp_right (congrArg (List.cons _))
  | child levels body rest ihBody ihRest =>
    obtain ⟨reason, left, right⟩ | ⟨⟨j, after⟩, ⟨j', after'⟩, left, right, agree⟩ :=
      Family.attempts_alike (Family.newChild_congr same i levels)
    · rw [run, run, acts, acts, left, right]
      exact ⟨⟨rfl, same⟩, rfl⟩
    · rw [run, run, acts, acts, left, right]
      obtain ⟨rfl, same'⟩ := Prod.mk.inj agree
      obtain ⟨inner, sameBody⟩ := ihBody same' j
      have block := inner.block sameBody (.close j) fun same => ihRest same i
      exact block.imp_right (congrArg (List.cons _))
  | writer body rest ihBody ihRest =>
    obtain ⟨left, right⟩ | ⟨after, after', left, right, same'⟩ :=
      Family.answers_alike (Family.lend_congr same i)
    · rw [run, run, acts, acts, left, right]
      exact ⟨⟨rfl, same⟩, rfl⟩
    · rw [run, run, acts, acts, left, right]
      obtain ⟨inner, sameBody⟩ := ihBody same' i
      obtain ⟨outer, outerActs⟩ := inner.onward fun same => ihRest same i
      exact ⟨outer, by simp only [sameBody, outerActs]⟩
  | reset rest ih =>
    obtain ⟨left, right⟩ | ⟨after, after', left, right, same'⟩ :=
      Family.answers_alike (Family.reset_congr same i)
    · rw [run, run, acts, acts, left, right]
      exact ⟨⟨rfl, same⟩, rfl⟩
    · rw [run, run, acts, acts, left, right]
      exact (ih same' i).imp_right (congrArg (List.cons _))
  | close rest ih =>
    exact (ih (Family.frames_close same i) i).imp_right (congrArg (List.cons _))

/-! ### Sessions -/

/-- The reply with another text, if it is one. -/
def Reply.withText (text : String) : Reply ε → Reply ε
  | .text _ => .text text
  | reply => reply

namespace Session

/-- The replies to operations, one after the other. -/
def replies (session : Session) : List (Op ε) → List (Reply ε)
  | [] => []
  | op :: ops => (session.step op).1 :: (session.step op).2.replies ops

theorem perform_append (session : Session) (first second : List (Op ε)) :
    session.perform (first ++ second) = (session.perform first).perform second := by
  induction first generalizing session with
  | nil => rfl
  | cons op ops ih => exact ih _

theorem replies_append (session : Session) (first second : List (Op ε)) :
    session.replies (first ++ second) =
      session.replies first ++ (session.perform first).replies second := by
  induction first generalizing session with
  | nil => rfl
  | cons op ops ih => exact congrArg (List.cons _) (ih _)

/-- Two sessions that have the same frames and the same handles. -/
structure Alike (session other : Session) : Prop where
  frames : session.family.frames = other.family.frames
  emitters : session.emitters = other.emitters
  guards : session.guards = other.guards

/-- Two steps that lead to sessions alike, with replies that differ in their text
only. -/
structure Concur (first second : Reply ε × Session) : Prop where
  session : first.2.Alike second.2
  reply : ∀ text, first.1.withText text = second.1.withText text

namespace Alike

variable {session other : Session}

theorem onEmitter (alike : session.Alike other) {handle : Nat}
    {f g : FrameId → Reply ε × Session} (each : ∀ i, Concur (f i) (g i)) :
    Concur (session.onEmitter handle f) (other.onEmitter handle g) := by
  rw [Session.onEmitter, Session.onEmitter, alike.emitters]
  cases other.emitters.getD handle none with
  | none => exact ⟨alike, fun _ => rfl⟩
  | some i => exact each i

theorem onGuard (alike : session.Alike other) {handle : Nat}
    {f g : FrameId → Reply ε × Session} (each : ∀ i, Concur (f i) (g i)) :
    Concur (session.onGuard handle f) (other.onGuard handle g) := by
  rw [Session.onGuard, Session.onGuard, alike.guards]
  cases other.guards.getD handle none with
  | none => exact ⟨alike, fun _ => rfl⟩
  | some i => exact each i

theorem settle (alike : session.Alike other) {answer answer' : Option Family}
    (answers : answer.map Family.frames = answer'.map Family.frames) :
    Concur (ε := ε) (session.settle answer) (other.settle answer') := by
  obtain ⟨rfl, rfl⟩ | ⟨after, after', rfl, rfl, same⟩ := Family.answers_alike answers
  · exact ⟨alike, fun _ => rfl⟩
  · exact ⟨⟨same, alike.emitters, alike.guards⟩, fun _ => rfl⟩

theorem giveGuard (alike : session.Alike other) (i : FrameId) {after after' : Family}
    (same : after.frames = after'.frames) :
    Concur (ε := ε) (session.giveGuard i after) (other.giveGuard i after') := by
  refine ⟨⟨same, alike.emitters, congrArg (·.push (some i)) alike.guards⟩, fun _ => ?_⟩
  rw [Session.giveGuard, Session.giveGuard, alike.guards]

theorem giveEmitter (alike : session.Alike other) (i : FrameId) {after after' : Family}
    (same : after.frames = after'.frames) :
    Concur (ε := ε) (session.giveEmitter i after) (other.giveEmitter i after') := by
  refine ⟨⟨same, congrArg (·.push (some i)) alike.emitters, alike.guards⟩, fun _ => ?_⟩
  rw [Session.giveEmitter, Session.giveEmitter, alike.emitters]

theorem retire (alike : session.Alike other) (handle : Nat) (i : FrameId) :
    (session.retire handle i).Alike (other.retire handle i) where
  frames := Family.frames_close alike.frames i
  emitters := congrArg (·.setIfInBounds handle none) alike.emitters
  guards := congrArg (·.map fun guard => if guard = some i then none else guard) alike.guards

/-- **Sessions that are alike take the same steps.** -/
theorem step (alike : session.Alike other) (op : Op ε) :
    Concur (session.step op) (other.step op) := by
  have same := alike.frames
  cases op with
  | write e text => exact alike.onEmitter fun i => alike.settle (Family.write_congr same i text)
  | line e text => exact alike.onEmitter fun i => alike.settle (Family.writeLine_congr same i text)
  | writer e script =>
    apply alike.onEmitter
    intro i
    obtain ⟨ending, frames⟩ := ((Script.writer script .done).run_alike same i).1
    exact ⟨⟨frames, alike.emitters, alike.guards⟩, fun text =>
      congrArg (fun ending => ending.reply.withText text) ending⟩
  | openScope e scope =>
    apply alike.onEmitter
    intro i
    obtain ⟨reason, left, right⟩ | ⟨after, after', left, right, same'⟩ :=
      Family.attempts_alike (Family.openScope_congr same i scope)
    · rw [left, right]
      exact ⟨alike, fun _ => rfl⟩
    · rw [left, right]
      exact alike.giveGuard i same'
  | openBlock e scope =>
    apply alike.onEmitter
    intro i
    obtain ⟨left, right⟩ | ⟨after, after', left, right, same'⟩ :=
      Family.answers_alike (Family.openBlock_congr same i scope)
    · rw [left, right]
      exact ⟨alike, fun _ => rfl⟩
    · rw [left, right]
      exact alike.giveGuard i same'
  | newChild e levels =>
    apply alike.onEmitter
    intro i
    obtain ⟨reason, left, right⟩ | ⟨⟨j, after⟩, ⟨j', after'⟩, left, right, agree⟩ :=
      Family.attempts_alike (Family.newChild_congr same i levels)
    · rw [left, right]
      exact ⟨alike, fun _ => rfl⟩
    · rw [left, right]
      obtain ⟨rfl, same'⟩ := Prod.mk.inj agree
      exact alike.giveEmitter j same'
  | reset e => exact alike.onEmitter fun i => alike.settle (Family.reset_congr same i)
  | close e =>
    exact alike.onEmitter fun i =>
      ⟨⟨Family.frames_close same i, alike.emitters, alike.guards⟩, fun _ => rfl⟩
  | output e =>
    exact alike.onEmitter fun i =>
      ⟨⟨Family.frames_closeChild same i, alike.emitters, alike.guards⟩, fun _ => rfl⟩
  | drop e => exact alike.onEmitter fun i => ⟨alike.retire e i, fun _ => rfl⟩
  | finish e => exact alike.onEmitter fun i => ⟨alike.retire e i, fun _ => rfl⟩
  | release g =>
    exact alike.onGuard fun i =>
      ⟨⟨Family.frames_release same i, alike.emitters,
        congrArg (·.setIfInBounds g none) alike.guards⟩, fun _ => rfl⟩
  | forget g =>
    exact alike.onGuard fun i =>
      ⟨⟨same, alike.emitters, congrArg (·.setIfInBounds g none) alike.guards⟩, fun _ => rfl⟩
  | lineThrough g text =>
    exact alike.onGuard fun i => alike.settle (Family.writeLine_congr same i text)

theorem perform (alike : session.Alike other) (ops : List (Op ε)) :
    (session.perform ops).Alike (other.perform ops) := by
  induction ops generalizing session other with
  | nil => exact alike
  | cons op ops ih => exact ih (alike.step op).session

theorem acts_eq (alike : session.Alike other) (op : Op ε) : session.acts op = other.acts op := by
  cases op <;> simp only [acts, alike.emitters, alike.guards]
  rw [funext fun i => ((Script.writer _ .done).run_alike alike.frames i).2]

theorem history_eq (alike : session.Alike other) (ops : List (Op ε)) :
    session.history ops = other.history ops := by
  induction ops generalizing session other with
  | nil => rfl
  | cons op ops ih => rw [history, history, alike.acts_eq, ih (alike.step op).session]

theorem strokes_eq (alike : session.Alike other) (ops : List (Op ε)) :
    session.strokes ops = other.strokes ops := by
  rw [strokes, strokes, alike.history_eq, Family.strokesAlong_congr alike.frames]

end Alike

theorem alike_start (width width' : Nat) : (start width).Alike (start width') :=
  ⟨rfl, rfl, rfl⟩

/-- The reply, if it is a text, is the text of the page. -/
def Quotes (result : Reply ε × Session) : Prop :=
  result.1 = result.1.withText result.2.family.page.text

theorem quotes_onEmitter {session : Session} {handle : Nat} {f : FrameId → Reply ε × Session}
    (each : ∀ i, Quotes (f i)) : Quotes (session.onEmitter handle f) := by
  rw [onEmitter]
  cases session.emitters.getD handle none with
  | none => rfl
  | some i => exact each i

theorem quotes_onGuard {session : Session} {handle : Nat} {f : FrameId → Reply ε × Session}
    (each : ∀ i, Quotes (f i)) : Quotes (session.onGuard handle f) := by
  rw [onGuard]
  cases session.guards.getD handle none with
  | none => rfl
  | some i => exact each i

theorem quotes_settle (session : Session) (answer : Option Family) :
    Quotes (ε := ε) (session.settle answer) := by
  cases answer <;> rfl

theorem quotes_step (session : Session) (op : Op ε) : Quotes (session.step op) := by
  cases op with
  | write e text => exact quotes_onEmitter fun i => session.quotes_settle _
  | line e text => exact quotes_onEmitter fun i => session.quotes_settle _
  | writer e script =>
    apply quotes_onEmitter
    intro i
    show Ending.reply _ = (Ending.reply _).withText _
    cases ((Script.writer script .done).run i session.family).ending <;> rfl
  | openScope e scope =>
    apply quotes_onEmitter
    intro i
    cases session.family.openScope i scope <;> rfl
  | openBlock e scope =>
    apply quotes_onEmitter
    intro i
    cases session.family.openBlock i scope <;> rfl
  | newChild e levels =>
    apply quotes_onEmitter
    intro i
    cases session.family.newChild i levels <;> rfl
  | reset e => exact quotes_onEmitter fun i => session.quotes_settle _
  | close e | output e | drop e | finish e => exact quotes_onEmitter fun i => rfl
  | release g | forget g => exact quotes_onGuard fun i => rfl
  | lineThrough g text => exact quotes_onGuard fun i => session.quotes_settle _

/-- The page of a session, whatever the width of its levels. -/
theorem text_perform (width width' : Nat) (ops : List (Op ε)) :
    ((start width).perform ops).family.page.text =
      Line.renderAll width (Line.ofStrokes ((start width').strokes ops)) := by
  rw [page_perform, Page.text_draw, (alike_start width width').strokes_eq]

/-- The replies of a session are the same for every width, texts apart, and these
are lines that are the same for every width. -/
theorem exists_replies_eq (ops : List (Op ε)) :
    ∃ notes : List (Reply ε × List Line), ∀ width,
      (start width).replies ops =
        notes.map fun (reply, lines) => reply.withText (Line.renderAll width lines) := by
  induction ops using List.reverseRecOn with
  | nil => exact ⟨[], fun _ => rfl⟩
  | append_singleton ops op ih =>
    obtain ⟨notes, earlier⟩ := ih
    let last := ((start 0).perform ops).step op
    refine ⟨notes ++ [(last.1, Line.ofStrokes ((start 0).strokes (ops ++ [op])))], fun width => ?_⟩
    have alike := (alike_start width 0).perform ops
    have page : (((start width).perform ops).step op).2 = (start width).perform (ops ++ [op]) :=
      (perform_append _ ops [op]).symm
    have reply : (((start width).perform ops).step op).1 = last.1.withText
        (Line.renderAll width (Line.ofStrokes ((start 0).strokes (ops ++ [op])))) := by
      rw [← (alike.step op).reply, ← text_perform, ← page]
      exact quotes_step _ op
    rw [replies_append, earlier, List.map_append]
    exact congrArg (fun reply => notes.map _ ++ [reply]) reply

/-- **The layout of the page of a session.** The operations write lines that do not
depend on the width of a level and have no line end inside. Whatever the width,
the page shows these lines one below the other; each is indented by the level at
which its first character was written, unless it is blank. If levels have no
width, the page is what was written, one text after the other. The frames and the
handles are the same for every width, and so are the replies, of which those that
are texts show lines of their own. -/
theorem perform_layout (ops : List (Op ε)) :
    let strokes := (start 0).strokes ops
    let lines := Line.ofStrokes strokes
    (∀ line ∈ lines, '\r' ∉ line.text.toList ∧ '\n' ∉ line.text.toList) ∧
    (∀ width,
      let session := (start width).perform ops
      session.family.page.text = Line.renderAll width lines ∧
      (start width).strokes ops = strokes ∧
      session.Alike ((start 0).perform ops)) ∧
    ((start 0).perform ops).family.page.text = String.ofList (strokes.flatMap Stroke.text) ∧
    ∃ notes : List (Reply ε × List Line), ∀ width,
      (start width).replies ops =
        notes.map fun (reply, lines) => reply.withText (Line.renderAll width lines) := by
  intro strokes lines
  refine ⟨fun line mem => Line.unbroken_of_mem_ofStrokes mem, fun width => ⟨?_, ?_, ?_⟩, ?_,
    exists_replies_eq ops⟩
  · exact text_perform width 0 ops
  · exact (alike_start width 0).strokes_eq ops
  · exact (alike_start width 0).perform ops
  · rw [page_perform]
    exact Page.text_draw_flush fun stroke _ => Nat.zero_mul stroke.level

end Session

end Bindery.Layout
