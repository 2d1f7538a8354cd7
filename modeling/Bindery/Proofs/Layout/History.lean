/-
The history of a session.

Whatever a session does to its emitters, it does by acts: operations that are
performed on one emitter each, also by scripts and through guards. An act that
is refused, or has no answer, changes nothing. The main statements are

* `Script.run_family`, that a script leaves the emitters that its acts leave;
* `Session.perform_family`, that the emitters of a session are those that the
  acts of its operations leave.

What every act preserves then holds in every state that a session can reach. A
writer that is not given as a script is `Op.writer` with an empty script,
followed by the operations that it performs.
-/

import Bindery.Layout.Session

namespace Bindery.Layout

/-! ### Acts -/

/-- An operation on the emitter at an address. -/
inductive Act where
  | write (i : FrameId) (text : String)
  | line (i : FrameId) (text : String)
  | lend (i : FrameId)
  | output (i : FrameId)
  | openScope (i : FrameId) (scope : Scope)
  | openBlock (i : FrameId) (scope : Scope)
  | release (i : FrameId)
  | newChild (i : FrameId) (levels : Nat)
  | reset (i : FrameId)
  | close (i : FrameId)

namespace Family

/-- The emitters after an act, which are as before if it is refused or has no
answer. -/
def act (family : Family) : Act → Family
  | .write i text => (family.write i text).getD family
  | .line i text => (family.writeLine i text).getD family
  | .lend i => (family.lend i).getD family
  | .output i => (family.output i).2
  | .openScope i scope =>
    match family.openScope i scope with
    | .error _ => family
    | .ok opened => opened
  | .openBlock i scope => (family.openBlock i scope).getD family
  | .release i => family.release i
  | .newChild i levels =>
    match family.newChild i levels with
    | .error _ => family
    | .ok (_, created) => created
  | .reset i => (family.reset i).getD family
  | .close i => family.close i

/-- The emitters after some acts. -/
def replay (family : Family) (acts : List Act) : Family :=
  acts.foldl act family

theorem replay_append (family : Family) (first second : List Act) :
    family.replay (first ++ second) = (family.replay first).replay second :=
  List.foldl_append

end Family

/-! ### The acts of a script -/

variable {ε : Type}

/-- The act that cleans up behind a block, unless the script was aborted. -/
def Ending.cleanUp : Ending ε → Act → List Act
  | .aborted, _ => []
  | _, act => [act]

/-- The acts behind a block that has ended well. -/
def Run.actsThen (run : Run ε) (next : Family → List Act) : List Act :=
  match run.ending with
  | .done => next run.family
  | _ => []

/-- The acts of a script that runs on an emitter. -/
def Script.acts : Script ε → FrameId → Family → List Act
  | .done, _, _ => []
  | .write text rest, i, family =>
    .write i text :: (family.write i text).elim [] (rest.acts i)
  | .line text rest, i, family =>
    .line i text :: (family.writeLine i text).elim [] (rest.acts i)
  | .scope s body rest, i, family =>
    .openScope i s :: match family.openScope i s with
      | .error _ => []
      | .ok opened =>
        let run := body.run i opened
        body.acts i opened ++ run.ending.cleanUp (.release i) ++
          (run.leave (·.release i)).actsThen (rest.acts i)
  | .block s body rest, i, family =>
    .openBlock i s :: match family.openBlock i s with
      | none => []
      | some opened =>
        let run := body.run i opened
        body.acts i opened ++ run.ending.cleanUp (.release i) ++
          (run.leave (·.release i)).actsThen (rest.acts i)
  | .child levels body rest, i, family =>
    .newChild i levels :: match family.newChild i levels with
      | .error _ => []
      | .ok (j, created) =>
        let run := body.run j created
        body.acts j created ++ run.ending.cleanUp (.close j) ++
          (run.leave (·.close j)).actsThen (rest.acts i)
  | .writer body rest, i, family =>
    .lend i :: match family.lend i with
      | none => []
      | some lent => body.acts i lent ++ (body.run i lent).actsThen (rest.acts i)
  | .reset rest, i, family => .reset i :: (family.reset i).elim [] (rest.acts i)
  | .close rest, i, family => .close i :: rest.acts i (family.close i)
  | .fail _, _, _ => []

theorem Run.leave_family (run : Run ε) (act : Act) :
    (run.leave (·.act act)).family = run.family.replay (run.ending.cleanUp act) := by
  obtain ⟨ending, family⟩ := run
  cases ending <;> rfl

theorem Run.andThen_family (run : Run ε) {next : Family → Run ε} {acts : Family → List Act}
    (follows : ∀ family, (next family).family = family.replay (acts family)) :
    (run.andThen next).family = run.family.replay (run.actsThen acts) := by
  obtain ⟨ending, family⟩ := run
  cases ending with
  | done => exact follows family
  | refused | failed | aborted => rfl

/-- A block does its own acts, cleans up and goes on. -/
theorem Run.block_family {run : Run ε} {opened : Family} {body : List Act}
    (inside : run.family = opened.replay body) (act : Act) {next : Family → Run ε}
    {acts : Family → List Act}
    (follows : ∀ family, (next family).family = family.replay (acts family)) :
    ((run.leave (·.act act)).andThen next).family =
      opened.replay (body ++ run.ending.cleanUp act ++ (run.leave (·.act act)).actsThen acts) := by
  rw [Run.andThen_family _ follows, Run.leave_family, inside, Family.replay_append,
    Family.replay_append]

/-- **A script leaves the emitters that its acts leave.** -/
theorem Script.run_family (script : Script ε) (i : FrameId) (family : Family) :
    (script.run i family).family = family.replay (script.acts i family) := by
  induction script generalizing i family with
  | done => rfl
  | write text rest ih =>
    cases written : family.write i text with
    | none => simp [Script.run, Script.acts, Family.replay, Family.act, written]
    | some after =>
      simpa [Script.run, Script.acts, Family.replay, Family.act, written] using ih i after
  | line text rest ih =>
    cases written : family.writeLine i text with
    | none => simp [Script.run, Script.acts, Family.replay, Family.act, written]
    | some after =>
      simpa [Script.run, Script.acts, Family.replay, Family.act, written] using ih i after
  | scope s body rest ihBody ihRest =>
    cases opened : family.openScope i s with
    | error reason => simp [Script.run, Script.acts, Family.replay, Family.act, opened]
    | ok after =>
      have block := Run.block_family (ihBody i after) (.release i) (ihRest i)
      simpa [Script.run, Script.acts, Family.replay, Family.act, opened] using block
  | block s body rest ihBody ihRest =>
    cases opened : family.openBlock i s with
    | none => simp [Script.run, Script.acts, Family.replay, Family.act, opened]
    | some after =>
      have block := Run.block_family (ihBody i after) (.release i) (ihRest i)
      simpa [Script.run, Script.acts, Family.replay, Family.act, opened] using block
  | child levels body rest ihBody ihRest =>
    cases created : family.newChild i levels with
    | error reason => simp [Script.run, Script.acts, Family.replay, Family.act, created]
    | ok pair =>
      obtain ⟨j, after⟩ := pair
      have block := Run.block_family (ihBody j after) (.close j) (ihRest i)
      simpa [Script.run, Script.acts, Family.replay, Family.act, created] using block
  | writer body rest ihBody ihRest =>
    cases lent : family.lend i with
    | none => simp [Script.run, Script.acts, Family.replay, Family.act, lent]
    | some after =>
      have onward := Run.andThen_family (body.run i after) (ihRest i)
      rw [ihBody i after, ← Family.replay_append] at onward
      simpa [Script.run, Script.acts, Family.replay, Family.act, lent] using onward
  | reset rest ih =>
    cases taken : family.reset i with
    | none => simp [Script.run, Script.acts, Family.replay, Family.act, taken]
    | some after =>
      simpa [Script.run, Script.acts, Family.replay, Family.act, taken] using ih i after
  | close rest ih => exact ih i (family.close i)
  | fail cause => rfl

/-! ### The acts of a session -/

namespace Session

/-- The acts on the emitter of a handle, none on a dead handle. -/
def actsOn (handles : Array (Option FrameId)) (handle : Nat) (acts : FrameId → List Act) :
    List Act :=
  (handles.getD handle none).elim [] acts

/-- The acts of an operation. -/
def acts (session : Session) : Op ε → List Act
  | .write e text => actsOn session.emitters e fun i => [.write i text]
  | .line e text => actsOn session.emitters e fun i => [.line i text]
  | .writer e script => actsOn session.emitters e fun i =>
    (Script.writer script .done).acts i session.family
  | .openScope e scope => actsOn session.emitters e fun i => [.openScope i scope]
  | .openBlock e scope => actsOn session.emitters e fun i => [.openBlock i scope]
  | .newChild e levels => actsOn session.emitters e fun i => [.newChild i levels]
  | .reset e => actsOn session.emitters e fun i => [.reset i]
  | .close e => actsOn session.emitters e fun i => [.close i]
  | .output e => actsOn session.emitters e fun i => [.output i]
  | .drop e => actsOn session.emitters e fun i => [.close i]
  | .finish e => actsOn session.emitters e fun i => [.close i]
  | .release g => actsOn session.guards g fun i => [.release i]
  | .forget g => actsOn session.guards g fun _ => []
  | .lineThrough g text => actsOn session.guards g fun i => [.line i text]

/-- Performs operations, one after the other. -/
def perform (session : Session) : List (Op ε) → Session
  | [] => session
  | op :: ops => (session.step op).2.perform ops

/-- The acts of operations, one after the other. -/
def history (session : Session) : List (Op ε) → List Act
  | [] => []
  | op :: ops => session.acts op ++ (session.step op).2.history ops

variable {session : Session}

theorem onEmitter_family {handle : Nat} {f : FrameId → Reply ε × Session}
    {acts : FrameId → List Act}
    (follows : ∀ i, (f i).2.family = session.family.replay (acts i)) :
    (session.onEmitter handle f).2.family =
      session.family.replay (actsOn session.emitters handle acts) := by
  rw [onEmitter, actsOn]
  cases session.emitters.getD handle none with
  | none => rfl
  | some i => exact follows i

theorem onGuard_family {handle : Nat} {f : FrameId → Reply ε × Session}
    {acts : FrameId → List Act}
    (follows : ∀ i, (f i).2.family = session.family.replay (acts i)) :
    (session.onGuard handle f).2.family =
      session.family.replay (actsOn session.guards handle acts) := by
  rw [onGuard, actsOn]
  cases session.guards.getD handle none with
  | none => rfl
  | some i => exact follows i

theorem settle_family (after : Option Family) :
    (session.settle (ε := ε) after).2.family = after.getD session.family := by
  cases after <;> rfl

/-- **An operation leaves the emitters that its acts leave.** -/
theorem step_family (session : Session) (op : Op ε) :
    (session.step op).2.family = session.family.replay (session.acts op) := by
  cases op with
  | write e text => exact onEmitter_family fun i => settle_family _
  | line e text => exact onEmitter_family fun i => settle_family _
  | writer e script => exact onEmitter_family fun i => Script.run_family _ i _
  | openScope e scope =>
    apply onEmitter_family
    intro i
    cases opened : session.family.openScope i scope <;>
      simp [giveGuard, Family.replay, Family.act, opened]
  | openBlock e scope =>
    apply onEmitter_family
    intro i
    cases opened : session.family.openBlock i scope <;>
      simp [giveGuard, Family.replay, Family.act, opened]
  | newChild e levels =>
    apply onEmitter_family
    intro i
    cases created : session.family.newChild i levels <;>
      simp [giveEmitter, Family.replay, Family.act, created]
  | reset e => exact onEmitter_family fun i => settle_family _
  | close e => exact onEmitter_family fun i => rfl
  | output e => exact onEmitter_family fun i => rfl
  | drop e => exact onEmitter_family fun i => rfl
  | finish e => exact onEmitter_family fun i => rfl
  | release g => exact onGuard_family fun i => rfl
  | forget g => exact onGuard_family fun i => rfl
  | lineThrough g text => exact onGuard_family fun i => settle_family _

/-- **A session has the emitters that its history leaves.** -/
theorem perform_family (session : Session) (ops : List (Op ε)) :
    (session.perform ops).family = session.family.replay (session.history ops) := by
  induction ops generalizing session with
  | nil => rfl
  | cons op ops ih =>
    rw [perform, history, ih, step_family, Family.replay_append]

end Session

end Bindery.Layout
