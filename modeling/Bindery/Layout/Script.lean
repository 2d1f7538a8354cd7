/-
Scripts: programs that write through an emitter.

A `Script` is a list of statements with nested blocks. A scope is released at
the end of its block and a child is closed at the end of its own, also when the
block ends early because a statement was refused or the script failed. Only a
write to a closed emitter aborts the script at once, and then nothing is
released or closed. `Script.run` runs a script on an emitter.
-/

import Bindery.Layout.Emitter

namespace Bindery.Layout

/-- A script, which may fail for a cause of type `ε`. -/
inductive Script (ε : Type) where
  | done
  /-- Writes text. -/
  | write (text : String) (rest : Script ε)
  /-- Writes text and ends the line. -/
  | line (text : String) (rest : Script ε)
  /-- Runs the body in a scope that adds a level at least. -/
  | scope (scope : Scope) (body rest : Script ε)
  /-- Runs the body in a scope of any number of levels. -/
  | block (scope : Scope) (body rest : Script ε)
  /-- Runs the body on a child, some levels deeper. -/
  | child (levels : Nat) (body rest : Script ε)
  /-- Runs the body on the same emitter, after closing its child. -/
  | writer (body rest : Script ε)
  /-- Takes back the levels that the emitter was created with. -/
  | reset (rest : Script ε)
  /-- Closes the emitter. -/
  | close (rest : Script ε)
  /-- Stops the script. -/
  | fail (cause : ε)

namespace Script

/-- One script after the other. -/
def append {ε : Type} : Script ε → Script ε → Script ε
  | done, next => next
  | write text rest, next => write text (rest.append next)
  | line text rest, next => line text (rest.append next)
  | scope s body rest, next => scope s body (rest.append next)
  | block s body rest, next => block s body (rest.append next)
  | child levels body rest, next => child levels body (rest.append next)
  | writer body rest, next => writer body (rest.append next)
  | reset rest, next => reset (rest.append next)
  | close rest, next => close (rest.append next)
  | fail cause, _ => fail cause

instance {ε : Type} : Append (Script ε) := ⟨append⟩

/-- The scripts of a list, one after the other. -/
def sequence {ε : Type} (scripts : List (Script ε)) : Script ε :=
  scripts.foldr append done

/-- Writes texts, one after the other. -/
def texts {ε : Type} (pieces : List String) : Script ε :=
  pieces.foldr write done

/-- Writes lines, one after the other. -/
def lines {ε : Type} (texts : List String) : Script ε :=
  texts.foldr line done

/-- An empty line, or the end of a line that was begun. -/
def newline {ε : Type} : Script ε :=
  line "" done

end Script

/-- How a script ends. -/
inductive Ending (ε : Type) where
  | done
  | refused (reason : Refusal)
  | failed (cause : ε)
  /-- The script wrote to an emitter that was closed. -/
  | aborted
  deriving DecidableEq, Repr

/-- The text of an abort, which has only one cause. -/
def abortMessage : String :=
  Refusal.closed.message

/-- The result of running a script: how it ended and the emitters then. -/
structure Run (ε : Type) where
  ending : Ending ε
  family : Family
  deriving DecidableEq, Repr

/-- Cleans up behind a block, unless the script was aborted. -/
def Run.leave {ε : Type} (run : Run ε) (cleanUp : Family → Family) : Run ε :=
  match run.ending with
  | .aborted => run
  | _ => { run with family := cleanUp run.family }

/-- Goes on behind a block that has ended well. -/
def Run.andThen {ε : Type} (run : Run ε) (next : Family → Run ε) : Run ε :=
  match run.ending with
  | .done => next run.family
  | _ => run

/-- Runs a script on an emitter. -/
def Script.run {ε : Type} : Script ε → FrameId → Family → Run ε
  | .done, _, family => ⟨.done, family⟩
  | .write text rest, i, family =>
    match family.write i text with
    | none => ⟨.aborted, family⟩
    | some family => rest.run i family
  | .line text rest, i, family =>
    match family.writeLine i text with
    | none => ⟨.aborted, family⟩
    | some family => rest.run i family
  | .scope s body rest, i, family =>
    match family.openScope i s with
    | .error reason => ⟨.refused reason, family⟩
    | .ok opened => ((body.run i opened).leave (·.release i)).andThen (rest.run i)
  | .block s body rest, i, family =>
    match family.openBlock i s with
    | none => ⟨.aborted, family⟩
    | some opened => ((body.run i opened).leave (·.release i)).andThen (rest.run i)
  | .child levels body rest, i, family =>
    match family.newChild i levels with
    | .error reason => ⟨.refused reason, family⟩
    | .ok (j, created) => ((body.run j created).leave (·.close j)).andThen (rest.run i)
  | .writer body rest, i, family =>
    match family.lend i with
    | none => ⟨.aborted, family⟩
    | some lent => (body.run i lent).andThen (rest.run i)
  | .reset rest, i, family =>
    match family.reset i with
    | none => ⟨.aborted, family⟩
    | some family => rest.run i family
  | .close rest, i, family => rest.run i (family.close i)
  | .fail cause, _, family => ⟨.failed cause, family⟩

end Bindery.Layout
