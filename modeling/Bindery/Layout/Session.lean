/-
Sessions: a family of emitters used step by step.

The user of a session holds handles. There is one for each emitter, the root
having handle zero, and one for each scope that was opened from outside a
script: its guard, by which the scope is released. Guards may be released in
any order, and releasing one always releases the innermost scope of its
emitter. An emitter that is dropped is closed, its guards are forgotten and its
handle is dead. `Session.step` performs one operation.
-/

import Bindery.Layout.Script

namespace Bindery.Layout

/-- A session: the emitters, and what the handles of emitters and guards stand
for. A dead handle stands for nothing. -/
structure Session where
  family : Family
  emitters : Array (Option FrameId)
  guards : Array (Option FrameId)

/-- An operation on a session. Emitters and guards are given by their
handles. -/
inductive Op (ε : Type) where
  | write (emitter : Nat) (text : String)
  | line (emitter : Nat) (text : String)
  | writer (emitter : Nat) (script : Script ε)
  | openScope (emitter : Nat) (scope : Scope)
  | openBlock (emitter : Nat) (scope : Scope)
  | newChild (emitter : Nat) (levels : Nat)
  | reset (emitter : Nat)
  | close (emitter : Nat)
  | output (emitter : Nat)
  /-- Closes an emitter for good. -/
  | drop (emitter : Nat)
  /-- Closes an emitter for good and gives the text of the page. -/
  | finish (emitter : Nat)
  /-- Releases a scope by its guard. -/
  | release (guard : Nat)
  /-- Gives up a guard without releasing its scope. -/
  | forget (guard : Nat)
  /-- Writes a line through the guard of a scope. -/
  | lineThrough (guard : Nat) (text : String)

/-- The answer to an operation. -/
inductive Reply (ε : Type) where
  | none
  | emitter (handle : Nat)
  | guard (handle : Nat)
  | text (text : String)
  | refused (reason : Refusal)
  | failed (cause : ε)
  | aborted
  | deadHandle
  deriving DecidableEq, Repr

/-- The answer that tells how a script has ended. -/
def Ending.reply {ε : Type} : Ending ε → Reply ε
  | .done => .none
  | .refused reason => .refused reason
  | .failed cause => .failed cause
  | .aborted => .aborted

namespace Session

/-- A session with a root emitter. -/
def start (width : Nat) : Session :=
  ⟨Family.root width, #[some 0], #[]⟩

/-- The session with its emitters changed. -/
def withFamily (session : Session) (family : Family) : Session :=
  { session with family }

/-- The session after an operation that has no answer on a closed emitter. -/
def settle {ε : Type} (session : Session) : Option Family → Reply ε × Session
  | some family => (.none, session.withFamily family)
  | none => (.aborted, session)

/-- Gives out a guard for a scope that was opened on an emitter. -/
def giveGuard {ε : Type} (session : Session) (i : FrameId) (family : Family) : Reply ε × Session :=
  (.guard session.guards.size, { session with family, guards := session.guards.push (some i) })

/-- Gives out a handle for a new emitter. -/
def giveEmitter {ε : Type} (session : Session) (i : FrameId) (family : Family) :
    Reply ε × Session :=
  (.emitter session.emitters.size, { session with family, emitters := session.emitters.push (some i) })

/-- Closes an emitter for good: its guards are forgotten and its handle dies. -/
def retire (session : Session) (handle : Nat) (i : FrameId) : Session :=
  { family := session.family.close i
    emitters := session.emitters.setIfInBounds handle none
    guards := session.guards.map fun guard => if guard = some i then none else guard }

/-- Ends the life of a guard. -/
def retireGuard (session : Session) (handle : Nat) : Session :=
  { session with guards := session.guards.setIfInBounds handle none }

/-- An operation on the emitter of a handle. -/
def onEmitter {ε : Type} (session : Session) (handle : Nat)
    (f : FrameId → Reply ε × Session) : Reply ε × Session :=
  match session.emitters.getD handle none with
  | some i => f i
  | none => (.deadHandle, session)

/-- An operation on the emitter of a guard. -/
def onGuard {ε : Type} (session : Session) (handle : Nat)
    (f : FrameId → Reply ε × Session) : Reply ε × Session :=
  match session.guards.getD handle none with
  | some i => f i
  | none => (.deadHandle, session)

/-- Performs one operation. -/
def step {ε : Type} (session : Session) : Op ε → Reply ε × Session
  | .write e text => session.onEmitter e fun i => session.settle (session.family.write i text)
  | .line e text => session.onEmitter e fun i => session.settle (session.family.writeLine i text)
  | .writer e script => session.onEmitter e fun i =>
    let run := (Script.writer script .done).run i session.family
    (run.ending.reply, session.withFamily run.family)
  | .openScope e scope => session.onEmitter e fun i =>
    match session.family.openScope i scope with
    | .error reason => (.refused reason, session)
    | .ok family => session.giveGuard i family
  | .openBlock e scope => session.onEmitter e fun i =>
    match session.family.openBlock i scope with
    | none => (.aborted, session)
    | some family => session.giveGuard i family
  | .newChild e levels => session.onEmitter e fun i =>
    match session.family.newChild i levels with
    | .error reason => (.refused reason, session)
    | .ok (child, family) => session.giveEmitter child family
  | .reset e => session.onEmitter e fun i => session.settle (session.family.reset i)
  | .close e => session.onEmitter e fun i => (.none, session.withFamily (session.family.close i))
  | .output e => session.onEmitter e fun i =>
    let (text, family) := session.family.output i
    (.text text, session.withFamily family)
  | .drop e => session.onEmitter e fun i => (.none, session.retire e i)
  | .finish e => session.onEmitter e fun i =>
    let session := session.retire e i
    (.text session.family.page.text, session)
  | .release g => session.onGuard g fun i =>
    (.none, (session.withFamily (session.family.release i)).retireGuard g)
  | .forget g => session.onGuard g fun _ => (.none, session.retireGuard g)
  | .lineThrough g text => session.onGuard g fun i =>
    session.settle (session.family.writeLine i text)

end Session

end Bindery.Layout
