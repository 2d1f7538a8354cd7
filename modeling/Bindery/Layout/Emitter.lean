/-
Emitters that write to one page.

An emitter has an indentation level, scopes that are open, and at most one child
that is open. A scope adds levels until it is released, and then writes its
closing text. A child is an emitter of its own on the same page, some levels
deeper; whatever its parent does next closes it first. A `Family` is the page
together with the frames of all emitters that were ever created on it, the root
first; emitters are addressed by the position of their frame.

Some operations refuse their arguments and say why (`Refusal`). The others need
an open emitter and have no answer on a closed one, which is `none` here; the
family is then as it was.
-/

import Bindery.Layout.Page

namespace Bindery.Layout

/-! ### Scopes and frames -/

/-- An open scope: the levels that it added and the text that is written when
it is released, possibly on a line of its own. -/
structure Scope where
  levels : Nat
  closing : Option String
  ownLine : Bool
  deriving DecidableEq, Repr

/-- One level and no closing text. -/
def Scope.indent : Scope := ⟨1, none, false⟩

/-- One level and a closing text. -/
def Scope.indentWith (closing : String) (ownLine : Bool) : Scope := ⟨1, some closing, ownLine⟩

/-- A closing text and no level. -/
def Scope.withClosing (closing : String) : Scope := ⟨0, some closing, false⟩

/-- Writes the closing text of a scope at a level. -/
def Page.conclude (page : Page) (level : Nat) (scope : Scope) : Page :=
  match scope.closing, scope.ownLine with
  | some closing, true => page.writeLine level closing
  | some closing, false => page.write level closing
  | none, true => page.writeLine level ""
  | none, false => page

/-- Releases scopes, innermost first: each gives its levels back and then
writes its closing text. The result is the page and the level that is left. -/
def Page.releaseAll (page : Page) (level : Nat) : List Scope → Page × Nat
  | [] => (page, level)
  | scope :: outer =>
    (page.conclude (level - scope.levels) scope).releaseAll (level - scope.levels) outer

/-- The address of an emitter in its family. -/
abbrev FrameId := Nat

/-- The state of an emitter. -/
structure Frame where
  /-- The level at which it writes. -/
  level : Nat := 0
  /-- The levels that it stands deeper than its parent, its scopes apart. -/
  offset : Nat := 0
  /-- Whether its offset can still be taken back: it has written nothing. -/
  fresh : Bool := false
  /-- The open scopes, innermost first. -/
  scopes : List Scope := []
  parent : Option FrameId := none
  child : Option FrameId := none
  closed : Bool := false
  deriving DecidableEq, Repr

/-- What an operation refuses. -/
inductive Refusal where
  | nonPositiveIndent
  | childAlreadyActive
  | closed
  deriving DecidableEq, Repr

/-- The text of a refusal. -/
def Refusal.message : Refusal → String
  | nonPositiveIndent => "can't indent with a non positive indent count"
  | childAlreadyActive => "a child emitter is already active"
  | closed => "the emitter has already been closed"

/-- All emitters of a page. -/
structure Family where
  page : Page
  frames : Array Frame
  deriving DecidableEq, Repr

namespace Family

/-- A page with its root emitter, which has address zero. -/
def root (width : Nat) : Family :=
  ⟨{ width }, #[{}]⟩

/-- The frame at an address. There is no emitter beyond the frames, and it
counts as closed. -/
def frame (family : Family) (i : FrameId) : Frame :=
  family.frames.getD i { closed := true }

/-- Changes the frame at an address. -/
def modify (family : Family) (i : FrameId) (f : Frame → Frame) : Family :=
  { family with frames := family.frames.modify i f }

/-- Whether an emitter is closed. -/
def isClosed (family : Family) (i : FrameId) : Bool :=
  (family.frame i).closed

/-! ### Closing -/

/-- Releases all scopes of an emitter, innermost first, and marks it closed. -/
def shut (family : Family) (i : FrameId) : Family :=
  let frame := family.frame i
  let (page, level) := family.page.releaseAll frame.level frame.scopes
  { family with page }.modify i fun frame => { frame with level, scopes := [], closed := true }

/-- Drops the link of an emitter to its child. -/
def unlink (family : Family) (i : FrameId) : Family :=
  family.modify i fun frame => { frame with child := none }

/-- Closes an emitter, its child first. The fuel bounds the length of the chain
of children. -/
def closeChain : Nat → FrameId → Family → Family
  | 0, _, family => family
  | fuel + 1, i, family =>
    match (family.frame i).child with
    | none => family.shut i
    | some child => (closeChain fuel child (family.unlink i)).shut i

/-- Closes the child of an emitter, if it has one. -/
def closeChild (family : Family) (i : FrameId) : Family :=
  match (family.frame i).child with
  | none => family
  | some child => closeChain family.frames.size child (family.unlink i)

/-- Drops the link of the parent of an emitter to it. -/
def detach (family : Family) (i : FrameId) : Family :=
  match (family.frame i).parent with
  | none => family
  | some parent => if (family.frame parent).child = some i then family.unlink parent else family

/-- Closes an emitter: its child first, then its scopes, innermost first. A
closed emitter stays as it is. -/
def close (family : Family) (i : FrameId) : Family :=
  if family.isClosed i then family
  else closeChain family.frames.size i (family.detach i)

/-! ### Writing -/

/-- Gets an emitter ready to write: its child is closed, and its offset is
there to stay. -/
def settle (family : Family) (i : FrameId) : Family :=
  (family.closeChild i).modify i fun frame => { frame with fresh := false }

/-- Writes text at the level of an emitter. -/
def write (family : Family) (i : FrameId) (text : String) : Option Family :=
  if family.isClosed i then none
  else
    let family := family.settle i
    some { family with page := family.page.write (family.frame i).level text }

/-- Writes text at the level of an emitter and ends the line. -/
def writeLine (family : Family) (i : FrameId) (text : String) : Option Family :=
  if family.isClosed i then none
  else
    let family := family.settle i
    some { family with page := family.page.writeLine (family.frame i).level text }

/-- Gets an emitter ready to be written to by someone else. -/
def lend (family : Family) (i : FrameId) : Option Family :=
  if family.isClosed i then none else some (family.closeChild i)

/-- The text of the page, after closing the child of an emitter. -/
def output (family : Family) (i : FrameId) : String × Family :=
  let family := family.closeChild i
  (family.page.text, family)

/-! ### Scopes -/

/-- Opens a scope on an emitter that is open. -/
def pushScope (family : Family) (i : FrameId) (scope : Scope) : Family :=
  (family.closeChild i).modify i fun frame =>
    { frame with level := frame.level + scope.levels, scopes := scope :: frame.scopes }

/-- Opens a scope, which has to add a level at least. -/
def openScope (family : Family) (i : FrameId) (scope : Scope) : Except Refusal Family :=
  if scope.levels = 0 then .error .nonPositiveIndent
  else if family.isClosed i then .error .closed
  else .ok (family.pushScope i scope)

/-- Opens a scope of any number of levels. -/
def openBlock (family : Family) (i : FrameId) (scope : Scope) : Option Family :=
  if family.isClosed i then none else some (family.pushScope i scope)

/-- Releases the innermost scope of an emitter, after closing its child. A
closed emitter has released all its scopes already. -/
def release (family : Family) (i : FrameId) : Family :=
  if family.isClosed i then family
  else
    let family := family.closeChild i
    let frame := family.frame i
    match frame.scopes with
    | [] => family
    | scope :: outer =>
      let level := frame.level - scope.levels
      { family with page := family.page.conclude level scope }.modify i fun frame =>
        { frame with level, scopes := outer }

/-! ### Children -/

/-- Creates a child, some levels deeper than its parent, and gives its
address. -/
def newChild (family : Family) (i : FrameId) (levels : Nat) : Except Refusal (FrameId × Family) :=
  if levels = 0 then .error .nonPositiveIndent
  else if family.isClosed i then .error .closed
  else
    let frame := family.frame i
    if frame.child.isSome then .error .childAlreadyActive
    else
      let child := family.frames.size
      let linked := family.modify i fun frame => { frame with child := some child }
      .ok (child, { linked with
        frames := linked.frames.push
          { level := frame.level + levels, offset := levels, fresh := true, parent := some i } })

/-- Takes back the levels that an emitter was created with, unless it has
written something. -/
def reset (family : Family) (i : FrameId) : Option Family :=
  if family.isClosed i then none
  else
    some ((family.closeChild i).modify i fun frame =>
      if frame.fresh then
        { frame with level := frame.level - frame.offset, offset := 0, fresh := false }
      else frame)

end Family

end Bindery.Layout
