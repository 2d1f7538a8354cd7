/-
Where an artifact belongs and how its file starts.

A `Placement` is the name of a file, the directory that it is put under and
whether it starts with a byte-order mark. `Rendered` is a finished file, and
`outputPath` is where it belongs below a source root.
-/

import Bindery.Text.Segments

namespace Bindery

/-- The place of one output. -/
structure Placement where
  fileName : String
  basePath : Option String := none
  /-- Overrides what the target does by default. -/
  byteOrderMark : Option Bool := none
  deriving DecidableEq, Repr

/-- A path without the slashes at its end. -/
def trimSlashes (path : String) : String :=
  String.ofList (path.toList.reverse.dropWhile (· = '/')).reverse

/-- The path of an output: its file name, below its base path if it has one
that is not empty. -/
def Placement.relativePath (placement : Placement) : String :=
  match placement.basePath with
  | none => placement.fileName
  | some base =>
    if base.isEmpty then placement.fileName
    else trimSlashes base ++ "/" ++ placement.fileName

/-- A finished file. -/
structure Rendered where
  relativePath : String
  content : String
  byteOrderMark : Bool
  deriving DecidableEq, Repr

/-- The bytes of a file: the byte-order mark if it has one, then its text. -/
def Rendered.bytes (rendered : Rendered) : ByteArray :=
  (if rendered.byteOrderMark then "\uFEFF" ++ rendered.content else rendered.content).toUTF8

/-- A path with another behind it. One that starts with a slash takes the place of
the path. Otherwise a slash is put between them unless the path is empty or ends in
one. -/
def joinPath (path next : String) : String :=
  if next.toList.head? == some '/' then next
  else if path.isEmpty || path.toList.getLast? == some '/' then path ++ next
  else path ++ "/" ++ next

/-- The path of a file below a source root: the segments of its relative path
are added one by one. -/
def outputPath (sourceRoot relativePath : String) : String :=
  (Text.segments '/' relativePath).foldl joinPath sourceRoot

end Bindery
