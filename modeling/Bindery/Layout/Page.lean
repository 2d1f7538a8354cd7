/-
A page of indented text.

Text is written onto a page at an indentation level. Every line that is not
blank is indented when its first character is written, at the level of that
writing; text that continues a line is not indented again. All line ends become
line feeds. The main definitions are

* `unifyLineEnds`, which turns the three spellings of a line end into one;
* `indentLines`, which indents a text that starts or continues a line;
* `Page.write` and `Page.writeLine`.

No carriage return reaches a page (`not_mem_unifyLineEnds`), and a text put in
two parts is a text put at once (`Page.put_append`).
-/

namespace Bindery.Layout

/-- The text with every line end, be it a carriage return, a line feed or the
two together, turned into one line feed. -/
def unifyLineEnds : List Char → List Char
  | [] => []
  | '\r' :: '\n' :: rest => '\n' :: unifyLineEnds rest
  | '\r' :: rest => '\n' :: unifyLineEnds rest
  | c :: rest => c :: unifyLineEnds rest

/-- No carriage return is left. -/
theorem not_mem_unifyLineEnds (text : List Char) : '\r' ∉ unifyLineEnds text := by
  fun_induction unifyLineEnds text with
  | case1 => simp
  | case2 rest ih => simp [ih]
  | case3 rest _ ih => simp [ih]
  | case4 c rest _ ne ih => simp_all [eq_comm]

/-- A text without carriage returns stays as it is. -/
theorem unifyLineEnds_eq_self {text : List Char} (h : '\r' ∉ text) : unifyLineEnds text = text := by
  fun_induction unifyLineEnds text with
  | case1 => rfl
  | case2 rest ih => simp at h
  | case3 rest _ ih => simp at h
  | case4 c rest _ _ ih => rw [ih (fun mem => h (List.mem_cons_of_mem _ mem))]

/-- The text with `pad` in front of every line that is not blank; `atStart`
tells whether the text starts a line. -/
def indentLines (pad : List Char) : Bool → List Char → List Char
  | _, [] => []
  | atStart, c :: rest =>
    if c = '\n' then c :: indentLines pad true rest
    else if atStart then pad ++ c :: indentLines pad false rest
    else c :: indentLines pad false rest

/-- Whether a text leaves off at the start of a line, when it starts as told by
`atStart`. -/
def endsAtLineStart : Bool → List Char → Bool
  | atStart, [] => atStart
  | _, c :: rest => endsAtLineStart (c = '\n') rest

/-- Text written in two parts starts the second where the first leaves off. -/
theorem endsAtLineStart_append (atStart : Bool) (first second : List Char) :
    endsAtLineStart atStart (first ++ second) =
      endsAtLineStart (endsAtLineStart atStart first) second := by
  induction first generalizing atStart with
  | nil => rfl
  | cons c rest ih => exact ih _

/-- Indenting a text in two parts indents the whole. -/
theorem indentLines_append (pad : List Char) (atStart : Bool) (first second : List Char) :
    indentLines pad atStart (first ++ second) =
      indentLines pad atStart first ++ indentLines pad (endsAtLineStart atStart first) second := by
  induction first generalizing atStart with
  | nil => simp [indentLines, endsAtLineStart]
  | cons c rest ih =>
    by_cases feed : c = '\n' <;> by_cases start : atStart = true <;>
      simp [indentLines, endsAtLineStart, feed, start, ih]

/-- A page: the spaces of one indentation level, the text so far, and whether
the next character starts a line. -/
structure Page where
  width : Nat
  text : String := ""
  atLineStart : Bool := true
  deriving DecidableEq, Repr

namespace Page

/-- The indentation of a level. Levels, widths and the spaces of a line are natural
numbers, and there is always room for the spaces: that a machine word overflows, or
that a text is larger than memory can hold, is left out here. Neither happens on a
page that ends up small enough (`Artifact.renderWithin`). -/
def pad (page : Page) (level : Nat) : List Char :=
  List.replicate (level * page.width) ' '

/-- Adds text whose line ends are line feeds. -/
def put (page : Page) (level : Nat) (text : List Char) : Page :=
  { page with
    text := page.text ++ String.ofList (indentLines (page.pad level) page.atLineStart text)
    atLineStart := endsAtLineStart page.atLineStart text }

/-- Putting two texts one after the other puts the two together. -/
theorem put_append (page : Page) (level : Nat) (first second : List Char) :
    page.put level (first ++ second) = (page.put level first).put level second := by
  simp [put, pad, indentLines_append, endsAtLineStart_append, String.append_assoc,
    String.ofList_append]

/-- Writes text at a level. -/
def write (page : Page) (level : Nat) (text : String) : Page :=
  page.put level (unifyLineEnds text.toList)

/-- Writes text at a level and ends the line. -/
def writeLine (page : Page) (level : Nat) (text : String) : Page :=
  (page.write level text).put level ['\n']

end Page

end Bindery.Layout
