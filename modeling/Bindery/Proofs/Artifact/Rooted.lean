/-
Output paths stay below the source root.

The segments of a relative path are put behind the source root one by one. A path
that starts with a slash takes the place of what stands in front of it, but no
segment does. So nothing of the source root is lost, and slashes in the relative path
count no more than once. The main statements are

* `joinPath_of_segment`, what one segment adds to a path;
* `foldl_joinPath`, what some segments add, read as one text;
* `outputPath_rooted`, the path of an output in closed form.
-/

import Bindery.Artifact.Placement
import Mathlib.Logic.Basic

namespace Bindery

/-! ### Runs of slashes -/

/-- The text with one slash in place of every run of slashes. -/
def collapseSlashes : List Char → List Char
  | [] => []
  | c :: rest =>
    if c = '/' ∧ rest.head? = some '/' then collapseSlashes rest else c :: collapseSlashes rest

/-- The text without the slashes that it starts with, and with one slash in place of
every other run. -/
def tidySlashes (text : List Char) : List Char :=
  collapseSlashes (text.dropWhile (· = '/'))

theorem collapseSlashes_append {segment : List Char} (free : '/' ∉ segment) (rest : List Char) :
    collapseSlashes (segment ++ rest) = segment ++ collapseSlashes rest := by
  induction segment with
  | nil => rfl
  | cons c segment ih =>
    rw [List.mem_cons, not_or] at free
    have other : ¬(c = '/' ∧ (segment ++ rest).head? = some '/') := fun both =>
      free.1 both.1.symm
    rw [List.cons_append, collapseSlashes, if_neg other, ih free.2, List.cons_append]

/-- Slashes behind a slash do not count. -/
theorem collapseSlashes_slash (rest : List Char) :
    collapseSlashes ('/' :: rest) = '/' :: tidySlashes rest := by
  induction rest with
  | nil => rfl
  | cons c rest ih =>
    by_cases slash : c = '/'
    · rw [slash, collapseSlashes, if_pos ⟨rfl, rfl⟩, ih]
      simp [tidySlashes]
    · rw [collapseSlashes, if_neg (by simp [slash])]
      simp [tidySlashes, slash]

theorem tidySlashes_slash (rest : List Char) : tidySlashes ('/' :: rest) = tidySlashes rest := by
  simp [tidySlashes]

/-- A segment that is not empty stays in front. -/
theorem tidySlashes_append {segment : List Char} (free : '/' ∉ segment) (filled : segment ≠ [])
    (rest : List Char) : tidySlashes (segment ++ rest) = segment ++ collapseSlashes rest := by
  obtain ⟨c, later, rfl⟩ := List.exists_cons_of_ne_nil filled
  have other : c ≠ '/' := fun slash => free (slash ▸ List.mem_cons_self)
  rw [tidySlashes, List.cons_append, List.dropWhile_cons_of_neg (by simpa using other),
    ← List.cons_append, collapseSlashes_append free]

theorem tidySlashes_eq_self {segment : List Char} (free : '/' ∉ segment) :
    tidySlashes segment = segment := by
  by_cases empty : segment = []
  · rw [empty]
    rfl
  · simpa [collapseSlashes] using tidySlashes_append free empty []

/-! ### Segments -/

/-- What a path needs behind it before a segment is added. -/
def separator (path : String) : String :=
  if path ≠ "" ∧ path.toList.getLast? ≠ some '/' then "/" else ""

/-- The separator separates: no other is needed behind it. -/
theorem separator_append_separator (path : String) : separator (path ++ separator path) = "" := by
  by_cases needed : path ≠ "" ∧ path.toList.getLast? ≠ some '/'
  · simp [separator, needed]
  · simp only [separator, if_neg needed, String.append_empty]

theorem separator_append {segment : String} (free : '/' ∉ segment.toList) (filled : segment ≠ "")
    (path : String) : separator (path ++ segment) = "/" := by
  have filled' : segment.toList ≠ [] := by simpa using filled
  have last : (path ++ segment).toList.getLast? = some (segment.toList.getLast filled') := by
    rw [String.toList_append, List.getLast?_append, List.getLast?_eq_some_getLast filled',
      Option.some_or]
  rw [separator, if_pos]
  constructor
  · simp [filled]
  · rw [last, Ne, Option.some.injEq]
    exact fun slash => free (slash ▸ List.getLast_mem filled')

/-- **A segment does not take the place of a path**, but is put behind it. -/
theorem joinPath_of_segment {segment : String} (free : '/' ∉ segment.toList) (path : String) :
    joinPath path segment = path ++ separator path ++ segment := by
  have relative : segment.toList.head? ≠ some '/' := fun slash =>
    free (List.mem_of_head? slash)
  rw [joinPath, if_neg (by simpa using relative)]
  by_cases needed : path ≠ "" ∧ path.toList.getLast? ≠ some '/'
  · rw [separator, if_pos needed, if_neg (by simpa using needed)]
  · have closed : path = "" ∨ path.toList.getLast? = some '/' := by
      rwa [not_and_or, not_not, not_not] at needed
    rw [separator, if_neg needed, if_pos (by simpa using closed), String.append_empty]

/-- **What some segments add to a path**, read as the text with slashes between
them. -/
theorem foldl_joinPath {segments : List String} (present : segments ≠ [])
    (free : ∀ segment ∈ segments, '/' ∉ segment.toList) (path : String) :
    segments.foldl joinPath path =
      path ++ separator path ++
        String.ofList (tidySlashes (Text.joinWith "/" segments).toList) := by
  induction segments generalizing path with
  | nil => exact absurd rfl present
  | cons segment rest ih =>
    have here : '/' ∉ segment.toList := free segment List.mem_cons_self
    have joined := joinPath_of_segment here path
    by_cases last : rest = []
    · subst last
      simp [Text.joinWith, joined, tidySlashes_eq_self here]
    · have later := ih last fun segment mem => free segment (List.mem_cons_of_mem _ mem)
      have text : (Text.joinWith "/" (segment :: rest)).toList =
          segment.toList ++ '/' :: (Text.joinWith "/" rest).toList := by
        simp [Text.joinWith_cons_of_ne_nil _ _ last]
      rw [List.foldl_cons, joined, later, text]
      by_cases empty : segment = ""
      · -- An empty segment adds the separator, and another is not needed.
        rw [empty, String.append_empty, separator_append_separator, String.append_empty]
        exact congrArg _ (congrArg String.ofList (tidySlashes_slash _).symm)
      · have filled : segment.toList ≠ [] := by simpa using empty
        rw [separator_append here empty, tidySlashes_append here filled, collapseSlashes_slash]
        simp [String.ofList_append, String.ofList_cons, String.append_assoc]

/-! ### Outputs -/

theorem free_of_mem_segments {text segment : String} (mem : segment ∈ Text.segments '/' text) :
    '/' ∉ segment.toList := by
  obtain ⟨piece, cut, rfl⟩ := List.mem_map.mp mem
  rw [String.toList_ofList]
  exact Text.not_mem_of_mem_cutAt cut

/-- **The path of an output** is the source root, a slash if the source root is not
empty and does not end in one, and the relative path without the slashes that it
starts with and with one slash in place of every other run. So the source root is
what the path starts with, and a relative path that starts with a slash leads to
the same place as it does without. -/
theorem outputPath_rooted (sourceRoot relativePath : String) :
    outputPath sourceRoot relativePath =
      sourceRoot ++
        (if sourceRoot ≠ "" ∧ sourceRoot.toList.getLast? ≠ some '/' then "/" else "") ++
        String.ofList (collapseSlashes (relativePath.toList.dropWhile (· = '/'))) ∧
    sourceRoot.toList <+: (outputPath sourceRoot relativePath).toList ∧
    outputPath sourceRoot ("/" ++ relativePath) = outputPath sourceRoot relativePath := by
  have rooted (relativePath : String) : outputPath sourceRoot relativePath =
      sourceRoot ++ separator sourceRoot ++ String.ofList (tidySlashes relativePath.toList) := by
    have segments : Text.segments '/' relativePath ≠ [] := by
      simp [Text.segments, Text.cutAt_ne_nil]
    have text : Text.joinWith "/" (Text.segments '/' relativePath) = relativePath :=
      Text.joinWith_segments '/' relativePath
    rw [outputPath, foldl_joinPath segments fun _ => free_of_mem_segments, text]
  refine ⟨rooted relativePath, ?_, ?_⟩
  · rw [rooted]
    simp [String.append_assoc]
  · rw [rooted, rooted, String.toList_append]
    exact congrArg _ (congrArg String.ofList (tidySlashes_slash _))

example : outputPath "/srv/gen" "//a///b.h" = "/srv/gen/a/b.h" ∧ outputPath "" "/a/" = "a/" := by
  decide

end Bindery
