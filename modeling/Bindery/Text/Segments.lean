/-
Texts cut into segments at a separator, and segments joined again.

* `segments` cuts a text at every occurrence of a character, so that a text
  without it is one segment and the empty text is one empty segment;
* `joinWith` puts a separator between consecutive segments.

Joining the segments of a text with the separator gives the text back
(`joinWith_segments`), and no segment holds the separator
(`not_mem_of_mem_cutAt`).
-/

namespace Bindery.Text

/-- The pieces of a text between consecutive occurrences of `sep`. There is
always at least one. -/
def cutAt (sep : Char) : List Char → List (List Char)
  | [] => [[]]
  | c :: rest =>
    if c = sep then [] :: cutAt sep rest
    else
      match cutAt sep rest with
      | [] => [[c]]
      | piece :: pieces => (c :: piece) :: pieces

/-- The segments of a text between consecutive occurrences of `sep`. -/
def segments (sep : Char) (text : String) : List String :=
  (cutAt sep text.toList).map String.ofList

/-- The segments in order, with `sep` between consecutive ones. -/
def joinWith (sep : String) : List String → String
  | [] => ""
  | [segment] => segment
  | segment :: next :: rest => segment ++ sep ++ joinWith sep (next :: rest)

/-! ### Laws of cutting and joining -/

/-- A text has at least one piece. -/
theorem cutAt_ne_nil (sep : Char) (text : List Char) : cutAt sep text ≠ [] := by
  cases text with
  | nil => simp [cutAt]
  | cons c rest =>
    rw [cutAt]
    split
    · exact List.cons_ne_nil _ _
    · split <;> exact List.cons_ne_nil _ _

/-- Where the text goes on after a separator, a new piece starts. -/
theorem cutAt_cons_self (sep : Char) (rest : List Char) :
    cutAt sep (sep :: rest) = [] :: cutAt sep rest := by
  simp [cutAt]

/-- No piece holds the separator. -/
theorem not_mem_of_mem_cutAt {sep : Char} {text piece : List Char} (h : piece ∈ cutAt sep text) :
    sep ∉ piece := by
  induction text generalizing piece with
  | nil => simp_all [cutAt]
  | cons c rest ih =>
    rw [cutAt] at h
    split at h
    · rcases List.mem_cons.1 h with rfl | mem
      · exact List.not_mem_nil
      · exact ih mem
    · rename_i ne
      split at h
      · exact absurd ‹_› (cutAt_ne_nil sep rest)
      · rename_i first others eq
        rcases List.mem_cons.1 h with rfl | mem
        · have := ih (eq ▸ List.mem_cons_self)
          simp [this, Ne.symm ne]
        · exact ih (eq ▸ List.mem_cons_of_mem _ mem)

/-- Joining at least two segments starts with the first and the separator. -/
theorem joinWith_cons_of_ne_nil (sep segment : String) {rest : List String} (h : rest ≠ []) :
    joinWith sep (segment :: rest) = segment ++ sep ++ joinWith sep rest := by
  cases rest with
  | nil => exact absurd rfl h
  | cons next rest => rfl

/-- A longer first segment makes the joined text longer in front. -/
theorem joinWith_append_cons (sep front segment : String) (rest : List String) :
    joinWith sep ((front ++ segment) :: rest) = front ++ joinWith sep (segment :: rest) := by
  cases rest with
  | nil => rfl
  | cons next rest => simp [joinWith, String.append_assoc]

/-- The joined pieces of a text are the text. -/
theorem joinWith_cutAt (sep : Char) (text : List Char) :
    joinWith (String.singleton sep) ((cutAt sep text).map String.ofList) = String.ofList text := by
  induction text with
  | nil => rfl
  | cons c rest ih =>
    rw [cutAt]
    split
    · rename_i eq
      rw [List.map_cons, joinWith_cons_of_ne_nil _ _ (by simp [cutAt_ne_nil]), ih, eq]
      simp
    · split
      · exact absurd ‹_› (cutAt_ne_nil sep rest)
      · rename_i first others eq
        rw [eq] at ih
        have front : String.ofList (c :: first) = String.ofList [c] ++ String.ofList first := by
          simp
        rw [List.map_cons, front, joinWith_append_cons, ← List.map_cons, ih]
        simp

/-- Joining the segments of a text with the separator gives the text back. -/
theorem joinWith_segments (sep : Char) (text : String) :
    joinWith (String.singleton sep) (segments sep text) = text := by
  rw [segments, joinWith_cutAt, String.ofList_toList]

end Bindery.Text
