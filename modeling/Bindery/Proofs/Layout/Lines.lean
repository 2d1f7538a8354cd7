/-
The lines of a page.

Strokes leave ink: characters, each with the level at which it was written. Cut
at the line feeds, the ink falls into lines, and a line stands at the level of
its first character. None of this knows how many spaces a level has. The main
statements are

* `Page.text_draw`, that a page shows the lines of the strokes drawn on it, one
  below the other, each indented by its level unless it is blank;
* `Line.unbroken_of_mem_ofStrokes`, that there is no line end inside a line;
* `Page.text_draw_flush`, that strokes at level zero, or on a page whose levels
  have no width, are shown as they are;
* `unifyLineEnds_append`, where a text can be cut without changing its line ends.
-/

import Bindery.Proofs.Layout.Strokes

namespace Bindery.Layout

/-! ### Lines -/

/-- The characters of some strokes, each with the level at which it was
written. -/
def Stroke.ink (strokes : List Stroke) : List (Nat × Char) :=
  strokes.flatMap fun stroke => stroke.text.map (stroke.level, ·)

/-- A line of a page: its level, and its text without the indentation. -/
structure Line where
  level : Nat
  text : String
  deriving DecidableEq, Repr

namespace Line

/-- The line of some ink, which stands at the level of the first character. -/
def ofInk (ink : List (Nat × Char)) : Line :=
  ⟨(ink.head?.map Prod.fst).getD 0, String.ofList (ink.map Prod.snd)⟩

/-- The lines of some strokes. -/
def ofStrokes (strokes : List Stroke) : List Line :=
  ((Stroke.ink strokes).splitOnP (·.2 == '\n')).map ofInk

/-- A line as it is shown where every level has `width` spaces. A blank line is
not indented. -/
def render (width : Nat) (line : Line) : String :=
  if line.text = "" then ""
  else String.ofList (List.replicate (width * line.level) ' ') ++ line.text

/-- Lines as they are shown, one below the other. -/
def renderAll (width : Nat) (lines : List Line) : String :=
  "\n".intercalate (lines.map (render width))

/-- A line whose first character may be on the page already. -/
def renderFrom (width : Nat) (atStart : Bool) (line : Line) : String :=
  if atStart then line.render width else line.text

end Line

/-! ### Laying out ink -/

/-- The text of some ink, which starts a line or continues one. -/
def layOut (width : Nat) : Bool → List (Nat × Char) → List Char
  | _, [] => []
  | atStart, (level, c) :: rest =>
    if c = '\n' then c :: layOut width true rest
    else if atStart then List.replicate (width * level) ' ' ++ c :: layOut width false rest
    else c :: layOut width false rest

theorem layOut_append (width : Nat) (atStart : Bool) (first second : List (Nat × Char)) :
    layOut width atStart (first ++ second) = layOut width atStart first ++
      layOut width (endsAtLineStart atStart (first.map Prod.snd)) second := by
  induction first generalizing atStart with
  | nil => rfl
  | cons mark rest ih =>
    obtain ⟨level, c⟩ := mark
    by_cases feed : c = '\n' <;> by_cases start : atStart = true <;>
      simp [layOut, endsAtLineStart, feed, start, ih]

/-- A text that is indented is ink of one level that is laid out. -/
theorem layOut_text (width level : Nat) (atStart : Bool) (text : List Char) :
    layOut width atStart (text.map (level, ·)) =
      indentLines (List.replicate (level * width) ' ') atStart text := by
  induction text generalizing atStart with
  | nil => rfl
  | cons c rest ih =>
    by_cases feed : c = '\n' <;> by_cases start : atStart = true <;>
      simp [layOut, indentLines, feed, start, ih, Nat.mul_comm]

/-- Ink of level zero, or with levels of no width, is not indented at all. -/
theorem layOut_flush {width : Nat} {ink : List (Nat × Char)} (atStart : Bool)
    (flush : ∀ mark ∈ ink, width * mark.1 = 0) : layOut width atStart ink = ink.map Prod.snd := by
  induction ink generalizing atStart with
  | nil => rfl
  | cons mark rest ih =>
    obtain ⟨level, c⟩ := mark
    have here : width * level = 0 := flush (level, c) List.mem_cons_self
    have later := fun atStart => ih atStart fun mark mem => flush mark (List.mem_cons_of_mem _ mem)
    by_cases feed : c = '\n' <;> by_cases start : atStart = true <;>
      simp [layOut, feed, start, here, later]

/-- Laid-out ink is its lines, of which the first may have begun before. -/
theorem layOut_eq (width : Nat) (atStart : Bool) (ink : List (Nat × Char)) :
    ∃ first rest, ink.splitOnP (·.2 == '\n') = first :: rest ∧
      String.ofList (layOut width atStart ink) =
        "\n".intercalate ((Line.ofInk first).renderFrom width atStart ::
          (rest.map Line.ofInk).map (Line.render width)) := by
  induction ink generalizing atStart with
  | nil =>
    refine ⟨[], [], rfl, ?_⟩
    cases atStart <;> simp [layOut, Line.renderFrom, Line.render, Line.ofInk]
  | cons mark ink ih =>
    obtain ⟨level, c⟩ := mark
    by_cases feed : c = '\n'
    · obtain ⟨first, rest, split, text⟩ := ih true
      refine ⟨[], first :: rest, ?_, ?_⟩
      · rw [List.splitOnP_cons_eq_if_modifyHead, if_pos (by simpa using feed), split]
      · have blank : (Line.ofInk []).renderFrom width atStart = "" := by
          cases atStart <;> simp [Line.renderFrom, Line.render, Line.ofInk]
        have head : String.ofList (layOut width atStart ((level, c) :: ink)) =
            "\n" ++ String.ofList (layOut width true ink) := by
          simp [layOut, feed, String.ofList_cons]
        rw [head, text, blank, List.map_cons, List.map_cons, String.intercalate_cons_cons]
        simp [Line.renderFrom]
    · obtain ⟨first, rest, split, text⟩ := ih false
      refine ⟨(level, c) :: first, rest, ?_, ?_⟩
      · rw [List.splitOnP_cons_eq_if_modifyHead, if_neg (by simpa using feed), split]
        rfl
      · -- The character stands in front of the rest of its line, behind the
        -- indentation if it is the first.
        let front := (if atStart then List.replicate (width * level) ' ' else []) ++ [c]
        have head : String.ofList (layOut width atStart ((level, c) :: ink)) =
            String.ofList front ++ String.ofList (layOut width false ink) := by
          rw [← String.ofList_append]
          cases atStart <;> simp [layOut, feed, front]
        have begun : (Line.ofInk ((level, c) :: first)).renderFrom width atStart =
            String.ofList front ++ (Line.ofInk first).renderFrom width false := by
          cases atStart with
          | false => simp [Line.renderFrom, Line.ofInk, front]
          | true =>
            have inked : (Line.ofInk ((level, c) :: first)).text ≠ "" := by simp [Line.ofInk]
            rw [Line.renderFrom, if_pos rfl, Line.render, if_neg inked]
            simp only [Line.ofInk, Line.renderFrom, front, Bool.false_eq_true, if_false, if_true]
            rw [← String.ofList_append, ← String.ofList_append]
            simp
        rw [head, text, begun, String.intercalate_cons_append]

namespace Page

/-- The text and the position after strokes were drawn on a page. -/
theorem draw_eq (page : Page) (strokes : List Stroke) :
    page.draw strokes =
      { page with
        text := page.text ++
          String.ofList (layOut page.width page.atLineStart (Stroke.ink strokes))
        atLineStart := endsAtLineStart page.atLineStart ((Stroke.ink strokes).map Prod.snd) } := by
  induction strokes generalizing page with
  | nil => simp [draw, Stroke.ink, layOut, endsAtLineStart]
  | cons stroke rest ih =>
    have first : (stroke.text.map (stroke.level, ·)).map Prod.snd = stroke.text := by
      rw [List.map_map]
      exact List.map_id _
    have ink : Stroke.ink (stroke :: rest) =
        stroke.text.map (stroke.level, ·) ++ Stroke.ink rest := rfl
    show (page.put stroke.level stroke.text).draw rest = _
    rw [ih, ink, layOut_append, List.map_append, endsAtLineStart_append, first, layOut_text]
    simp [put, pad, String.append_assoc, String.ofList_append]

/-- **A page shows the lines of the strokes that were drawn on it.** -/
theorem text_draw (width : Nat) (strokes : List Stroke) :
    (draw { width } strokes).text = Line.renderAll width (Line.ofStrokes strokes) := by
  obtain ⟨first, rest, split, text⟩ := layOut_eq width true (Stroke.ink strokes)
  rw [draw_eq]
  simp only [String.empty_append]
  rw [text, Line.renderAll, Line.ofStrokes, split]
  rfl

/-- Strokes that no indentation applies to are shown as they are. -/
theorem text_draw_flush {width : Nat} {strokes : List Stroke}
    (flush : ∀ stroke ∈ strokes, width * stroke.level = 0) :
    (draw { width } strokes).text = String.ofList (strokes.flatMap Stroke.text) := by
  have marks : ∀ mark ∈ Stroke.ink strokes, width * mark.1 = 0 := by
    intro mark mem
    obtain ⟨stroke, drawn, here⟩ := List.mem_flatMap.mp mem
    obtain ⟨c, -, rfl⟩ := List.mem_map.mp here
    exact flush stroke drawn
  rw [draw_eq]
  simp only [String.empty_append]
  rw [layOut_flush true marks, Stroke.ink, List.map_flatMap]
  simp [Function.comp_def]

end Page

/-! ### Line ends -/

theorem mem_of_mem_splitOnP {α : Type} {p : α → Bool} {items piece : List α}
    (mem : piece ∈ items.splitOnP p) : ∀ item ∈ piece, item ∈ items ∧ p item = false := by
  induction items generalizing piece with
  | nil =>
    rw [List.splitOnP_nil, List.mem_singleton] at mem
    subst mem
    exact fun item mem => absurd mem List.not_mem_nil
  | cons first items ih =>
    have weaken : ∀ {piece}, piece ∈ items.splitOnP p →
        ∀ item ∈ piece, item ∈ first :: items ∧ p item = false := fun here item mem =>
      ⟨List.mem_cons_of_mem _ (ih here item mem).1, (ih here item mem).2⟩
    rw [List.splitOnP_cons_eq_if_modifyHead] at mem
    split at mem
    · rcases List.mem_cons.mp mem with rfl | later
      · exact fun item mem => absurd mem List.not_mem_nil
      · exact weaken later
    · rename_i kept
      obtain ⟨head, rest, split⟩ := List.exists_cons_of_ne_nil (List.splitOnP_ne_nil p items)
      rw [split, List.modifyHead_cons] at mem
      rcases List.mem_cons.mp mem with rfl | later
      · intro item mem
        rcases List.mem_cons.mp mem with rfl | inside
        · exact ⟨List.mem_cons_self, by simpa using kept⟩
        · exact weaken (split ▸ List.mem_cons_self) item inside
      · exact weaken (split ▸ List.mem_cons_of_mem _ later)

/-- **No line has a line end inside.** -/
theorem Line.unbroken_of_mem_ofStrokes {strokes : List Stroke} {line : Line}
    (mem : line ∈ ofStrokes strokes) : '\r' ∉ line.text.toList ∧ '\n' ∉ line.text.toList := by
  obtain ⟨piece, here, rfl⟩ := List.mem_map.mp mem
  have inside := mem_of_mem_splitOnP here
  simp only [ofInk, String.toList_ofList, List.mem_map, not_exists, not_and]
  constructor
  · rintro ⟨level, c⟩ mark rfl
    obtain ⟨stroke, -, drawn⟩ := List.mem_flatMap.mp (inside _ mark).1
    obtain ⟨c, written, same⟩ := List.mem_map.mp drawn
    rw [Prod.mk.injEq] at same
    exact stroke.unified (same.2 ▸ written)
  · rintro ⟨level, c⟩ mark rfl
    have := (inside _ mark).2
    simp at this

theorem unifyLineEnds_cons {c : Char} (other : c ≠ '\r') (rest : List Char) :
    unifyLineEnds (c :: rest) = c :: unifyLineEnds rest := by
  rw [unifyLineEnds]
  · exact fun _ same _ => other same
  · exact other

theorem unifyLineEnds_return {rest : List Char} (alone : rest.head? ≠ some '\n') :
    unifyLineEnds ('\r' :: rest) = '\n' :: unifyLineEnds rest := by
  rw [unifyLineEnds]
  rintro _ rfl
  exact alone rfl

/-- **A text may be cut anywhere** but between a carriage return and the line feed
that belongs to it. -/
theorem unifyLineEnds_append {first second : List Char}
    (apart : first.getLast? = some '\r' → second.head? ≠ some '\n') :
    unifyLineEnds (first ++ second) = unifyLineEnds first ++ unifyLineEnds second := by
  fun_induction unifyLineEnds first with
  | case1 => rfl
  | case2 rest ih =>
    have later := ih fun last => apart (by simp [List.getLast?_cons, last])
    rw [List.cons_append, List.cons_append, unifyLineEnds, later, List.cons_append]
  | case3 rest noFeed ih =>
    have later := ih fun last => apart (by simp [List.getLast?_cons, last])
    have alone : (rest ++ second).head? ≠ some '\n' := by
      cases rest with
      | nil => exact apart rfl
      | cons c rest =>
        intro feed
        rw [List.cons_append, List.head?_cons, Option.some.injEq] at feed
        exact noFeed rest (by rw [feed])
    rw [List.cons_append, unifyLineEnds_return alone, later, List.cons_append]
  | case4 c rest _ other ih =>
    have later := ih fun last => apart (by simp [List.getLast?_cons, last])
    rw [List.cons_append, unifyLineEnds_cons other, later, List.cons_append]

end Bindery.Layout
