/-
What strokes spell.

Text reaches a page in many small pieces. Strokes spell a text (`Stroke.Spells`) if
together they show it with its line ends unified, although each of them was
unified alone: no piece is cut between a carriage return and its line feed. The
main statements are

* `Stroke.Spells.append` and `Stroke.Spells.flatMap`, how spelled texts are put
  together;
* `Stroke.Spells.text_draw`, that a page shows the text that its strokes spell;
* `unifyLineEnds_mark`, where a text may be cut.
-/

import Bindery.Proofs.Layout.Lines
import Mathlib.Data.List.Forall2

namespace Bindery.Layout

/-- Strokes at the margin that show a text with its line ends unified. The text
does not leave off at a carriage return, so that another may follow. -/
structure Stroke.Spells (strokes : List Stroke) (text : String) : Prop where
  margin : ∀ stroke ∈ strokes, stroke.level = 0
  shown : strokes.flatMap Stroke.text = unifyLineEnds text.toList
  complete : text.toList.getLast? ≠ some '\r'

namespace Stroke.Spells

variable {strokes strokes' : List Stroke} {text text' : String}

theorem nil : Spells [] "" where
  margin := by simp
  shown := rfl
  complete := by simp

theorem append (first : Spells strokes text) (second : Spells strokes' text') :
    Spells (strokes ++ strokes') (text ++ text') where
  margin stroke mem := (List.mem_append.mp mem).elim (first.margin stroke) (second.margin stroke)
  shown := by
    rw [List.flatMap_append, first.shown, second.shown, String.toList_append,
      unifyLineEnds_append fun last => absurd last first.complete]
  complete := by
    have complete := second.complete
    rw [String.toList_append, List.getLast?_append]
    cases last : text'.toList.getLast? with
    | none => exact first.complete
    | some c => rwa [last] at complete

/-- A line that has no line end of its own. -/
theorem line {text : String} (unbroken : '\r' ∉ text.toList) :
    Spells [.line 0 text] (text ++ "\n") where
  margin := by simp [Stroke.line]
  shown := by
    have unbroken' : '\r' ∉ (text ++ "\n").toList := by simpa using unbroken
    rw [unifyLineEnds_eq_self unbroken']
    simp [Stroke.line, unifyLineEnds_eq_self unbroken]
  complete := by simp

theorem lines {texts : List String} (unbroken : ∀ text ∈ texts, '\r' ∉ text.toList) :
    Spells (texts.map (Stroke.line 0)) (String.join (texts.map (· ++ "\n"))) := by
  induction texts with
  | nil => exact nil
  | cons text rest ih =>
    obtain ⟨here, later⟩ := List.forall_mem_cons.mp unbroken
    rw [List.map_cons, List.map_cons, String.join_cons]
    exact (line here).append (ih later)

/-- Parts that spell texts spell the whole, one text after the other. -/
theorem flatMap {α : Type} {part : α → List Stroke} {items : List α} {texts : List String}
    (each : List.Forall₂ (fun item text => Spells (part item) text) items texts) :
    Spells (items.flatMap part) (String.join texts) := by
  induction each with
  | nil => exact nil
  | cons here _ ih =>
    rw [List.flatMap_cons, String.join_cons]
    exact here.append ih

/-- **A page shows the text that its strokes spell**, whatever the width of its
levels. -/
theorem text_draw (spells : Spells strokes text) (width : Nat) :
    (Page.draw { width } strokes).text = String.ofList (unifyLineEnds text.toList) := by
  rw [Page.text_draw_flush fun stroke mem => by rw [spells.margin stroke mem, Nat.mul_zero],
    spells.shown]

end Stroke.Spells

/-- A piece in front of a mark, which neither begins with a line feed nor has a
carriage return, may be written by itself, and the mark as well. -/
theorem unifyLineEnds_mark (piece : String) {mark : String} (rest : String)
    (begins : mark.toList.head?.any (· ≠ '\n')) (unbroken : '\r' ∉ mark.toList) :
    unifyLineEnds (piece ++ (mark ++ rest)).toList =
      unifyLineEnds piece.toList ++ (mark.toList ++ unifyLineEnds rest.toList) := by
  have apart : (mark.toList ++ rest.toList).head? ≠ some '\n' := by
    cases head : mark.toList.head? with
    | none => simp [head] at begins
    | some c =>
      rw [List.head?_append, head]
      simpa [head] using begins
  have last : mark.toList.getLast? ≠ some '\r' := fun last =>
    unbroken (List.mem_of_getLast? last)
  rw [String.toList_append, String.toList_append, unifyLineEnds_append fun _ => apart,
    unifyLineEnds_append fun here => absurd here last, unifyLineEnds_eq_self unbroken]

end Bindery.Layout
