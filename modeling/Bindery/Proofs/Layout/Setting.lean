/-
What scripts set.

A script sets lines (`Script.Sets`) if it does not fail and writes them one after
the other, each at its level and to its end, in whatever pieces. The texts that
are set are unbroken: there is no line end inside. The main statements are

* `Script.Sets.append`, `Script.Sets.sequence` and `Script.Sets.block`, how lines
  are put together;
* `Script.Sets.text_draw`, that a page shows the lines that a script sets.
-/

import Bindery.Proofs.Layout.Lines
import Bindery.Proofs.Layout.Plain
import Mathlib.Data.List.Forall2

namespace Bindery.Layout

/-! ### Unbroken texts -/

/-- There is no line end in the text. -/
def Unbroken (text : List Char) : Prop :=
  ∀ c ∈ text, c ≠ '\r' ∧ c ≠ '\n'

instance (text : List Char) : Decidable (Unbroken text) :=
  List.decidableBAll (fun c => c ≠ '\r' ∧ c ≠ '\n') text

theorem unbroken_iff {text : List Char} : Unbroken text ↔ '\r' ∉ text ∧ '\n' ∉ text := by
  constructor
  · intro unbroken
    exact ⟨fun mem => (unbroken _ mem).1 rfl, fun mem => (unbroken _ mem).2 rfl⟩
  · rintro ⟨noReturn, noFeed⟩ c mem
    exact ⟨fun same => noReturn (same ▸ mem), fun same => noFeed (same ▸ mem)⟩

namespace Unbroken

variable {text text' : List Char}

theorem append (first : Unbroken text) (second : Unbroken text') : Unbroken (text ++ text') :=
  List.forall_mem_append.mpr ⟨first, second⟩

theorem mono (unbroken : Unbroken text) (within : text' ⊆ text) : Unbroken text' :=
  fun c mem => unbroken c (within mem)

theorem unifyLineEnds_eq (unbroken : Unbroken text) : unifyLineEnds text = text :=
  unifyLineEnds_eq_self (unbroken_iff.mp unbroken).1

theorem between {front text back : String} (unbroken : Unbroken text.toList)
    (before : Unbroken front.toList) (behind : Unbroken back.toList) :
    Unbroken (front ++ text ++ back).toList := by
  rw [String.toList_append, String.toList_append]
  exact (before.append unbroken).append behind

/-- Text that continues a line stands there as it is. -/
theorem layOut_false (unbroken : Unbroken text) (width level : Nat) :
    layOut width false (text.map (level, ·)) = text := by
  induction text with
  | nil => rfl
  | cons c rest ih =>
    obtain ⟨here, later⟩ := List.forall_mem_cons.mp unbroken
    simp [layOut, here.2, ih later]

end Unbroken

/-! ### Lines that are ended -/

/-- The ink of a line and of its end. -/
def Line.ink (line : Line) : List (Nat × Char) :=
  (line.text.toList ++ ['\n']).map (line.level, ·)

/-- Lines as they are shown, each of them ended. -/
def Line.renderEnded (width : Nat) (lines : List Line) : String :=
  String.join (lines.map fun line => line.render width ++ "\n")

/-- Behind an unbroken line that is ended the next one starts. -/
theorem Line.layOut_ink (width : Nat) {line : Line} (unbroken : Unbroken line.text.toList)
    (later : List (Nat × Char)) :
    layOut width true (line.ink ++ later) =
      (line.render width ++ "\n").toList ++ layOut width true later := by
  obtain ⟨level, text⟩ := line
  cases chars : text.toList with
  | nil =>
    have blank : text = "" := String.toList_eq_nil_iff.mp chars
    simp [ink, render, blank, layOut]
  | cons c rest =>
    have inked : text ≠ "" := by
      rintro rfl
      cases chars
    rw [chars] at unbroken
    obtain ⟨here, behind⟩ := List.forall_mem_cons.mp unbroken
    -- The first character brings the indentation, and the others continue its line.
    have continued : layOut width false (rest.map (level, ·) ++ (level, '\n') :: later) =
        rest ++ '\n' :: layOut width true later := by
      rw [layOut_append, Unbroken.layOut_false behind]
      simp [layOut]
    simp [ink, render, inked, chars, layOut, here.2, continued]

theorem Line.layOut_flatMap_ink (width : Nat) {lines : List Line}
    (unbroken : ∀ line ∈ lines, Unbroken line.text.toList) :
    String.ofList (layOut width true (lines.flatMap ink)) = renderEnded width lines := by
  induction lines with
  | nil => rfl
  | cons line rest ih =>
    obtain ⟨here, later⟩ := List.forall_mem_cons.mp unbroken
    rw [List.flatMap_cons, layOut_ink width here, String.ofList_append, ih later,
      String.ofList_toList, renderEnded, renderEnded, List.map_cons, String.join_cons]

/-! ### Scripts that set lines -/

namespace Script

variable {ε : Type} {level : Nat} {script script' : Script ε} {shown shown' : List Line}

/-- From a level on the script does not fail, and writes whole lines that are
unbroken. -/
structure Sets (level : Nat) (script : Script ε) (lines : List Line) : Prop where
  ok : script.failure? = none
  ink : Stroke.ink (script.strokes level) = lines.flatMap Line.ink
  unbroken : ∀ line ∈ lines, Unbroken line.text.toList

namespace Sets

theorem done : Sets level (.done : Script ε) [] :=
  ⟨rfl, rfl, by simp⟩

theorem append (first : script.Sets level shown) (second : script'.Sets level shown') :
    (script ++ script').Sets level (shown ++ shown') where
  ok := by rw [failure?_append, first.ok, second.ok]; rfl
  ink := by
    rw [strokes_append_of_ok first.ok, List.flatMap_append, ← first.ink, ← second.ink,
      Stroke.ink, List.flatMap_append]
    rfl
  unbroken := List.forall_mem_append.mpr ⟨first.unbroken, second.unbroken⟩

theorem line {text : String} (unbroken : Unbroken text.toList) :
    Sets level (.line text .done : Script ε) [⟨level, text⟩] where
  ok := rfl
  ink := by
    have strokes : (Script.line text .done : Script ε).strokes level = [.line level text] := rfl
    simp [strokes, Stroke.ink, Stroke.line, Line.ink, unbroken.unifyLineEnds_eq]
  unbroken := by simpa using unbroken

theorem texts_line {pieces : List String} {last : String}
    (unbroken : ∀ piece ∈ pieces, Unbroken piece.toList) (ends : Unbroken last.toList) :
    Sets level (texts pieces ++ .line last .done : Script ε)
      [⟨level, String.join pieces ++ last⟩] := by
  induction pieces with
  | nil =>
    rw [String.join_nil, String.empty_append]
    exact line ends
  | cons piece rest ih =>
    obtain ⟨here, later⟩ := List.forall_mem_cons.mp unbroken
    obtain ⟨ok, ink, whole⟩ := ih later
    refine ⟨ok, ?_, ?_⟩
    · have strokes : (texts (piece :: rest) ++ .line last .done : Script ε).strokes level =
          .write level piece :: (texts rest ++ .line last .done : Script ε).strokes level := rfl
      rw [strokes, Stroke.ink, List.flatMap_cons, ← Stroke.ink, ink]
      simp [Stroke.write, Line.ink, here.unifyLineEnds_eq]
    · simp only [List.mem_singleton, forall_eq] at whole ⊢
      rw [String.join_cons, String.append_assoc, String.toList_append]
      exact here.append whole

/-- A line that is written in pieces. -/
theorem pieces {text : String} (pieces : List String) (last : String)
    (unbroken : ∀ piece ∈ pieces, Unbroken piece.toList) (ends : Unbroken last.toList)
    (shape : script = texts pieces ++ .line last .done)
    (whole : String.join pieces ++ last = text) :
    script.Sets level [⟨level, text⟩] := by
  rw [shape, ← whole]
  exact texts_line unbroken ends

theorem lines {texts : List String} (unbroken : ∀ text ∈ texts, Unbroken text.toList) :
    Sets level (.lines texts : Script ε) (texts.map (Line.mk level)) := by
  induction texts with
  | nil => exact done
  | cons text rest ih =>
    obtain ⟨here, later⟩ := List.forall_mem_cons.mp unbroken
    exact (line here).append (ih later)

/-- Scripts that set lines set all of them, one after the other. -/
theorem sequence {α : Type} {write : α → Script ε} {items : List α} {parts : List (List Line)}
    (each : List.Forall₂ (fun item part => (write item).Sets level part) items parts) :
    (Script.sequence (items.map write)).Sets level parts.flatten := by
  induction each with
  | nil => exact done
  | cons here _ ih => exact here.append ih

/-- Scripts that set one line each. -/
theorem each {α : Type} {write : α → Script ε} {items : List α} {texts : List String}
    (one : List.Forall₂ (fun item text => (write item).Sets level [⟨level, text⟩]) items texts) :
    (Script.sequence (items.map write)).Sets level (texts.map (Line.mk level)) := by
  induction one with
  | nil => exact done
  | cons here _ ih => exact here.append ih

/-- A block is set one level deeper, and its closing text is a line of its own. -/
theorem block {closing : String} (body : script.Sets (level + 1) shown)
    (unbroken : Unbroken closing.toList) :
    (Script.block (.indentWith closing true) script .done).Sets level
      (shown ++ [⟨level, closing⟩]) where
  ok := by rw [failure?, body.ok]; rfl
  ink := by
    have strokes : (Script.block (.indentWith closing true) script .done).strokes level =
        script.strokes (level + 1) ++ (Script.line closing .done : Script ε).strokes level := by
      simp only [Script.strokes, body.ok]
      exact List.append_nil _
    have ends := (line unbroken : (Script.line closing .done : Script ε).Sets level _).ink
    rw [strokes, Stroke.ink, List.flatMap_append, ← Stroke.ink, ← Stroke.ink, body.ink, ends,
      List.flatMap_append]
  unbroken := List.forall_mem_append.mpr ⟨body.unbroken, by simpa using unbroken⟩

/-- **A page shows the lines that a script sets**, each indented by its level. -/
theorem text_draw (sets : script.Sets 0 shown) (width : Nat) :
    (Page.draw { width } (script.strokes 0)).text = Line.renderEnded width shown := by
  rw [Page.draw_eq, sets.ink]
  simp only [String.empty_append]
  exact Line.layOut_flatMap_ink width sets.unbroken

end Sets

end Script

end Bindery.Layout
