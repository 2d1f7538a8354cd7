/-
How large a page is.

The lines of a page do not know how many spaces a level has, and a page is larger on
account of its width by the spaces in front of its lines and by nothing else. A page
only grows, so that its size in the end bounds its size at any time. The main
statements are

* `Line.utf8ByteSize_renderAll`, the size of lines that are shown under some width;
* `Script.utf8ByteSize_run_prefix`, that a page is never larger than in the end.
-/

import Bindery.Proofs.Layout.Disposal
import Bindery.Proofs.Layout.Pieces

namespace Bindery.Layout

variable {ε : Type}

/-! ### The size of lines -/

theorem utf8ByteSize_spaces (n : Nat) :
    (String.ofList (List.replicate n ' ')).utf8ByteSize = n := by
  induction n with
  | zero => rfl
  | succ n ih =>
    have space : (String.singleton ' ').utf8ByteSize = 1 := by decide
    rw [List.replicate_succ, String.ofList_cons, String.utf8ByteSize_append, ih, space,
      Nat.add_comm]

namespace Line

/-- The size of some lines without their indentation, with the line ends between
them. -/
def size (lines : List Line) : Nat :=
  (lines.map fun line => line.text.utf8ByteSize).sum + (lines.length - 1)

/-- The levels that show in front of some lines: blank lines are not indented. -/
def depth (lines : List Line) : Nat :=
  (lines.map fun line => if line.text = "" then 0 else line.level).sum

theorem utf8ByteSize_render (width : Nat) (line : Line) :
    (line.render width).utf8ByteSize =
      line.text.utf8ByteSize + width * (if line.text = "" then 0 else line.level) := by
  by_cases blank : line.text = ""
  · simp [render, blank]
  · simp only [render, blank, if_false, String.utf8ByteSize_append, utf8ByteSize_spaces]
    exact Nat.add_comm _ _

/-- **Lines take one width for each level that shows in front of them**, besides what
they take without their indentation. -/
theorem utf8ByteSize_renderAll (width : Nat) (lines : List Line) :
    (renderAll width lines).utf8ByteSize = size lines + width * depth lines := by
  induction lines with
  | nil => rfl
  | cons line rest ih =>
    cases rest with
    | nil => simpa [renderAll, size, depth] using utf8ByteSize_render width line
    | cons next rest =>
      have shown : (renderAll width (line :: next :: rest)).utf8ByteSize =
          (line.render width).utf8ByteSize + 1 + (renderAll width (next :: rest)).utf8ByteSize := by
        have feed : "\n".utf8ByteSize = 1 := by decide
        simp [renderAll, String.intercalate_cons_cons, String.utf8ByteSize_append, feed]
      have sizes : size (line :: next :: rest) =
          line.text.utf8ByteSize + 1 + size (next :: rest) := by
        simp [size]
        omega
      have depths : depth (line :: next :: rest) =
          (if line.text = "" then 0 else line.level) + depth (next :: rest) := rfl
      rw [shown, utf8ByteSize_render, ih, sizes, depths, Nat.mul_add]
      omega

end Line

/-! ### Growing -/

/-- The text of a page grows at its end only, whatever acts there are. -/
theorem Family.Chained.text_prefix_replay {family : Family} {chain : List FrameId}
    (chained : family.Chained chain) (acts : List Act) :
    family.page.text.toList <+: (family.replay acts).page.text.toList := by
  rw [chained.page_replay]
  exact family.page.text_prefix_draw _

theorem utf8ByteSize_le_of_prefix {first second : String} (grown : first.toList <+: second.toList) :
    first.utf8ByteSize ≤ second.utf8ByteSize := by
  obtain ⟨rest, whole⟩ := grown
  have parts : second = first ++ String.ofList rest := by
    rw [← String.toList_inj, String.toList_append, String.toList_ofList, whole]
  rw [parts, String.utf8ByteSize_append]
  exact Nat.le_add_right _ _

/-- **A page is never larger than in the end.** After any of the acts of a script it
takes no more than when the script is through and its root is closed. -/
theorem Script.utf8ByteSize_run_prefix (script : Script ε) (width : Nat) {before after : List Act}
    (acts : script.acts 0 (Family.root width) = before ++ after) :
    ((Family.root width).replay before).page.text.utf8ByteSize ≤
      ((script.run 0 (Family.root width)).family.close 0).page.text.utf8ByteSize := by
  have closed : (script.run 0 (Family.root width)).family.close 0 =
      ((Family.root width).replay before).replay (after ++ [.close 0]) := by
    rw [script.run_family, acts, Family.replay_append, Family.replay_append]
    rfl
  obtain ⟨chain, chained⟩ := (Family.chained_root width).replay before
  rw [closed]
  exact utf8ByteSize_le_of_prefix (chained.text_prefix_replay _)

end Bindery.Layout
