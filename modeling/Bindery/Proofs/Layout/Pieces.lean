/-
Texts that are written in pieces.

Writers cut their texts as they like, and a page does not show where: its position
tells the next piece whether it starts a line, as the whole text would. Only where a
carriage return is cut off from its line feed do the two become two line ends. The
main statements are

* `Page.write_append` and `Page.write_append_cut`, a text in two pieces, cut between
  two characters or inside a line end;
* `Page.Kept.draw`, that a page has no carriage return and tells its position
  rightly, whatever is drawn on it;
* `Page.write_pieces`, all of this for writing.
-/

import Bindery.Proofs.Layout.Lines

namespace Bindery.Layout

/-! ### Cutting a text -/

theorem unifyLineEnds_concat_return (front : List Char) :
    unifyLineEnds (front ++ ['\r']) = unifyLineEnds front ++ ['\n'] :=
  unifyLineEnds_append fun _ => by simp

/-- Where a carriage return is followed by its line feed, the line end belongs to the
text in front of the cut. -/
theorem unifyLineEnds_append_feed {first : List Char} (last : first.getLast? = some '\r')
    (rest : List Char) :
    unifyLineEnds (first ++ '\n' :: rest) = unifyLineEnds first ++ unifyLineEnds rest := by
  obtain ⟨front, rfl⟩ := List.getLast?_eq_some_iff.mp last
  have whole : unifyLineEnds (front ++ '\r' :: '\n' :: rest) =
      unifyLineEnds front ++ '\n' :: unifyLineEnds rest :=
    unifyLineEnds_append fun _ => by simp
  rw [unifyLineEnds_concat_return, List.append_assoc, List.append_assoc]
  exact whole

namespace Page

variable {page : Page} {first second : String}

/-- **A text may be written in two pieces**, unless the cut is inside a line end. -/
theorem write_append (page : Page) (level : Nat)
    (apart : first.toList.getLast? = some '\r' → second.toList.head? ≠ some '\n') :
    page.write level (first ++ second) = (page.write level first).write level second := by
  rw [write, String.toList_append, unifyLineEnds_append apart, put_append]
  rfl

theorem put_feed (start : page.atLineStart = true) (level : Nat) :
    page.put level ['\n'] = { page with text := page.text ++ "\n" } := by
  simp [put, indentLines, endsAtLineStart, start]

/-- A text that leaves off at a carriage return leaves the page at the start of a
line. -/
theorem atLineStart_write_return (page : Page) (level : Nat)
    (last : first.toList.getLast? = some '\r') :
    (page.write level first).atLineStart = true := by
  obtain ⟨front, text⟩ := List.getLast?_eq_some_iff.mp last
  rw [write, text, unifyLineEnds_concat_return, put_append]
  rfl

/-- **A cut inside a line end makes two of it.** All else is the same. -/
theorem write_append_cut (page : Page) (level : Nat)
    (last : first.toList.getLast? = some '\r') (feed : second.toList.head? = some '\n') :
    ∃ rest, (page.write level (first ++ second)).text = (page.write level first).text ++ rest ∧
      (page.write level first).write level second =
        { page.write level (first ++ second) with
          text := (page.write level first).text ++ "\n" ++ rest } := by
  obtain ⟨rest, text⟩ := List.head?_eq_some_iff.mp feed
  let cut := page.write level first
  have start : cut.atLineStart = true := page.atLineStart_write_return level last
  have once : page.write level (first ++ second) = cut.put level (unifyLineEnds rest) := by
    rw [write, String.toList_append, text, unifyLineEnds_append_feed last, put_append]
    rfl
  have twice : cut.write level second =
      (cut.put level ['\n']).put level (unifyLineEnds rest) := by
    rw [write, text, unifyLineEnds_cons (by decide), ← put_append]
    rfl
  rw [once, twice, put_feed start]
  exact ⟨_, rfl, rfl⟩

end Page

/-! ### What all pages have in common -/

/-- A text leaves off at the start of a line if it is empty or its last character is a
line feed. -/
theorem endsAtLineStart_iff (text : List Char) :
    endsAtLineStart true text = true ↔ text = [] ∨ text.getLast? = some '\n' := by
  rcases List.eq_nil_or_concat text with rfl | ⟨front, last, rfl⟩
  · simp [endsAtLineStart]
  · rw [List.concat_eq_append, endsAtLineStart_append]
    simp [endsAtLineStart]

/-- Indentation does not change where a text leaves off. -/
theorem endsAtLineStart_indentLines (pad : List Char) (atStart : Bool) (text : List Char) :
    endsAtLineStart atStart (indentLines pad atStart text) = endsAtLineStart atStart text := by
  induction text generalizing atStart with
  | nil => rfl
  | cons c rest ih =>
    by_cases feed : c = '\n' <;> by_cases start : atStart = true <;>
      simp [indentLines, endsAtLineStart, endsAtLineStart_append, feed, start, ih]

/-- Indentation adds nothing but itself. -/
theorem indentLines_subset (pad : List Char) (atStart : Bool) (text : List Char) :
    indentLines pad atStart text ⊆ pad ++ text := by
  induction text generalizing atStart with
  | nil => simp [indentLines]
  | cons c rest ih =>
    have later (atStart : Bool) : indentLines pad atStart rest ⊆ pad ++ c :: rest :=
      List.Subset.trans (ih atStart) (by simp)
    rw [indentLines]
    split
    · simpa using later true
    · split
      · simpa using later false
      · simpa using later false

namespace Page

/-- A page has no carriage return, and its position is where its text leaves off. -/
structure Kept (page : Page) : Prop where
  unified : '\r' ∉ page.text.toList
  position : page.atLineStart = endsAtLineStart true page.text.toList

theorem kept_blank (width : Nat) : Kept { width } where
  unified := by simp
  position := rfl

namespace Kept

variable {page : Page}

/-- Putting one more text keeps the page so. -/
theorem put (kept : page.Kept) (level : Nat) {text : List Char} (unified : '\r' ∉ text) :
    (page.put level text).Kept where
  unified := by
    have spaces : '\r' ∉ page.pad level := fun mem => by simp [pad] at mem
    have added : '\r' ∉ indentLines (page.pad level) page.atLineStart text := fun mem =>
      (List.mem_append.mp (indentLines_subset _ _ _ mem)).elim spaces unified
    simpa [Page.put] using ⟨kept.unified, added⟩
  position := by
    simp only [Page.put, String.toList_append, String.toList_ofList, endsAtLineStart_append]
    rw [← kept.position, endsAtLineStart_indentLines]

/-- **A page stays so, whatever is drawn on it.** -/
theorem draw (kept : page.Kept) (strokes : List Stroke) : (page.draw strokes).Kept := by
  induction strokes generalizing page with
  | nil => exact kept
  | cons stroke rest ih => exact ih (kept.put stroke.level stroke.unified)

theorem atLineStart_iff (kept : page.Kept) :
    page.atLineStart = true ↔ page.text = "" ∨ page.text.toList.getLast? = some '\n' := by
  rw [kept.position, endsAtLineStart_iff, String.toList_eq_nil_iff]

end Kept

/-- The text of a page grows at its end only. -/
theorem text_prefix_draw (page : Page) (strokes : List Stroke) :
    page.text.toList <+: (page.draw strokes).text.toList := by
  induction strokes generalizing page with
  | nil => exact List.prefix_rfl
  | cons stroke rest ih =>
    refine List.IsPrefix.trans ?_ (ih (page.put stroke.level stroke.text))
    simp [put]

end Page

/-! ### Writing -/

/-- A text that is written at a level, and whether its line is ended. -/
structure Writing where
  level : Nat
  text : String
  ended : Bool := false

namespace Writing

/-- Writes it on a page. -/
def onto (writing : Writing) (page : Page) : Page :=
  if writing.ended then page.writeLine writing.level writing.text
  else page.write writing.level writing.text

/-- The stroke that it draws. -/
def stroke (writing : Writing) : Stroke :=
  if writing.ended then .line writing.level writing.text else .write writing.level writing.text

theorem onto_eq_draw (writing : Writing) (page : Page) :
    writing.onto page = page.draw [writing.stroke] := by
  unfold onto stroke
  split
  · exact page.writeLine_eq_draw writing.level writing.text
  · rfl

end Writing

namespace Page

/-- Writes one text after the other. -/
def writeAll (page : Page) (writings : List Writing) : Page :=
  writings.foldl (fun page writing => writing.onto page) page

theorem writeAll_eq_draw (page : Page) (writings : List Writing) :
    page.writeAll writings = page.draw (writings.map Writing.stroke) := by
  induction writings generalizing page with
  | nil => rfl
  | cons writing rest ih =>
    show (writing.onto page).writeAll rest = (page.draw [writing.stroke]).draw _
    rw [ih, writing.onto_eq_draw]

/-- **Writing in pieces is writing at once.** On every page and at every level, a text
in two pieces leaves the page that the whole text leaves, unless the first piece ends
in a carriage return and the second begins with a line feed; then there is one line
feed more, where the text was cut, and no other difference. Writing adds to the end of
a page. Whatever is written on a page that was blank, at whatever levels, no carriage
return is on it, and it is at the start of a line if and only if it has no text or its
text ends in a line feed. -/
theorem write_pieces :
    (∀ (page : Page) (level : Nat) (first second : String),
      (¬(first.toList.getLast? = some '\r' ∧ second.toList.head? = some '\n') →
        page.write level (first ++ second) = (page.write level first).write level second) ∧
      (first.toList.getLast? = some '\r' → second.toList.head? = some '\n' → ∃ rest,
        (page.write level (first ++ second)).text = (page.write level first).text ++ rest ∧
        (page.write level first).write level second =
          { page.write level (first ++ second) with
            text := (page.write level first).text ++ "\n" ++ rest })) ∧
    (∀ (page : Page) (writings : List Writing),
      page.text.toList <+: (page.writeAll writings).text.toList) ∧
    ∀ (width : Nat) (writings : List Writing),
      let page := writeAll { width } writings
      '\r' ∉ page.text.toList ∧
      (page.atLineStart = true ↔ page.text = "" ∨ page.text.toList.getLast? = some '\n') := by
  refine ⟨fun page level first second => ⟨fun apart => ?_, page.write_append_cut level⟩, ?_, ?_⟩
  · exact page.write_append level fun last feed => apart ⟨last, feed⟩
  · intro page writings
    rw [writeAll_eq_draw]
    exact page.text_prefix_draw _
  · intro width writings page
    have kept : page.Kept := by
      have drawn := (kept_blank width).draw (writings.map Writing.stroke)
      rwa [← writeAll_eq_draw] at drawn
    exact ⟨kept.unified, kept.atLineStart_iff⟩

end Page

end Bindery.Layout
