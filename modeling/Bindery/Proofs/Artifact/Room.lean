/-
Artifacts where texts have a limited size.

An artifact that fits is rendered as if there were no limit, and so is a library whose
artifacts all fit. How wide levels may be is known exactly: the page of an artifact
with a plain script takes one width for each level that shows on it, besides what its
lines take without their indentation. The main statements are

* `Artifact.Fits.throughout`, that what fits in the end fits at any time;
* `Artifact.pageSize_of_plain`, the size of a page under some width, and
  `Artifact.fits_iff_of_plain`, how wide a level may be;
* `Collection.renderWithin_of_fits` and `Library.convertWithin_of_fits`.
-/

import Bindery.Proofs.Header.Completion
import Bindery.Proofs.Layout.Extent

namespace Bindery

open Bindery.Layout

variable {γ : Type} [ContentGenerator γ]

/-! ### One artifact -/

namespace Artifact

variable {artifact : Artifact γ} {aggregate : Aggregate γ} {width room : Nat}

/-- The page of an artifact that fits is never larger than there is room for,
whichever acts have been done. -/
theorem Fits.throughout (fits : artifact.Fits aggregate width room) {before after : List Act}
    (acts : (artifact.script aggregate).acts 0 (Family.root width) = before ++ after) :
    ((Family.root width).replay before).page.text.utf8ByteSize ≤ room :=
  (Script.utf8ByteSize_run_prefix _ width acts).trans fits

theorem renderWithin_of_fits (fits : artifact.Fits aggregate width room) (defaultMark : Bool) :
    artifact.renderWithin aggregate width room defaultMark =
      artifact.render aggregate width defaultMark :=
  if_pos fits

/-- The lines of an artifact with a plain script. -/
def lines (artifact : Artifact γ) (aggregate : Aggregate γ) : List Line :=
  Line.ofStrokes ((artifact.script aggregate).strokes 0)

/-- **The page of an artifact takes one width for each level that shows on it**,
besides what its lines take without their indentation. -/
theorem pageSize_of_plain (plain : (artifact.generate aggregate).Plain) (width : Nat) :
    artifact.pageSize aggregate width =
      Line.size (artifact.lines aggregate) + width * Line.depth (artifact.lines aggregate) := by
  rw [pageSize, ((plain_script plain).run_root width).2, Page.text_draw]
  exact Line.utf8ByteSize_renderAll width _

/-- How wide a level may be. -/
theorem fits_iff_of_plain (plain : (artifact.generate aggregate).Plain) :
    artifact.Fits aggregate width room ↔
      Line.size (artifact.lines aggregate) + width * Line.depth (artifact.lines aggregate) ≤
        room := by
  rw [← pageSize_of_plain plain]
  rfl

end Artifact

/-! ### All artifacts -/

variable {collection : Collection γ} {target : Target γ} {options : Options} {room : Nat}

/-- A collection whose artifacts all fit is rendered as if there were no limit. -/
theorem Collection.renderWithin_of_fits
    (fits : ∀ artifact ∈ collection.manifest,
      artifact.Fits collection.aggregate options.indentWidth room) :
    collection.renderWithin target options room = collection.render target options := by
  rw [Collection.renderWithin, Collection.render, Collection.renderBy, Collection.renderBy]
  refine congrArg gather (List.map_congr_left fun artifact mem => ?_)
  rw [Artifact.renderWithin_of_fits (fits artifact mem)]

/-- All artifacts of a library fit. -/
def Library.FitsWithin (library : Library) (target : Target γ) (options : Options)
    (room : Nat) : Prop :=
  ∀ collection, library.collect target options = .ok collection →
    ∀ artifact ∈ collection.manifest,
      artifact.Fits collection.aggregate options.indentWidth room

theorem Library.fitsWithin_iff {library : Library} :
    library.FitsWithin target options room ↔
      ∀ artifact ∈ ((library.aggregate options).collect target).manifest,
        artifact.Fits ((library.aggregate options).collect target).aggregate
          options.indentWidth room := by
  rw [FitsWithin, library.collect_eq]
  simp

/-- A library whose artifacts all fit is converted as if there were no limit. -/
theorem Library.convertWithin_of_fits {library : Library}
    (fits : library.FitsWithin target options room) :
    library.convertWithin target options room = library.convert target options := by
  have rendered : ((library.aggregate options).collect target).renderWithin target options room =
      ((library.aggregate options).collect target).render target options :=
    Collection.renderWithin_of_fits (fitsWithin_iff.mp fits)
  rw [Library.convertWithin, Library.convert, Library.convertBy_eq, Library.convertBy_eq, rendered]

end Bindery
