/-
What reaches a page.

A `Stroke` is a text that is written at a level, its line ends being line feeds.
`Family.strokes` lists the strokes of an act. They are read off the frames alone:
first the closing texts of the emitters that the act closes, the last emitter of
the chain first and of each emitter the innermost scope first, every text at the
level that is left when its scope has given its levels back; and then what the
act writes itself, at the level of its emitter. The main statements are

* `Family.Spine.page_closeChain`, the strokes of closing an emitter;
* `Family.Chained.page_act`, that an act draws its strokes on the page;
* `Session.page_perform`, that a session draws the strokes of its history.
-/

import Bindery.Proofs.Layout.Completion

namespace Bindery.Layout

variable {ε : Type}

/-! ### Strokes -/

/-- A text that is written at a level. Its line ends are line feeds. -/
structure Stroke where
  level : Nat
  text : List Char
  unified : '\r' ∉ text

/-- The stroke of a text. -/
def Stroke.write (level : Nat) (text : String) : Stroke :=
  ⟨level, unifyLineEnds text.toList, not_mem_unifyLineEnds _⟩

/-- The stroke of a text and of the end of its line. -/
def Stroke.line (level : Nat) (text : String) : Stroke :=
  ⟨level, unifyLineEnds text.toList ++ ['\n'], by simp [not_mem_unifyLineEnds]⟩

/-- The strokes of the closing text of a scope at a level. -/
def Scope.strokes (scope : Scope) (level : Nat) : List Stroke :=
  match scope.closing, scope.ownLine with
  | some closing, true => [.line level closing]
  | some closing, false => [.write level closing]
  | none, true => [.line level ""]
  | none, false => []

/-- The strokes of releasing scopes, innermost first: the closing text of each is
written at the level that is left when its levels are given back. -/
def Scope.releases (level : Nat) : List Scope → List Stroke
  | [] => []
  | scope :: outer =>
    scope.strokes (level - scope.levels) ++ releases (level - scope.levels) outer

/-- The strokes of closing an emitter that has no child. -/
def Frame.closings (frame : Frame) : List Stroke :=
  Scope.releases frame.level frame.scopes

/-- The strokes of releasing the innermost scope of an emitter. -/
def Frame.innermost (frame : Frame) : List Stroke :=
  match frame.scopes with
  | [] => []
  | scope :: _ => scope.strokes (frame.level - scope.levels)

namespace Page

/-- Draws strokes on a page, one after the other. -/
def draw (page : Page) (strokes : List Stroke) : Page :=
  strokes.foldl (fun page stroke => page.put stroke.level stroke.text) page

theorem draw_append (page : Page) (first second : List Stroke) :
    page.draw (first ++ second) = (page.draw first).draw second :=
  List.foldl_append

theorem writeLine_eq_draw (page : Page) (level : Nat) (text : String) :
    page.writeLine level text = page.draw [.line level text] :=
  (page.put_append level _ _).symm

theorem conclude_eq_draw (page : Page) (level : Nat) (scope : Scope) :
    page.conclude level scope = page.draw (scope.strokes level) := by
  obtain ⟨levels, closing, ownLine⟩ := scope
  cases closing with
  | none =>
    cases ownLine with
    | false => rfl
    | true => exact page.writeLine_eq_draw level ""
  | some closing =>
    cases ownLine with
    | false => rfl
    | true => exact page.writeLine_eq_draw level closing

theorem releaseAll_eq_draw (page : Page) (level : Nat) (scopes : List Scope) :
    (page.releaseAll level scopes).1 = page.draw (Scope.releases level scopes) := by
  induction scopes generalizing page level with
  | nil => rfl
  | cons scope outer ih =>
    rw [releaseAll, ih, conclude_eq_draw, Scope.releases, draw_append]

end Page

/-! ### Closing -/

namespace Family

variable {family : Family} {i : FrameId}

/-- The strokes of closing emitters of which each is the child of the one before
it: the last comes first. -/
def closings (family : Family) (chain : List FrameId) : List Stroke :=
  chain.reverse.flatMap fun i => (family.frame i).closings

/-- An emitter and those below it, each followed by its child. The fuel bounds
the length of the chain. -/
def descent (family : Family) : Nat → FrameId → List FrameId
  | 0, _ => []
  | fuel + 1, i =>
    i :: match (family.frame i).child with
      | none => []
      | some child => family.descent fuel child

/-- The emitters below an emitter. -/
def below (family : Family) (i : FrameId) : List FrameId :=
  match (family.frame i).child with
  | none => []
  | some child => family.descent family.frames.size child

theorem closings_cons (family : Family) (i : FrameId) (chain : List FrameId) :
    family.closings (i :: chain) = family.closings chain ++ (family.frame i).closings := by
  simp [closings]

/-- The strokes of closing depend on the frames of the closed emitters only. -/
theorem closings_congr {other : Family} {chain : List FrameId}
    (same : ∀ j ∈ chain, other.frame j = family.frame j) :
    other.closings chain = family.closings chain := by
  unfold closings
  apply List.flatMap_congr
  intro j mem
  rw [same j (List.mem_reverse.mp mem)]

theorem page_shut (family : Family) (i : FrameId) :
    (family.shut i).page = family.page.draw (family.frame i).closings :=
  family.page.releaseAll_eq_draw _ _

namespace Spine

variable {parent : Option FrameId} {above : Nat} {rest : List FrameId}

/-- Following the links to children goes down the spine. -/
theorem descent_eq {fuel : Nat} (spine : family.Spine parent above (i :: rest))
    (enough : rest.length < fuel) : family.descent fuel i = i :: rest := by
  induction rest generalizing parent above i fuel with
  | nil =>
    obtain ⟨-, -, -, child, -⟩ := spine
    obtain ⟨fuel, rfl⟩ := Nat.exists_eq_add_of_lt enough
    rw [descent, child]
    rfl
  | cons c rest ih =>
    obtain ⟨-, -, -, child, lower⟩ := spine
    obtain ⟨fuel, rfl⟩ := Nat.exists_eq_add_of_lt enough
    have shorter : rest.length < (c :: rest).length + fuel := by
      rw [List.length_cons]
      omega
    rw [descent, child]
    exact congrArg (i :: ·) (ih lower shorter)

/-- **Closing the first emitter of a spine writes the closing texts of the whole
spine**, those of the last emitter first. -/
theorem page_closeChain {fuel : Nat} (spine : family.Spine parent above (i :: rest))
    (nodup : (i :: rest).Nodup) (enough : rest.length < fuel) :
    (closeChain fuel i family).page = family.page.draw (family.closings (i :: rest)) := by
  induction rest generalizing family parent above i fuel with
  | nil =>
    obtain ⟨-, -, -, child, -⟩ := spine
    obtain ⟨fuel, rfl⟩ := Nat.exists_eq_add_of_lt enough
    rw [closeChain, child]
    exact (family.page_shut i).trans (congrArg family.page.draw (by simp [closings]))
  | cons c rest ih =>
    obtain ⟨opened, -, -, child, lower⟩ := spine
    obtain ⟨fuel, rfl⟩ := Nat.exists_eq_add_of_lt enough
    obtain ⟨notBelow, nodup'⟩ := List.nodup_cons.mp nodup
    have kept : ∀ j ∈ c :: rest, (family.unlink i).frame j = family.frame j := fun j mem =>
      frame_modify_of_ne _ fun same => notBelow (same ▸ mem)
    have lower' := lower.congr kept
    have shorter : rest.length < (c :: rest).length + fuel := by
      rw [List.length_cons]
      omega
    have closes := lower'.closes_closeChain nodup' shorter
    have page := ih lower' nodup' shorter
    -- The emitter itself loses its child only, and its scopes are released last.
    have here : (closeChain ((c :: rest).length + fuel) c (family.unlink i)).frame i =
        (family.frame i).childless := by
      rw [closes.kept i notBelow]
      exact frame_modify_self _ (lt_size_of_open opened)
    rw [closeChain, child]
    refine (page_shut _ i).trans ?_
    rw [page, here, closings_congr kept, family.closings_cons i, Page.draw_append]
    rfl

end Spine

namespace Chained

variable {before below : List FrameId}

/-- The emitters below an emitter are those behind it on the chain. -/
theorem below_eq (chained : family.Chained (before ++ i :: below)) : family.below i = below := by
  obtain ⟨parent, above, spine⟩ := chained.spine.right
  have enough := chained.length_le
  rw [List.length_append] at enough
  obtain ⟨-, -, -, child, lower⟩ := spine
  rw [Family.below, child]
  cases below with
  | nil => rfl
  | cons c rest =>
    simp only [List.length_cons] at enough
    exact lower.descent_eq (by omega)

/-- Before an open emitter does anything, the closing texts of the emitters below
it are written. -/
theorem page_closeChild (chained : family.Chained (before ++ i :: below)) :
    (family.closeChild i).page = family.page.draw (family.closings below) := by
  obtain ⟨parent, above, spine⟩ := chained.spine.right
  have enough := chained.length_le
  have nodup := (List.nodup_append.mp chained.nodup).2.1
  rw [List.length_append] at enough
  obtain ⟨-, -, -, child, lower⟩ := spine
  rw [closeChild, child]
  cases below with
  | nil => rfl
  | cons c rest =>
    obtain ⟨notBelow, nodup'⟩ := List.nodup_cons.mp nodup
    have kept : ∀ j ∈ c :: rest, (family.unlink i).frame j = family.frame j := fun j mem =>
      frame_modify_of_ne _ fun same => notBelow (same ▸ mem)
    simp only [List.length_cons] at enough
    rw [← closings_congr kept]
    exact (lower.congr kept).page_closeChain nodup' (by omega)

/-- Closing an emitter writes the closing texts of the emitters below it and then
its own. -/
theorem page_close (chained : family.Chained (before ++ i :: below)) :
    (family.close i).page = family.page.draw (family.closings (i :: below)) := by
  rcases List.eq_nil_or_concat before with rfl | ⟨above, parent, rfl⟩
  · obtain ⟨opened, linked, -⟩ := chained.spine
    rw [Family.close, detach, isClosed, opened, linked]
    exact chained.spine.page_closeChain chained.nodup chained.length_le
  · rw [List.concat_eq_append, List.append_assoc] at chained
    rw [chained.close_eq_closeChild]
    exact chained.page_closeChild

end Chained

/-! ### The strokes of an act -/

/-- What an emitter writes, behind the closing texts of the emitters below it. A
closed emitter writes nothing. -/
def strokesBy (family : Family) (i : FrameId) (own : List Stroke) : List Stroke :=
  if family.isClosed i then [] else family.closings (family.below i) ++ own

/-- The strokes of an act. -/
def strokes (family : Family) : Act → List Stroke
  | .write i text => family.strokesBy i [.write (family.frame i).level text]
  | .line i text => family.strokesBy i [.line (family.frame i).level text]
  | .lend i | .output i | .openBlock i _ | .reset i => family.strokesBy i []
  | .openScope i scope => if scope.levels = 0 then [] else family.strokesBy i []
  | .release i => family.strokesBy i (family.frame i).innermost
  | .newChild _ _ => []
  | .close i => family.strokesBy i (family.frame i).closings

/-- The strokes of some acts, one after the other. -/
def strokesAlong (family : Family) : List Act → List Stroke
  | [] => []
  | act :: acts => family.strokes act ++ (family.act act).strokesAlong acts

namespace Chained

variable {chain before below : List FrameId}

theorem strokesBy_eq (chained : family.Chained (before ++ i :: below)) (own : List Stroke) :
    family.strokesBy i own = family.closings below ++ own := by
  rw [strokesBy, isClosed, chained.closed_eq_false, chained.below_eq]
  rfl

/-- Closing its child leaves the level and the scopes of an emitter. -/
theorem frame_closeChild (chained : family.Chained (before ++ i :: below)) :
    (family.closeChild i).frame i = (family.frame i).childless :=
  chained.cuts_closeChild.here

theorem level_settle (chained : family.Chained (before ++ i :: below)) :
    ((family.settle i).frame i).level = (family.frame i).level := by
  have within : i < (family.closeChild i).frames.size := by
    rw [chained.cuts_closeChild.size]
    exact lt_size_of_open chained.closed_eq_false
  rw [Family.settle, frame_modify_self _ within, chained.frame_closeChild]
  rfl

/-- An act on an emitter does nothing when it is closed; otherwise it closes the
child and goes on to strokes of its own. -/
theorem page_eq_draw (chained : family.Chained chain) {after : Family} {own : List Stroke}
    (idle : (family.frame i).closed = true → after = family)
    (active : ∀ {before below}, family.Chained (before ++ i :: below) →
      after.page = (family.closeChild i).page.draw own) :
    after.page = family.page.draw (family.strokesBy i own) := by
  cases closed : (family.frame i).closed with
  | true =>
    rw [idle closed, strokesBy, isClosed, closed]
    rfl
  | false =>
    obtain ⟨before, below, rfl⟩ := List.append_of_mem (chained.open_iff_mem.mp closed)
    rw [active chained, chained.page_closeChild, chained.strokesBy_eq, Page.draw_append]

/-- **An act draws its strokes on the page.** -/
theorem page_act (chained : family.Chained chain) (act : Act) :
    (family.act act).page = family.page.draw (family.strokes act) := by
  cases act with
  | write i text =>
    refine chained.page_eq_draw (fun closed => ?_) fun chained => ?_
    · simp [Family.act, Family.write, isClosed, closed]
    · simp only [Family.act, Family.write, isClosed, chained.closed_eq_false, chained.level_settle]
      rfl
  | line i text =>
    refine chained.page_eq_draw (fun closed => ?_) fun chained => ?_
    · simp [Family.act, writeLine, isClosed, closed]
    · simp only [Family.act, writeLine, isClosed, chained.closed_eq_false, chained.level_settle]
      exact Page.writeLine_eq_draw _ _ text
  | lend i =>
    refine chained.page_eq_draw (fun closed => ?_) fun chained => ?_
    · simp [Family.act, lend, isClosed, closed]
    · simp only [Family.act, lend, isClosed, chained.closed_eq_false]
      rfl
  | output i => exact chained.page_eq_draw chained.closeChild_of_closed fun _ => rfl
  | openScope i scope =>
    by_cases zero : scope.levels = 0
    · simp [Family.act, openScope, zero, strokes, Page.draw]
    · rw [strokes, if_neg zero]
      refine chained.page_eq_draw (fun closed => ?_) fun chained => ?_
      · simp [Family.act, openScope, zero, isClosed, closed]
      · simp only [Family.act, openScope, zero, isClosed, chained.closed_eq_false]
        rfl
  | openBlock i scope =>
    refine chained.page_eq_draw (fun closed => ?_) fun chained => ?_
    · simp [Family.act, openBlock, isClosed, closed]
    · simp only [Family.act, openBlock, isClosed, chained.closed_eq_false]
      rfl
  | release i =>
    refine chained.page_eq_draw (fun closed => ?_) fun chained => ?_
    · simp [Family.act, Family.release, isClosed, closed]
    · simp only [Family.act, Family.release, isClosed, chained.closed_eq_false,
        chained.frame_closeChild, Frame.childless, Frame.innermost]
      cases (family.frame i).scopes with
      | nil => rfl
      | cons scope outer => exact Page.conclude_eq_draw _ _ scope
  | newChild i levels =>
    cases created : family.newChild i levels with
    | error reason => simp [Family.act, created, strokes, Page.draw]
    | ok pair =>
      obtain ⟨j, after⟩ := pair
      obtain ⟨-, -, rfl⟩ := newChild_eq_ok_iff.mp created
      simp only [Family.act, created, strokes]
      rfl
  | reset i =>
    refine chained.page_eq_draw (fun closed => ?_) fun chained => ?_
    · simp [Family.act, reset, isClosed, closed]
    · simp only [Family.act, reset, isClosed, chained.closed_eq_false]
      rfl
  | close i =>
    refine chained.page_eq_draw (fun closed => ?_) fun chained => ?_
    · simp [Family.act, Family.close, isClosed, closed]
    · rw [Family.act, chained.page_close, chained.page_closeChild, closings_cons, Page.draw_append]

/-- The open emitters are a chain after any act. -/
theorem act (chained : family.Chained chain) (act : Act) :
    ∃ chain, (family.act act).Chained chain := by
  cases act with
  | newChild i levels =>
    cases created : family.newChild i levels with
    | error reason =>
      simp only [Family.act, created]
      exact ⟨chain, chained⟩
    | ok pair =>
      obtain ⟨j, after⟩ := pair
      obtain ⟨⟨positive, opened, childless⟩, -, rfl⟩ := newChild_eq_ok_iff.mp created
      obtain ⟨before, below, rfl⟩ := List.append_of_mem (chained.open_iff_mem.mp opened)
      obtain rfl := chained.below_eq_nil childless
      simp only [Family.act, created]
      exact ⟨_, chained.withChild positive⟩
  | reset i =>
    rcases chained.act_reset i with ⟨sustains, -⟩ | ⟨chained', -⟩
    · exact sustains.chained
    · exact chained'
  | _ => exact Sustains.chained (chained.sustains_act (by rintro _ _ ⟨⟩) (by rintro _ ⟨⟩))

theorem page_replay (chained : family.Chained chain) (acts : List Act) :
    (family.replay acts).page = family.page.draw (family.strokesAlong acts) := by
  induction acts generalizing family chain with
  | nil => rfl
  | cons act acts ih =>
    obtain ⟨chain', chained'⟩ := chained.act act
    rw [strokesAlong, Page.draw_append, ← chained.page_act]
    exact ih chained'

end Chained

end Family

/-! ### The strokes of a session -/

/-- The strokes of the operations of a session, one after the other. -/
def Session.strokes (session : Session) (ops : List (Op ε)) : List Stroke :=
  session.family.strokesAlong (session.history ops)

/-- **A session draws the strokes of its history on a blank page.** -/
theorem Session.page_perform (width : Nat) (ops : List (Op ε)) :
    ((start width).perform ops).family.page =
      Page.draw { width } ((start width).strokes ops) := by
  rw [perform_family]
  exact (Family.chained_root width).page_replay _

end Bindery.Layout
