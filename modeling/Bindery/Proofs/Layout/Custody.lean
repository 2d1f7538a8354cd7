/-
The guards of scopes in custody.

A guard does not know which scope it was given for: releasing it pops the
innermost scope of its emitter. That there is a scope to pop is a matter of
counting. A `Custody` follows the acts of a session and notes a guard for every
scope that is opened and strikes out one for every release, so it holds all
guards that were not dropped, those that were forgotten or left behind by a
script among them. The main statements are

* `Family.Chained.spares_act`, that no other act touches the scopes of an
  emitter that stays open;
* `Custody.Balanced.record`, that after every act an open emitter has as many
  scopes as there are guards of it in custody;
* `Custody.Balanced.releases`, that a guard in custody finds its emitter closed
  or a scope to pop.
-/

import Bindery.Proofs.Layout.Strokes
import Mathlib.Data.Multiset.AddSub

namespace Bindery.Layout

/-- The frame with fewer scopes, at the level that they leave. -/
def Frame.popTo (level : Nat) (outer : List Scope) (frame : Frame) : Frame :=
  { frame with level, scopes := outer }

/-! ### Acts that touch no scopes -/

/-- Whether an act opens or releases a scope of its emitter. -/
def Act.touchesScopes : Act → Bool
  | .openScope _ _ | .openBlock _ _ | .release _ => true
  | _ => false

namespace Family

variable {family before after : Family} {chain : List FrameId} {i : FrameId}

/-- An emitter that is open afterwards was open and has the scopes that it had,
or it is new and has none. -/
structure Spares (before after : Family) : Prop where
  size : before.frames.size ≤ after.frames.size
  opened : ∀ j < before.frames.size,
    (after.frame j).closed = false → (before.frame j).closed = false
  scopes : ∀ j < before.frames.size,
    (after.frame j).closed = false → (after.frame j).scopes = (before.frame j).scopes
  newborn : ∀ j, before.frames.size ≤ j → (after.frame j).scopes = []

theorem Spares.refl (family : Family) : family.Spares family where
  size := Nat.le_refl _
  opened _ _ opened := opened
  scopes _ _ _ := rfl
  newborn j beyond := by rw [frame_of_size_le beyond]

/-- Closing emitters spares those that stay open. -/
theorem spares_of_size_eq (size : after.frames.size = before.frames.size)
    (kept : ∀ j, (after.frame j).closed = false →
      (before.frame j).closed = false ∧ (after.frame j).scopes = (before.frame j).scopes) :
    before.Spares after where
  size := size.ge
  opened j _ opened := (kept j opened).1
  scopes j _ opened := (kept j opened).2
  newborn j beyond := by rw [frame_of_size_le (size ▸ beyond)]

theorem Cuts.spares {below : List FrameId} (cuts : before.Cuts after i below) :
    before.Spares after := by
  refine spares_of_size_eq cuts.size ?_
  intro j opened
  by_cases closed : j ∈ below
  · rw [cuts.shut j closed] at opened
    cases opened
  · by_cases same : j = i
    · subst same
      rw [cuts.here] at opened ⊢
      exact ⟨opened, rfl⟩
    · rw [cuts.kept j closed same] at opened ⊢
      exact ⟨opened, rfl⟩

theorem Closes.spares {closed : List FrameId} (closes : before.Closes after closed) :
    before.Spares after := by
  refine spares_of_size_eq closes.size ?_
  intro j opened
  by_cases mem : j ∈ closed
  · rw [closes.shut j mem] at opened
    cases opened
  · rw [closes.kept j mem] at opened ⊢
    exact ⟨opened, rfl⟩

/-- A change of one emitter that leaves its scopes alone. -/
theorem Spares.modify {f : Frame → Frame} (spares : before.Spares after)
    (closed : (f (after.frame i)).closed = (after.frame i).closed)
    (scopes : (f (after.frame i)).scopes = (after.frame i).scopes) :
    before.Spares (after.modify i f) := by
  have same : ∀ j, ((after.modify i f).frame j).closed = (after.frame j).closed ∧
      ((after.modify i f).frame j).scopes = (after.frame j).scopes := by
    intro j
    by_cases here : i = j
    · subst here
      by_cases within : i < after.frames.size
      · rw [frame_modify_self f within]
        exact ⟨closed, scopes⟩
      · have beyond := Nat.not_lt.mp within
        rw [frame_of_size_le beyond, frame_of_size_le ((size_modify after i f).trans_le beyond)]
        exact ⟨rfl, rfl⟩
    · rw [frame_modify_of_ne f here]
      exact ⟨rfl, rfl⟩
  refine ⟨(size_modify after i f).symm ▸ spares.size, ?_, ?_, ?_⟩
  · intro j within opened
    exact spares.opened j within ((same j).1 ▸ opened)
  · intro j within opened
    rw [(same j).2]
    exact spares.scopes j within ((same j).1 ▸ opened)
  · intro j beyond
    rw [(same j).2, spares.newborn j beyond]

theorem spares_withChild (levels : Nat) (within : i < family.frames.size) :
    family.Spares (family.withChild i levels) := by
  have kept : ∀ j < family.frames.size,
      ((family.withChild i levels).frame j).closed = (family.frame j).closed ∧
        ((family.withChild i levels).frame j).scopes = (family.frame j).scopes := by
    intro j old
    by_cases same : i = j
    · subst same
      rw [frame_withChild_parent levels within]
      exact ⟨rfl, rfl⟩
    · rw [frame_withChild_of_ne levels same (Nat.ne_of_lt old)]
      exact ⟨rfl, rfl⟩
  refine ⟨?_, fun j old opened => (kept j old).1 ▸ opened, fun j old _ => (kept j old).2, ?_⟩
  · rw [size_withChild]
    exact Nat.le_succ _
  · intro j beyond
    by_cases new : j = family.frames.size
    · rw [new, frame_withChild_last]
      rfl
    · rw [frame_withChild_of_ne levels (Nat.ne_of_lt (within.trans_le beyond)) new,
        frame_of_size_le beyond]

namespace Chained

theorem spares_closeChild (chained : family.Chained chain) (i : FrameId) :
    family.Spares (family.closeChild i) := by
  cases closed : (family.frame i).closed with
  | true =>
    rw [chained.closeChild_of_closed closed]
    exact .refl family
  | false =>
    obtain ⟨before, below, -, cuts⟩ := chained.closeChild_of_open closed
    exact cuts.spares

theorem spares_close (chained : family.Chained chain) (i : FrameId) :
    family.Spares (family.close i) := by
  cases closed : (family.frame i).closed with
  | true =>
    rw [Family.close, isClosed, closed]
    exact .refl family
  | false =>
    obtain ⟨before, below, rfl⟩ := List.append_of_mem (chained.open_iff_mem.mp closed)
    rcases List.eq_nil_or_concat before with rfl | ⟨above, parent, rfl⟩
    · exact chained.closes_close.spares
    · rw [List.concat_eq_append, List.append_assoc] at chained
      rw [chained.close_eq_closeChild]
      exact chained.spares_closeChild parent

theorem spares_settle (chained : family.Chained chain) (i : FrameId) :
    family.Spares (family.settle i) :=
  (chained.spares_closeChild i).modify rfl rfl

theorem spares_takeBack (chained : family.Chained chain) (i : FrameId) :
    family.Spares ((family.closeChild i).modify i Frame.takeBack) := by
  refine (chained.spares_closeChild i).modify ?_ ?_
  · exact (Frame.adjusts_takeBack _).closed
  · rw [Frame.takeBack]
    split <;> rfl

end Chained

theorem Spares.onPage (spares : before.Spares after) (page : Page) :
    before.Spares { after with page } :=
  ⟨spares.size, spares.opened, spares.scopes, spares.newborn⟩

/-- An act that has no answer on a closed emitter. -/
theorem Spares.getD {answer : Family} (spares : family.Spares answer) (i : FrameId) :
    family.Spares ((if family.isClosed i then none else some answer).getD family) := by
  cases family.isClosed i with
  | true => exact .refl family
  | false => exact spares

theorem spares_newChild (family : Family) (i : FrameId) (levels : Nat) :
    family.Spares (family.act (.newChild i levels)) := by
  cases created : family.newChild i levels with
  | error reason =>
    simp only [Family.act, created]
    exact .refl family
  | ok pair =>
    obtain ⟨j, after⟩ := pair
    obtain ⟨⟨-, opened, -⟩, -, rfl⟩ := newChild_eq_ok_iff.mp created
    simp only [Family.act, created]
    exact spares_withChild levels (lt_size_of_open opened)

/-- **An act that neither opens nor releases a scope leaves the scopes of all
emitters that stay open.** -/
theorem Chained.spares_act (chained : family.Chained chain) {act : Act}
    (elsewhere : act.touchesScopes = false) : family.Spares (family.act act) := by
  cases act with
  | write i text => exact ((chained.spares_settle i).onPage _).getD i
  | line i text => exact ((chained.spares_settle i).onPage _).getD i
  | lend i => exact (chained.spares_closeChild i).getD i
  | output i => exact chained.spares_closeChild i
  | openScope | openBlock | release => cases elsewhere
  | newChild i levels => exact spares_newChild family i levels
  | reset i => exact (chained.spares_takeBack i).getD i
  | close i => exact chained.spares_close i

/-! ### Opening and releasing -/

theorem eq_pushScope_of_openScope {scope : Scope} (opens : family.openScope i scope = .ok after) :
    (family.frame i).closed = false ∧ after = family.pushScope i scope := by
  by_cases zero : scope.levels = 0 <;> cases closed : (family.frame i).closed <;>
    simp_all [openScope, isClosed]

theorem eq_pushScope_of_openBlock {scope : Scope} (opens : family.openBlock i scope = some after) :
    (family.frame i).closed = false ∧ after = family.pushScope i scope := by
  cases closed : (family.frame i).closed <;> simp_all [openBlock, isClosed]

theorem release_of_closed (closed : (family.frame i).closed = true) : family.release i = family := by
  simp only [release, isClosed, closed, if_true]

/-- The innermost scope of an emitter is popped: it gives its levels back, and
its closing text goes to the page behind those of the emitters below. -/
def Pops (before after : Family) (i : FrameId) : Prop :=
  ∃ scope outer, (before.frame i).scopes = scope :: outer ∧
    (after.frame i).scopes = outer ∧
    (after.frame i).level = (before.frame i).level - scope.levels ∧
    after.page = (before.closeChild i).page.conclude (after.frame i).level scope

theorem Chained.release_eq (chained : family.Chained chain)
    (opened : (family.frame i).closed = false) {scope : Scope} {outer : List Scope}
    (scopes : (family.frame i).scopes = scope :: outer) :
    family.release i =
      ⟨(family.closeChild i).page.conclude ((family.frame i).level - scope.levels) scope,
        ((family.closeChild i).modify i
          (Frame.popTo ((family.frame i).level - scope.levels) outer)).frames⟩ := by
  obtain ⟨before, below, -, cuts⟩ := chained.closeChild_of_open opened
  simp only [Family.release, isClosed, opened, Bool.false_eq_true, if_false, cuts.here,
    Frame.childless, scopes]
  rfl

theorem Chained.pops_release (chained : family.Chained chain)
    (opened : (family.frame i).closed = false) (nonempty : (family.frame i).scopes ≠ []) :
    family.Pops (family.release i) i := by
  obtain ⟨scope, outer, scopes⟩ := List.exists_cons_of_ne_nil nonempty
  have within : i < (family.closeChild i).frames.size := by
    rw [(chained.sustains_closeChild i).size]
    exact lt_size_of_open opened
  have here := frame_modify_self (Frame.popTo ((family.frame i).level - scope.levels) outer) within
  have level := congrArg Frame.level here
  rw [chained.release_eq opened scopes]
  refine ⟨scope, outer, scopes, congrArg Frame.scopes here, level, ?_⟩
  exact congrArg ((family.closeChild i).page.conclude · scope) level.symm

/-- A guard of the emitter can be dropped: the emitter is closed and nothing
happens, or its innermost scope is popped. -/
def Releases (family : Family) (i : FrameId) : Prop :=
  (family.isClosed i = true ∧ family.release i = family) ∨
    (family.isClosed i = false ∧ family.Pops (family.release i) i)

end Family

/-! ### Custody -/

/-- The emitters, and for every guard that was not dropped the emitter that it
was given for. -/
structure Custody where
  family : Family
  held : Multiset FrameId

namespace Custody

/-- No guard was given yet. -/
def start (width : Nat) : Custody :=
  ⟨Family.root width, 0⟩

/-- A guard is given for every scope that is opened, and one is dropped by every
release. -/
def record (custody : Custody) (act : Act) : Custody :=
  { family := custody.family.act act
    held := match act with
      | .openScope i scope =>
        match custody.family.openScope i scope with
        | .error _ => custody.held
        | .ok _ => i ::ₘ custody.held
      | .openBlock i scope =>
        match custody.family.openBlock i scope with
        | none => custody.held
        | some _ => i ::ₘ custody.held
      | .release i => custody.held.erase i
      | _ => custody.held }

/-- The custody after some acts. -/
def along (custody : Custody) (acts : List Act) : Custody :=
  acts.foldl record custody

theorem along_append (custody : Custody) (first second : List Act) :
    custody.along (first ++ second) = (custody.along first).along second :=
  List.foldl_append

theorem along_family (custody : Custody) (acts : List Act) :
    (custody.along acts).family = custody.family.replay acts := by
  induction acts generalizing custody with
  | nil => rfl
  | cons act acts ih => exact ih (custody.record act)

/-- The open emitters are a chain, and each has as many scopes as there are
guards of it in custody. -/
structure Balanced (custody : Custody) : Prop where
  chained : ∃ chain, custody.family.Chained chain
  known : ∀ i ∈ custody.held, i < custody.family.frames.size
  counted : ∀ i, (custody.family.frame i).closed = false →
    (custody.family.frame i).scopes.length = custody.held.count i

theorem balanced_start (width : Nat) : (start width).Balanced where
  chained := ⟨[0], Family.chained_root width⟩
  known i mem := absurd mem (Multiset.notMem_zero i)
  counted i opened := by
    obtain rfl : i = 0 := Nat.lt_one_iff.mp (Family.lt_size_of_open opened)
    rfl

variable {custody : Custody} {i : FrameId}

namespace Balanced

theorem spare {after : Family} (balanced : custody.Balanced)
    (chained : ∃ chain, after.Chained chain) (spares : custody.family.Spares after) :
    Balanced ⟨after, custody.held⟩ where
  chained := chained
  known j mem := (balanced.known j mem).trans_le spares.size
  counted j opened := by
    by_cases old : j < custody.family.frames.size
    · rw [spares.scopes j old opened]
      exact balanced.counted j (spares.opened j old opened)
    · -- Nobody has a guard of an emitter that was just created.
      have unknown : j ∉ custody.held := mt (balanced.known j) old
      rw [spares.newborn j (Nat.not_lt.mp old), Multiset.count_eq_zero_of_notMem unknown]
      rfl

/-- A change of the scopes of one emitter and of the number of its guards. -/
theorem modify {f : Frame → Frame} {after : Family} {held : Multiset FrameId}
    (balanced : custody.Balanced) (chained : ∃ chain, after.Chained chain)
    (frames : after.frames = (custody.family.modify i f).frames)
    (within : i < custody.family.frames.size)
    (here : (f (custody.family.frame i)).scopes.length = held.count i)
    (others : ∀ j ≠ i, held.count j = custody.held.count j) : Balanced ⟨after, held⟩ where
  chained := chained
  known j mem := by
    rw [frames, Family.size_modify]
    by_cases same : j = i
    · exact same ▸ within
    · apply balanced.known
      rwa [← Multiset.count_pos, ← others j same, Multiset.count_pos]
  counted j opened := by
    have read : after.frame j = (custody.family.modify i f).frame j := by
      rw [Family.frame, Family.frame, frames]
    rw [read] at opened ⊢
    by_cases same : j = i
    · subst same
      rw [Family.frame_modify_self f within]
      exact here
    · rw [Family.frame_modify_of_ne f (Ne.symm same)] at opened ⊢
      rw [others j same]
      exact balanced.counted j opened

theorem pushScope (balanced : custody.Balanced)
    (opened : (custody.family.frame i).closed = false) (scope : Scope) :
    Balanced ⟨custody.family.pushScope i scope, i ::ₘ custody.held⟩ := by
  obtain ⟨chain, chained⟩ := balanced.chained
  obtain ⟨before, below, cut, cuts⟩ := chained.closeChild_of_open opened
  have cleared := balanced.spare ⟨_, cut⟩ cuts.spares
  refine cleared.modify (chained.sustains_pushScope opened scope).chained rfl ?_ ?_ ?_
  · exact cuts.size.symm ▸ Family.lt_size_of_open opened
  · rw [Multiset.count_cons_self, ← balanced.counted i opened, cuts.here]
    rfl
  · intro j other
    exact Multiset.count_cons_of_ne other custody.held

/-- The guards of a closed emitter do not count. -/
theorem strike (balanced : custody.Balanced) (closed : (custody.family.frame i).closed = true) :
    Balanced ⟨custody.family, custody.held.erase i⟩ where
  chained := balanced.chained
  known j mem := balanced.known j (Multiset.mem_of_mem_erase mem)
  counted j opened := by
    have other : j ≠ i := by
      rintro rfl
      exact Bool.false_ne_true (opened.symm.trans closed)
    rw [Multiset.count_erase_of_ne other]
    exact balanced.counted j opened

theorem release (balanced : custody.Balanced)
    (opened : (custody.family.frame i).closed = false) :
    Balanced ⟨custody.family.release i, custody.held.erase i⟩ := by
  obtain ⟨chain, chained⟩ := balanced.chained
  obtain ⟨before, below, cut, cuts⟩ := chained.closeChild_of_open opened
  have counted := balanced.counted i opened
  have chained' := (chained.sustains_release opened).chained
  cases scopes : (custody.family.frame i).scopes with
  | nil =>
    -- No guard is in custody, and none is struck out.
    have unknown : i ∉ custody.held := by
      rw [← Multiset.count_eq_zero, ← counted, scopes]
      rfl
    have same : custody.family.release i = custody.family.closeChild i := by
      simp only [Family.release, Family.isClosed, opened, Bool.false_eq_true, if_false, cuts.here,
        Frame.childless, scopes]
    rw [same, Multiset.erase_of_notMem unknown]
    exact balanced.spare ⟨_, cut⟩ cuts.spares
  | cons scope outer =>
    rw [chained.release_eq opened scopes] at chained' ⊢
    have cleared := balanced.spare ⟨_, cut⟩ cuts.spares
    refine cleared.modify (f := Frame.popTo _ outer) chained' rfl ?_ ?_ ?_
    · exact cuts.size.symm ▸ Family.lt_size_of_open opened
    · rw [Multiset.count_erase_self, ← counted, scopes]
      rfl
    · intro j other
      exact Multiset.count_erase_of_ne other custody.held

/-- **After every act an open emitter has as many scopes as there are guards of
it in custody.** -/
theorem record (balanced : custody.Balanced) (act : Act) : (custody.record act).Balanced := by
  obtain ⟨chain, chained⟩ := balanced.chained
  cases act with
  | openScope i scope =>
    cases opens : custody.family.openScope i scope with
    | error reason => simpa only [Custody.record, Family.act, opens] using balanced
    | ok after =>
      obtain ⟨opened, rfl⟩ := Family.eq_pushScope_of_openScope opens
      simpa only [Custody.record, Family.act, opens] using balanced.pushScope opened scope
  | openBlock i scope =>
    cases opens : custody.family.openBlock i scope with
    | none => simpa only [Custody.record, Family.act, opens, Option.getD_none] using balanced
    | some after =>
      obtain ⟨opened, rfl⟩ := Family.eq_pushScope_of_openBlock opens
      simpa only [Custody.record, Family.act, opens, Option.getD_some] using
        balanced.pushScope opened scope
  | release i =>
    cases closed : (custody.family.frame i).closed with
    | true =>
      simpa only [Custody.record, Family.act, Family.release_of_closed closed] using
        balanced.strike closed
    | false => exact balanced.release closed
  | _ => exact balanced.spare (chained.act _) (chained.spares_act rfl)

theorem along (balanced : custody.Balanced) (acts : List Act) :
    (custody.along acts).Balanced := by
  induction acts generalizing custody with
  | nil => exact balanced
  | cons act acts ih => exact ih (balanced.record act)

/-- A guard in custody can be dropped. -/
theorem releases (balanced : custody.Balanced) (mem : i ∈ custody.held) :
    custody.family.Releases i := by
  obtain ⟨chain, chained⟩ := balanced.chained
  cases closed : (custody.family.frame i).closed with
  | true => exact .inl ⟨closed, Family.release_of_closed closed⟩
  | false =>
    refine .inr ⟨closed, chained.pops_release closed ?_⟩
    rw [← List.length_pos_iff, balanced.counted i closed]
    exact Multiset.count_pos.mpr mem

end Balanced

end Custody

end Bindery.Layout
