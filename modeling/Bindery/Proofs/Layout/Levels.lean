/-
The levels of the emitters of a session.

Every act leaves a chain of open emitters (`Family.Chained`). A `Ledger` follows
the acts of a session and notes for every emitter the levels that it was created
with, until a reset takes them back; it does so without a look at what the
emitters remember of it. The main statements are

* `Family.Chained.sustains_act` and `Family.Chained.act_reset`, what acts do to
  the chain and to the offsets of its emitters;
* `Ledger.Sound.record`, that the ledger agrees with the emitters after every
  act;
* `Session.perform_chain`, the law of the chain and of its levels in every state
  that a session can reach.
-/

import Bindery.Proofs.Layout.Chain
import Bindery.Proofs.Layout.History

namespace Bindery.Layout

variable {ε : Type}

/-! ### What an act preserves -/

/-- The frame after its offset was taken back. -/
def Frame.takeBack (frame : Frame) : Frame :=
  if frame.fresh then
    { frame with level := frame.level - frame.offset, offset := 0, fresh := false }
  else frame

theorem Frame.adjusts_takeBack (frame : Frame) : frame.Adjusts frame.takeBack := by
  cases fresh : frame.fresh with
  | false =>
    rw [takeBack, fresh]
    exact ⟨Steady.refl frame, rfl, rfl, rfl⟩
  | true =>
    rw [takeBack, fresh]
    refine ⟨⟨?_, fun _ => rfl, fun _ => nofun⟩, rfl, rfl, rfl⟩
    intro above stands
    simp only [Stands, scopeLevels, if_true] at stands ⊢
    omega

theorem Frame.adjusts_settled (frame : Frame) : frame.Adjusts { frame with fresh := false } :=
  ⟨⟨fun stands => stands, fun zero => zero, fun _ => nofun⟩, rfl, rfl, rfl⟩

theorem Frame.adjusts_opened (frame : Frame) (scope : Scope) :
    frame.Adjusts
      { frame with level := frame.level + scope.levels, scopes := scope :: frame.scopes } := by
  refine ⟨⟨?_, fun zero => zero, fun positive => positive⟩, rfl, rfl, rfl⟩
  intro above stands
  simp only [Stands, scopeLevels, List.map_cons, List.sum_cons] at stands ⊢
  omega

theorem Frame.adjusts_released {frame : Frame} {scope : Scope} {outer : List Scope}
    (scopes : frame.scopes = scope :: outer) :
    frame.Adjusts { frame with level := frame.level - scope.levels, scopes := outer } := by
  refine ⟨⟨?_, fun zero => zero, fun positive => positive⟩, rfl, rfl, rfl⟩
  intro above stands
  simp only [Stands, scopeLevels, scopes, List.map_cons, List.sum_cons] at stands ⊢
  omega

namespace Family

variable {family after : Family} {chain : List FrameId} {i : FrameId}

/-- What most acts do: the open emitters are a chain again, and no emitter comes
or changes its offset. -/
structure Sustains (before after : Family) : Prop where
  chained : ∃ chain, after.Chained chain
  size : after.frames.size = before.frames.size
  offset : ∀ j, (after.frame j).offset = (before.frame j).offset

theorem Chained.sustains (chained : family.Chained chain) : family.Sustains family :=
  ⟨⟨chain, chained⟩, rfl, fun _ => rfl⟩

theorem Chained.onPage (chained : family.Chained chain) (page : Page) :
    ({ family with page } : Family).Chained chain :=
  ⟨chained.head, chained.nodup, chained.spine.congr fun _ _ => rfl, chained.bare, chained.root,
    chained.offset, chained.fresh⟩

theorem Sustains.onPage (sustains : family.Sustains after) (page : Page) :
    family.Sustains { after with page } := by
  obtain ⟨⟨chain, chained⟩, size, offset⟩ := sustains
  exact ⟨⟨chain, chained.onPage page⟩, size, offset⟩

namespace Chained

/-- Before an open emitter does anything, it becomes the last of the chain. -/
theorem closeChild_of_open (chained : family.Chained chain)
    (opened : (family.frame i).closed = false) :
    ∃ before below, (family.closeChild i).Chained (before ++ [i]) ∧
      family.Cuts (family.closeChild i) i below := by
  obtain ⟨before, below, rfl⟩ := List.append_of_mem (chained.open_iff_mem.mp opened)
  exact ⟨before, below, chained.cut, chained.cuts_closeChild⟩

theorem closeChild_of_closed (chained : family.Chained chain)
    (closed : (family.frame i).closed = true) : family.closeChild i = family := by
  have bare := chained.bare i fun mem => by
    rw [chained.open_iff_mem.mpr mem] at closed
    cases closed
  rw [closeChild, bare.child]

theorem sustains_closeChild (chained : family.Chained chain) (i : FrameId) :
    family.Sustains (family.closeChild i) := by
  cases closed : (family.frame i).closed with
  | true =>
    rw [chained.closeChild_of_closed closed]
    exact chained.sustains
  | false =>
    obtain ⟨before, below, cut, cuts⟩ := chained.closeChild_of_open closed
    exact ⟨⟨_, cut⟩, cuts.size, cuts.offset⟩

/-- An open emitter may change, with its offset, once its child is closed. -/
theorem adjust_of_open {f : Frame → Frame} (chained : family.Chained chain)
    (opened : (family.frame i).closed = false)
    (adjusts : (family.frame i).childless.Adjusts (f (family.frame i).childless)) :
    (∃ chain, ((family.closeChild i).modify i f).Chained chain) ∧
      ((family.closeChild i).modify i f).frames.size = family.frames.size ∧
      ((family.closeChild i).modify i f).frame i = f (family.frame i).childless ∧
      ∀ j ≠ i, (((family.closeChild i).modify i f).frame j).offset = (family.frame j).offset := by
  obtain ⟨before, below, cut, cuts⟩ := chained.closeChild_of_open opened
  have within : i < (family.closeChild i).frames.size := cuts.size ▸ lt_size_of_open opened
  refine ⟨⟨_, cut.adjust (cuts.here ▸ adjusts)⟩, ?_, ?_, ?_⟩
  · rw [size_modify, cuts.size]
  · rw [frame_modify_self f within, cuts.here]
  · intro j other
    rw [frame_modify_of_ne f (Ne.symm other), cuts.offset]

/-- An open emitter may change once its child is closed. -/
theorem sustains_adjust {f : Frame → Frame} (chained : family.Chained chain)
    (opened : (family.frame i).closed = false)
    (adjusts : (family.frame i).childless.Adjusts (f (family.frame i).childless))
    (offset : (f (family.frame i).childless).offset = (family.frame i).offset) :
    family.Sustains ((family.closeChild i).modify i f) := by
  obtain ⟨chained', size, here, others⟩ := chained.adjust_of_open opened adjusts
  refine ⟨chained', size, ?_⟩
  intro j
  by_cases same : j = i
  · rw [same, here, offset]
  · exact others j same

theorem sustains_settle (chained : family.Chained chain)
    (opened : (family.frame i).closed = false) : family.Sustains (family.settle i) :=
  chained.sustains_adjust opened (Frame.adjusts_settled _) rfl

theorem sustains_pushScope (chained : family.Chained chain)
    (opened : (family.frame i).closed = false) (scope : Scope) :
    family.Sustains (family.pushScope i scope) :=
  chained.sustains_adjust opened (Frame.adjusts_opened _ scope) rfl

theorem sustains_release (chained : family.Chained chain)
    (opened : (family.frame i).closed = false) : family.Sustains (family.release i) := by
  have here : (family.closeChild i).frame i = (family.frame i).childless := by
    obtain ⟨before, below, -, cuts⟩ := chained.closeChild_of_open opened
    exact cuts.here
  rw [release, isClosed, opened]
  simp only [Bool.false_eq_true, if_false, here]
  cases scopes : (family.frame i).childless.scopes with
  | nil => exact chained.sustains_closeChild i
  | cons scope outer =>
    let level := (family.frame i).childless.level - scope.levels
    exact (chained.sustains_adjust (f := fun frame => { frame with level, scopes := outer }) opened
      (Frame.adjusts_released scopes) rfl).onPage _

theorem sustains_close (chained : family.Chained chain)
    (opened : (family.frame i).closed = false) : family.Sustains (family.close i) := by
  obtain ⟨before, below, rfl⟩ := List.append_of_mem (chained.open_iff_mem.mp opened)
  rcases List.eq_nil_or_concat before with rfl | ⟨above, parent, rfl⟩
  · exact ⟨⟨[], chained.close⟩, chained.closes_close.size, chained.closes_close.offset⟩
  · rw [List.concat_eq_append, List.append_assoc] at chained
    rw [chained.close_eq_closeChild]
    exact chained.sustains_closeChild parent

/-- An act that has no answer on a closed emitter. -/
theorem sustains_getD (chained : family.Chained chain) {answer : Family}
    (sustains : (family.frame i).closed = false → family.Sustains answer) :
    family.Sustains ((if family.isClosed i then none else some answer).getD family) := by
  cases closed : (family.frame i).closed with
  | true => simpa [isClosed, closed] using chained.sustains
  | false => simpa [isClosed, closed] using sustains closed

/-- **An act that neither creates an emitter nor takes back an offset leaves a
chain of the same emitters.** -/
theorem sustains_act (chained : family.Chained chain) {act : Act}
    (noChild : ∀ i levels, act ≠ .newChild i levels) (noReset : ∀ i, act ≠ .reset i) :
    family.Sustains (family.act act) := by
  cases act with
  | write i text =>
    exact chained.sustains_getD fun opened => (chained.sustains_settle opened).onPage _
  | line i text =>
    exact chained.sustains_getD fun opened => (chained.sustains_settle opened).onPage _
  | lend i => exact chained.sustains_getD fun _ => chained.sustains_closeChild i
  | output i => exact chained.sustains_closeChild i
  | openScope i scope =>
    by_cases zero : scope.levels = 0
    · simpa [Family.act, openScope, zero] using chained.sustains
    · cases closed : (family.frame i).closed with
      | true => simpa [Family.act, openScope, zero, isClosed, closed] using chained.sustains
      | false =>
        simpa [Family.act, openScope, zero, isClosed, closed] using
          chained.sustains_pushScope closed scope
  | openBlock i scope =>
    exact chained.sustains_getD fun opened => chained.sustains_pushScope opened scope
  | release i =>
    cases closed : (family.frame i).closed with
    | true => simpa [Family.act, release, isClosed, closed] using chained.sustains
    | false => exact chained.sustains_release closed
  | newChild i levels => exact absurd rfl (noChild i levels)
  | reset i => exact absurd rfl (noReset i)
  | close i =>
    cases closed : (family.frame i).closed with
    | true => simpa [Family.act, Family.close, isClosed, closed] using chained.sustains
    | false => exact chained.sustains_close closed

/-- A reset takes back the offset of an emitter and lowers it, or changes
nothing. -/
theorem act_reset (chained : family.Chained chain) (i : FrameId) :
    (family.Sustains (family.act (.reset i)) ∧
      ((family.act (.reset i)).frame i).level = (family.frame i).level) ∨
    ((∃ chain, (family.act (.reset i)).Chained chain) ∧
      (family.act (.reset i)).frames.size = family.frames.size ∧
      (∀ j ≠ i, ((family.act (.reset i)).frame j).offset = (family.frame j).offset) ∧
      ((family.act (.reset i)).frame i).offset = 0 ∧
      ((family.act (.reset i)).frame i).level < (family.frame i).level) := by
  cases closed : (family.frame i).closed with
  | true =>
    have same : family.act (.reset i) = family := by simp [Family.act, reset, isClosed, closed]
    rw [same]
    exact .inl ⟨chained.sustains, rfl⟩
  | false =>
    have taken : family.act (.reset i) = (family.closeChild i).modify i Frame.takeBack := by
      simp only [Family.act, reset, isClosed, closed, Bool.false_eq_true, if_false,
        Option.getD_some]
      rfl
    have adjusts := (family.frame i).childless.adjusts_takeBack
    rw [taken]
    obtain ⟨chained', size, here, others⟩ := chained.adjust_of_open closed adjusts
    cases fresh : (family.frame i).fresh with
    | false =>
      have same : (family.frame i).childless.takeBack = (family.frame i).childless := by
        simp [Frame.takeBack, Frame.childless, fresh]
      refine .inl ⟨chained.sustains_adjust closed adjusts (by rw [same]; rfl), ?_⟩
      rw [here, same]
      rfl
    | true =>
      have positive := chained.fresh i fresh
      obtain ⟨above, stands⟩ := chained.spine.stands (chained.open_iff_mem.mp closed)
      simp only [Frame.Stands] at stands
      refine .inr ⟨chained', size, others, ?_, ?_⟩
      · simp [here, Frame.takeBack, Frame.childless, fresh]
      · simp only [here, Frame.takeBack, Frame.childless, fresh, if_true]
        omega

end Chained

end Family

/-! ### The ledger -/

/-- The emitters, and for each of them the levels that it was created with, or
zero once a reset has lowered it. -/
structure Ledger where
  family : Family
  offsets : List Nat

namespace Ledger

/-- The root was created at no level. -/
def start (width : Nat) : Ledger :=
  ⟨Family.root width, [0]⟩

/-- The ledger after an act. -/
def record (ledger : Ledger) (act : Act) : Ledger :=
  let after := ledger.family.act act
  { family := after
    offsets := match act with
      | .newChild _ levels =>
        if ledger.family.frames.size < after.frames.size then ledger.offsets ++ [levels]
        else ledger.offsets
      | .reset i =>
        if (after.frame i).level < (ledger.family.frame i).level then ledger.offsets.set i 0
        else ledger.offsets
      | _ => ledger.offsets }

/-- The ledger after some acts. -/
def along (ledger : Ledger) (acts : List Act) : Ledger :=
  acts.foldl record ledger

theorem along_family (ledger : Ledger) (acts : List Act) :
    (ledger.along acts).family = ledger.family.replay acts := by
  induction acts generalizing ledger with
  | nil => rfl
  | cons act acts ih => exact ih (ledger.record act)

/-- The open emitters are a chain, and the ledger knows their offsets. -/
structure Sound (ledger : Ledger) : Prop where
  chained : ∃ chain, ledger.family.Chained chain
  length : ledger.offsets.length = ledger.family.frames.size
  agrees : ∀ i < ledger.family.frames.size,
    ledger.offsets[i]? = some (ledger.family.frame i).offset

theorem sound_start (width : Nat) : (start width).Sound where
  chained := ⟨[0], Family.chained_root width⟩
  length := rfl
  agrees i within := by
    obtain rfl : i = 0 := Nat.lt_one_iff.mp within
    rfl

variable {ledger : Ledger}

theorem Sound.sustain {after : Family} (sound : ledger.Sound)
    (sustains : ledger.family.Sustains after) : Sound ⟨after, ledger.offsets⟩ where
  chained := sustains.chained
  length := sound.length.trans sustains.size.symm
  agrees i within := by
    have within' : i < ledger.family.frames.size := sustains.size ▸ within
    exact (sound.agrees i within').trans (congrArg some (sustains.offset i).symm)

theorem Sound.record_newChild (sound : ledger.Sound) (i : FrameId) (levels : Nat) :
    (ledger.record (.newChild i levels)).Sound := by
  obtain ⟨chain, chained⟩ := sound.chained
  cases created : ledger.family.newChild i levels with
  | error reason =>
    simpa [record, Family.act, created] using sound.sustain chained.sustains
  | ok pair =>
    obtain ⟨j, after⟩ := pair
    obtain ⟨⟨positive, opened, childless⟩, -, rfl⟩ := Family.newChild_eq_ok_iff.mp created
    obtain ⟨before, below, rfl⟩ := List.append_of_mem (chained.open_iff_mem.mp opened)
    obtain ⟨-, -, -, -, -, child, -⟩ := chained.spine.right
    obtain rfl : below = [] := List.head?_eq_none_iff.mp (child.symm.trans childless)
    have grown : ledger.record (.newChild i levels) =
        ⟨ledger.family.withChild i levels, ledger.offsets ++ [levels]⟩ := by
      simp [record, Family.act, created]
    rw [grown]
    refine ⟨⟨_, chained.withChild positive⟩, by simp [sound.length], ?_⟩
    intro k within
    by_cases new : k = ledger.family.frames.size
    · rw [new, Family.frame_withChild_last, ← sound.length, List.getElem?_concat_length]
      rfl
    · have old : k < ledger.family.frames.size := by
        simp only [Family.size_withChild] at within
        omega
      rw [List.getElem?_append_left (sound.length.symm ▸ old), sound.agrees k old]
      by_cases same : i = k
      · rw [← same, Family.frame_withChild_parent levels (Family.lt_size_of_open opened)]
      · rw [Family.frame_withChild_of_ne levels same new]

theorem Sound.record_reset (sound : ledger.Sound) (i : FrameId) :
    (ledger.record (.reset i)).Sound := by
  obtain ⟨chain, chained⟩ := sound.chained
  rcases chained.act_reset i with ⟨sustains, level⟩ | ⟨chained', size, others, zero, lower⟩
  · have same : ledger.record (.reset i) = ⟨ledger.family.act (.reset i), ledger.offsets⟩ := by
      simp [record, level]
    exact same ▸ sound.sustain sustains
  · have taken : ledger.record (.reset i) =
        ⟨ledger.family.act (.reset i), ledger.offsets.set i 0⟩ := by
      simp [record, lower]
    rw [taken]
    refine ⟨chained', by simp [sound.length, size], ?_⟩
    intro j within
    have within' : j < ledger.family.frames.size := size ▸ within
    by_cases same : j = i
    · subst same
      simp [zero, sound.length, within']
    · rw [List.getElem?_set_ne (Ne.symm same), others j same]
      exact sound.agrees j within'

/-- **The ledger agrees with the emitters after every act.** -/
theorem Sound.record (sound : ledger.Sound) (act : Act) : (ledger.record act).Sound := by
  obtain ⟨chain, chained⟩ := sound.chained
  cases act with
  | newChild i levels => exact sound.record_newChild i levels
  | reset i => exact sound.record_reset i
  | _ => exact sound.sustain (chained.sustains_act nofun nofun)

theorem Sound.along (sound : ledger.Sound) (acts : List Act) : (ledger.along acts).Sound := by
  induction acts generalizing ledger with
  | nil => exact sound
  | cons act acts ih => exact ih (sound.record act)

end Ledger

/-- **In every state that a session can reach, the open emitters are those that
links to children reach from an open root; closed emitters hold nothing; the
root stands on its scopes, and every other open emitter stands deeper than its
parent stands now by the levels that it was created with, unless they were taken
back, and by those of its scopes.** -/
theorem Session.perform_chain (width : Nat) (ops : List (Op ε)) :
    let family := ((Session.start width).perform ops).family
    let ledger := (Ledger.start width).along ((Session.start width).history ops)
    ledger.family = family ∧
    (∀ i, family.isClosed i = false ↔ family.isClosed 0 = false ∧ family.OnChain i) ∧
    (∀ i, family.isClosed i = true →
      (family.frame i).child = none ∧ (family.frame i).scopes = []) ∧
    (family.frame 0).level = (family.frame 0).scopeLevels ∧
    ∀ i ≠ 0, family.isClosed i = false →
      ∃ parent levels, (family.frame i).parent = some parent ∧
        family.isClosed parent = false ∧ (family.frame parent).child = some i ∧
        ledger.offsets[i]? = some levels ∧
        (family.frame i).level =
          (family.frame parent).level + levels + (family.frame i).scopeLevels := by
  intro family ledger
  have same : ledger.family = family :=
    (Ledger.along_family _ _).trans (perform_family (start width) ops).symm
  have sound : ledger.Sound := (Ledger.sound_start width).along _
  obtain ⟨⟨chain, chained⟩, -, agrees⟩ := sound
  rw [same] at chained agrees
  refine ⟨same, ?_, ?_, ?_, ?_⟩
  · intro i
    exact chained.open_iff_mem.trans chained.mem_iff_onChain
  · intro i closed
    have bare := chained.bare i fun mem =>
      Bool.false_ne_true ((chained.open_iff_mem.mpr mem).symm.trans closed)
    exact ⟨bare.child, bare.scopes⟩
  · have stands := chained.root
    rwa [Frame.Stands, chained.offset, Nat.zero_add] at stands
  · intro i notRoot opened
    obtain ⟨parent, linked, openParent, child, stands⟩ := chained.stands_below opened notRoot
    exact ⟨parent, _, linked, openParent, child, agrees i (Family.lt_size_of_open opened), stands⟩

end Bindery.Layout
