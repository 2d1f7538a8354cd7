/-
Taking back the levels of a child.

A child may take back the levels that it was created with as long as it has not
written. Whether it has is not looked up on the page: a flag is cleared when the
child is about to write, and when it takes its levels back. So what a reset does can
be read off the acts of the child since its creation (`Act.settles`), whatever scopes
it is in, and whatever the other emitters do. The closing text of a scope is not
among these acts: a child that has released a scope has put text on the page and may
still take its levels back. The main statements are

* `Frame.fresh_along` and `Frame.offset_along`, what the acts of an emitter leave of
  its flag and of its levels;
* `Family.replay_reset`, what a reset does to an open child after any acts;
* `Family.reset_behind_closing`, a reset behind a closing text.
-/

import Bindery.Proofs.Layout.Effects

namespace Bindery.Layout

/-! ### What acts leave of the flag -/

/-- Whether an act writes to its emitter or takes back its levels. -/
def Act.settles : Act → Bool
  | .write _ _ | .line _ _ | .reset _ => true
  | _ => false

namespace Frame

theorem fresh_takeBack (frame : Frame) : frame.takeBack.fresh = false := by
  rw [takeBack]
  split
  · rfl
  · rename_i stale
    exact Bool.eq_false_of_not_eq_true stale

theorem fresh_effect (act : Act) (frame : Frame) :
    (act.effect frame).fresh = (frame.fresh && !act.settles) := by
  cases act with
  | reset i => simp [Act.effect, Act.settles, fresh_takeBack]
  | release i =>
    simp only [Act.effect, Act.settles, popped]
    split <;> simp [popTo]
  | openScope i scope =>
    simp only [Act.effect, Act.settles]
    split <;> simp [opened]
  | _ => simp [Act.effect, Act.settles, settled, opened, shut]

theorem offset_effect {act : Act} (unsettled : act.settles = false) (frame : Frame) :
    (act.effect frame).offset = frame.offset := by
  cases act with
  | write i text | line i text | reset i => cases unsettled
  | release i =>
    simp only [Act.effect, popped]
    split <;> rfl
  | openScope i scope =>
    simp only [Act.effect]
    split <;> rfl
  | _ => rfl

/-- An emitter is as fresh as it was unless it settles. -/
theorem fresh_along (k : FrameId) (acts : List Act) (frame : Frame) :
    (frame.along k acts).fresh =
      (frame.fresh && !acts.any fun act => act.emitter = k && act.settles) := by
  induction acts generalizing frame with
  | nil => simp [along]
  | cons act acts ih =>
    refine (ih _).trans ?_
    by_cases here : act.emitter = k
    · simp [here, fresh_effect, Bool.and_assoc]
    · simp [here]

theorem offset_along {k : FrameId} {acts : List Act}
    (unsettled : ∀ act ∈ acts, act.emitter = k → act.settles = false) (frame : Frame) :
    (frame.along k acts).offset = frame.offset := by
  induction acts generalizing frame with
  | nil => rfl
  | cons act acts ih =>
    obtain ⟨now, later⟩ := List.forall_mem_cons.mp unsettled
    refine (ih later _).trans ?_
    by_cases here : act.emitter = k
    · simp [here, offset_effect (now here)]
    · simp [here]

end Frame

/-! ### Resets -/

namespace Family

variable {family created : Family} {chain : List FrameId} {c parent : FrameId} {levels : Nat}

/-- A reset takes back the levels of a fresh emitter. -/
theorem Chained.level_reset (chained : family.Chained chain)
    (opened : (family.frame c).closed = false) :
    ∃ after, family.reset c = some after ∧
      (after.frame c).level = if (family.frame c).fresh then
        (family.frame c).level - (family.frame c).offset else (family.frame c).level := by
  obtain ⟨before, below, -, cuts⟩ := chained.closeChild_of_open opened
  refine ⟨(family.closeChild c).modify c Frame.takeBack, ?_, ?_⟩
  · simp only [reset, isClosed, opened, Bool.false_eq_true, if_false]
    rfl
  · have within : c < (family.closeChild c).frames.size := cuts.size ▸ lt_size_of_open opened
    rw [frame_modify_self _ within, cuts.here, Frame.takeBack]
    show (if (family.frame c).fresh then _ else _ : Frame).level = _
    split <;> rfl

/-- An open emitter stands no less deep than its offset. -/
theorem Chained.offset_le_level (chained : family.Chained chain)
    (opened : (family.frame c).closed = false) :
    (family.frame c).offset ≤ (family.frame c).level := by
  obtain ⟨above, stands⟩ := chained.spine.stands (chained.open_iff_mem.mp opened)
  have level : (family.frame c).level =
      above + (family.frame c).offset + (family.frame c).scopeLevels := stands
  omega

/-- A child comes to its frame by its own acts since its creation. -/
theorem Ranked.alone_child (ranked : family.Ranked chain)
    (creates : family.newChild parent levels = .ok (c, created)) (acts : List Act)
    (opened : ((created.replay acts).frame c).closed = false) :
    ((created.replay acts).frame c).alone =
      ((family.frame parent).alone.offspring levels).along c acts := by
  obtain ⟨-, old, -, chain', ranked'⟩ := ranked.newChild creates
  obtain ⟨-, rfl, rfl⟩ := newChild_eq_ok_iff.mp creates
  rw [ranked'.alone_replay acts old opened, alone_withChild_last]

/-- **A child takes back its levels if it has neither written nor done so before.**
After any acts, give an emitter a child and perform any acts again, by which the
child is not closed. If the child has written among them, or has taken back its
levels, then a reset leaves its level. Otherwise the reset lowers it by just the
levels that the child was created with, whatever scopes the child has opened and
released. -/
theorem replay_reset (width : Nat) (before after : List Act)
    (creates : ((root width).replay before).newChild parent levels = .ok (c, created))
    (opened : (created.replay after).isClosed c = false) :
    let family := created.replay after
    ∃ result, family.reset c = some result ∧ 0 < levels ∧
      if ∃ act ∈ after, act.emitter = c ∧ act.settles = true then
        (result.frame c).level = (family.frame c).level
      else (result.frame c).level + levels = (family.frame c).level := by
  intro family
  obtain ⟨chain, ranked⟩ := (ranked_root width).replay before
  have alone := ranked.alone_child creates after opened
  obtain ⟨-, -, -, _, ranked'⟩ := ranked.newChild creates
  obtain ⟨_, chained⟩ := ranked'.toChained.replay after
  obtain ⟨result, reset, level⟩ := chained.level_reset opened
  have positive := (newChild_eq_ok_iff.mp creates).1.1
  refine ⟨result, reset, Nat.pos_of_ne_zero positive, ?_⟩
  have fresh : (family.frame c).fresh = !after.any fun act => act.emitter = c && act.settles :=
    (congrArg Frame.fresh alone).trans (Frame.fresh_along c after _)
  split
  · rename_i settles
    have stale : (family.frame c).fresh = false := by simpa [fresh] using settles
    rw [level, if_neg (by rw [stale]; exact Bool.false_ne_true)]
  · rename_i unsettled
    have stillFresh : (family.frame c).fresh = true := by simpa [fresh] using unsettled
    have offset : (family.frame c).offset = levels := by
      refine (congrArg Frame.offset alone).trans (Frame.offset_along ?_ _)
      intro act mem here
      exact Bool.eq_false_of_not_eq_true fun settles => unsettled ⟨act, mem, here, settles⟩
    have enough := chained.offset_le_level opened
    rw [level, if_pos stillFresh, ← offset]
    exact Nat.sub_add_cancel enough

/-- A child that has released a scope, is in another one and has a child that
writes. -/
theorem replay_reset_scoped :
    let created := (root 4).withChild 0 2
    let acts : List Act := [.openBlock 1 (.indentWith ";" false), .release 1,
      .openScope 1 ⟨3, none, false⟩, .newChild 1 1, .line 2 "a"]
    (root 4).newChild 0 2 = .ok (1, created) ∧ (created.replay acts).isClosed 1 = false ∧
      ((created.replay acts).frame 1).level = 5 ∧
      ∃ result, (created.replay acts).reset 1 = some result ∧ (result.frame 1).level + 2 = 5 := by
  intro created acts
  have creates : (root 4).newChild 0 2 = .ok (1, created) := rfl
  have opened : (created.replay acts).isClosed 1 = false := by decide
  have deep : ((created.replay acts).frame 1).level = 5 := by decide
  obtain ⟨result, reset, -, level⟩ := replay_reset 4 [] acts creates opened
  rw [if_neg (by decide)] at level
  exact ⟨creates, opened, deep, result, reset, level.trans deep⟩

/-- The closing text of a scope stands on the page, and the child that has released
the scope still takes back its level. -/
theorem reset_behind_closing :
    let family := (root 4).replay
      [.newChild 0 1, .openBlock 1 (.withClosing ";"), .release 1]
    family.page.text = "    ;" ∧ family.isClosed 1 = false ∧ (family.frame 1).level = 1 ∧
      (family.reset 1).map (fun result => (result.frame 1).level) = some 0 := by
  decide +kernel

end Family

end Bindery.Layout
