/-
What an act does to the emitters.

An act is performed on one emitter. On a closed emitter it does nothing. On an open
one it closes the emitters below first; what it then makes of the emitter itself is
a matter of its frame alone (`Act.effect`), and the emitters above are left where
they are. The main statements are

* `Family.Chained.act_cases`, all that an act can do;
* `Family.Chained.act_of_closed` and `Family.Chained.closed_act`, that a closed
  emitter does nothing and is closed for good;
* `Family.Chained.alone_act`, that an emitter that stays open is changed by its own
  acts only;
* `Family.Ranked.open_act`, that an emitter is closed by an act of its own or by one
  of an emitter above it, which is an older one.
-/

import Bindery.Proofs.Layout.Course

namespace Bindery.Layout

/-! ### Acts on one emitter -/

namespace Act

/-- The emitter that an act is performed on. -/
def emitter : Act → FrameId
  | .write i _ | .line i _ | .lend i | .output i | .openScope i _ | .openBlock i _ | .release i
  | .newChild i _ | .reset i | .close i => i

/-- What an act makes of the frame of its emitter, links apart, if it is open. -/
def effect : Act → Frame → Frame
  | .write _ _ | .line _ _ => Frame.settled
  | .openScope _ scope => if scope.levels = 0 then id else Frame.opened scope
  | .openBlock _ scope => Frame.opened scope
  | .release _ => Frame.popped
  | .reset _ => Frame.takeBack
  | .close _ => Frame.shut
  | .lend _ | .output _ | .newChild _ _ => id

/-- Whether an act closes the emitters below its own before anything else. A new
child does not, and neither does a scope that adds no level, which is refused. -/
def closesBelow : Act → Bool
  | .newChild _ _ => false
  | .openScope _ scope => scope.levels ≠ 0
  | _ => true

/-- Whether an act needs an open emitter to have an answer. -/
def needsOpen : Act → Bool
  | .write _ _ | .line _ _ | .lend _ | .openBlock _ _ | .reset _ => true
  | _ => false

end Act

/-- The act has no answer. -/
def Family.Aborts (family : Family) : Act → Prop
  | .write i text => family.write i text = none
  | .line i text => family.writeLine i text = none
  | .lend i => family.lend i = none
  | .openBlock i scope => family.openBlock i scope = none
  | .reset i => family.reset i = none
  | _ => False

/-- An act has no answer if and only if it needs an open emitter and finds it
closed. -/
theorem Family.aborts_iff {family : Family} {act : Act} :
    family.Aborts act ↔ act.needsOpen = true ∧ family.isClosed act.emitter = true := by
  cases act with
  | write i text | line i text | lend i | openBlock i scope | reset i =>
    simp [Aborts, Act.needsOpen, Act.emitter, write, writeLine, lend, openBlock, reset]
  | _ => simp [Aborts, Act.needsOpen]

theorem Frame.closed_popped (frame : Frame) : frame.popped.closed = frame.closed := by
  rw [popped]
  split <;> rfl

/-- Only closing closes. -/
theorem Act.closed_effect {act : Act} (notClose : act ≠ .close act.emitter) (frame : Frame) :
    (act.effect frame).closed = frame.closed := by
  cases act with
  | close i => exact absurd rfl notClose
  | release i => exact frame.closed_popped
  | reset i => exact frame.adjusts_takeBack.closed
  | openScope i scope =>
    rw [effect]
    split <;> rfl
  | _ => rfl

/-- The frame that an emitter comes to by its own among some acts. -/
def Frame.along (k : FrameId) (frame : Frame) (acts : List Act) : Frame :=
  acts.foldl (fun frame act => if act.emitter = k then act.effect frame else frame) frame

namespace Family

variable {family : Family} {chain before below outer : List FrameId} {i k : FrameId}

theorem act_newChild {created : Family} {levels : Nat}
    (creates : family.newChild i levels = .ok (k, created)) :
    family.act (.newChild i levels) = created := by
  simp only [Family.act, creates]

namespace Chained

/-- A closed emitter does nothing. -/
theorem act_of_closed (chained : family.Chained chain) {act : Act}
    (closed : (family.frame act.emitter).closed = true) : family.act act = family := by
  have closed' : family.isClosed act.emitter = true := closed
  cases act with
  | write i text | line i text | lend i | openBlock i scope | reset i =>
    simp only [Act.emitter] at closed'
    simp [Family.act, write, writeLine, lend, openBlock, reset, closed']
  | output i => exact chained.closeChild_of_closed closed
  | release i => exact release_of_closed closed
  | close i => exact if_pos closed'
  | openScope i scope =>
    simp only [Act.emitter] at closed'
    by_cases zero : scope.levels = 0 <;> simp [Family.act, openScope, zero, closed']
  | newChild i levels =>
    simp only [Act.emitter] at closed'
    by_cases zero : levels = 0 <;> simp [Family.act, newChild, zero, closed']

/-- The last emitter of the chain takes the effect of an act. -/
theorem moves_act (chained : family.Chained (outer ++ [i])) {act : Act} (here : act.emitter = i)
    (closesBelow : act.closesBelow = true) :
    ∃ strokes, family.Moves (family.act act) outer i strokes
      (act.effect (family.frame i).alone) := by
  have trails : family.Trails outer i := .inl chained
  have opened : family.isClosed i = false := chained.closed_eq_false
  cases act with
  | write j text =>
    obtain rfl : j = i := here
    obtain ⟨after, written, moves⟩ := chained.moves_write text
    rw [Family.act, written]
    exact ⟨_, moves⟩
  | line j text =>
    obtain rfl : j = i := here
    obtain ⟨after, written, moves⟩ := chained.moves_writeLine text
    rw [Family.act, written]
    exact ⟨_, moves⟩
  | lend j =>
    obtain rfl : j = i := here
    simp only [Family.act, lend, opened, chained.closeChild_last]
    exact ⟨_, trails.moves⟩
  | output j =>
    obtain rfl : j = i := here
    simp only [Family.act, output, chained.closeChild_last]
    exact ⟨_, trails.moves⟩
  | openScope j scope =>
    obtain rfl : j = i := here
    have positive : scope.levels ≠ 0 := of_decide_eq_true closesBelow
    simp only [Family.act, openScope, Act.effect, positive, opened]
    exact ⟨_, chained.moves_pushScope scope⟩
  | openBlock j scope =>
    obtain rfl : j = i := here
    simp only [Family.act, openBlock, opened]
    exact ⟨_, chained.moves_pushScope scope⟩
  | release j =>
    obtain rfl : j = i := here
    exact ⟨_, trails.moves_release⟩
  | newChild j levels => cases closesBelow
  | reset j =>
    obtain rfl : j = i := here
    obtain ⟨after, taken, moves⟩ := chained.moves_reset
    rw [Family.act, taken]
    exact ⟨_, moves⟩
  | close j =>
    obtain rfl : j = i := here
    exact ⟨_, trails.moves_close⟩

/-- An act that closes the emitters below may find them closed. -/
theorem act_closeChild (chained : family.Chained (before ++ i :: below)) {act : Act}
    (here : act.emitter = i) (closesBelow : act.closesBelow = true) :
    (family.closeChild i).act act = family.act act := by
  have again := chained.closeChild_closeChild
  have opened : family.isClosed i = false := chained.closed_eq_false
  have stillOpen : (family.closeChild i).isClosed i = false := by
    rw [chained.isClosed_closeChild, opened]
  cases act with
  | newChild j levels => cases closesBelow
  | close j =>
    obtain rfl : j = i := here
    exact chained.close_closeChild
  | output j =>
    obtain rfl : j = i := here
    exact again
  | openScope j scope =>
    obtain rfl : j = i := here
    have positive : scope.levels ≠ 0 := of_decide_eq_true closesBelow
    simp [Family.act, openScope, Family.pushScope, positive, opened, stillOpen, again]
  | write j text | line j text | lend j | openBlock j scope | release j | reset j =>
    obtain rfl : j = i := here
    simp [Family.act, write, writeLine, Family.settle, lend, openBlock, Family.pushScope,
      Family.release, reset, opened, stillOpen, again]

/-- **All that an act can do.** It does nothing, because its emitter is closed or it
is refused; or it closes the emitters below its own, which takes the effect; or it
gives its emitter a child. -/
theorem act_cases (chained : family.Chained chain) (act : Act) :
    (family.act act = family ∧
      ((family.frame act.emitter).closed = true ∨ act.effect = id)) ∨
    (∃ before below strokes, chain = before ++ act.emitter :: below ∧
      (family.closeChild act.emitter).Moves (family.act act) before act.emitter strokes
        (act.effect (family.frame act.emitter).alone)) ∨
    ∃ before levels, chain = before ++ [act.emitter] ∧ levels ≠ 0 ∧ act.effect = id ∧
      family.act act = family.withChild act.emitter levels := by
  cases closed : (family.frame act.emitter).closed with
  | true => exact .inl ⟨chained.act_of_closed closed, .inl rfl⟩
  | false =>
    obtain ⟨before, below, rfl⟩ := List.append_of_mem (chained.open_iff_mem.mp closed)
    by_cases closesBelow : act.closesBelow = true
    · right; left
      obtain ⟨strokes, moves⟩ := chained.cut.moves_act rfl closesBelow
      rw [chained.act_closeChild rfl closesBelow, chained.frame_closeChild] at moves
      exact ⟨before, below, strokes, rfl, moves⟩
    · cases act with
      | newChild i levels =>
        cases created : family.newChild i levels with
        | error reason => exact .inl ⟨by simp only [Family.act, created], .inr rfl⟩
        | ok pair =>
          obtain ⟨j, after⟩ := pair
          obtain ⟨⟨positive, -, childless⟩, -, rfl⟩ := newChild_eq_ok_iff.mp created
          obtain rfl := chained.below_eq_nil childless
          refine .inr (.inr ⟨before, levels, rfl, positive, rfl, ?_⟩)
          simp only [Family.act, created]
          rfl
      | openScope i scope =>
        have zero : scope.levels = 0 := by simpa [Act.closesBelow] using closesBelow
        refine .inl ⟨?_, .inr ?_⟩
        · simp [Family.act, openScope, zero]
        · simp [Act.effect, zero]
      | _ => exact absurd rfl closesBelow

/-! ### What is closed stays closed -/

/-- The chain gets shorter or a new emitter comes last. -/
theorem chain_act (chained : family.Chained chain) (act : Act) :
    ∃ chain', (family.act act).Chained chain' ∧
      (chain' <+: chain ∨ chain' = chain ++ [family.frames.size]) := by
  rcases chained.act_cases act with ⟨same, -⟩ | ⟨before, below, strokes, rfl, moves⟩ |
    ⟨before, levels, rfl, positive, -, created⟩
  · exact ⟨chain, same.symm ▸ chained, .inl (List.prefix_refl _)⟩
  · rcases moves.trails with chained' | ⟨-, chained'⟩
    · exact ⟨_, chained', .inl ⟨below, by simp⟩⟩
    · exact ⟨_, chained', .inl (List.prefix_append _ _)⟩
  · exact ⟨_, created ▸ chained.withChild positive, .inr (by simp)⟩

theorem size_le_act (chained : family.Chained chain) (act : Act) :
    family.frames.size ≤ (family.act act).frames.size := by
  cases act with
  | newChild i levels => exact (spares_newChild family i levels).size
  | reset i =>
    rcases chained.act_reset i with ⟨sustains, -⟩ | ⟨-, size, -⟩
    · exact sustains.size.ge
    · exact size.ge
  | _ => exact (Sustains.size (chained.sustains_act (by rintro _ _ ⟨⟩) (by rintro _ ⟨⟩))).ge

theorem size_le_replay (chained : family.Chained chain) (acts : List Act) :
    family.frames.size ≤ (family.replay acts).frames.size := by
  induction acts generalizing family chain with
  | nil => exact le_rfl
  | cons act acts ih =>
    obtain ⟨chain', chained', -⟩ := chained.chain_act act
    exact (chained.size_le_act act).trans (ih chained')

/-- **A closed emitter is closed for good.** -/
theorem closed_act (chained : family.Chained chain) (act : Act) (old : k < family.frames.size)
    (closed : (family.frame k).closed = true) : ((family.act act).frame k).closed = true := by
  obtain ⟨chain', chained', shape⟩ := chained.chain_act act
  by_contra opened
  have mem' : k ∈ chain' := chained'.open_iff_mem.mp (Bool.eq_false_of_not_eq_true opened)
  have mem : k ∈ chain := by
    rcases shape with shorter | rfl
    · exact shorter.subset mem'
    · rcases List.mem_append.mp mem' with mem | new
      · exact mem
      · exact absurd (List.mem_singleton.mp new) old.ne
  exact Bool.false_ne_true ((chained.open_iff_mem.mpr mem).symm.trans closed)

theorem closed_replay (chained : family.Chained chain) (acts : List Act)
    (old : k < family.frames.size) (closed : (family.frame k).closed = true) :
    ((family.replay acts).frame k).closed = true := by
  induction acts generalizing family chain with
  | nil => exact closed
  | cons act acts ih =>
    obtain ⟨chain', chained', -⟩ := chained.chain_act act
    exact ih chained' (old.trans_le (chained.size_le_act act)) (chained.closed_act act old closed)

/-! ### Emitters are changed by their own acts -/

/-- **An emitter that stays open is changed by its own acts only**, links apart. -/
theorem alone_act (chained : family.Chained chain) (act : Act) (old : k < family.frames.size)
    (opened : ((family.act act).frame k).closed = false) :
    ((family.act act).frame k).alone =
      if act.emitter = k then act.effect (family.frame k).alone else (family.frame k).alone := by
  rcases chained.act_cases act with ⟨same, idle⟩ | ⟨before, below, strokes, rfl, moves⟩ |
    ⟨before, levels, rfl, positive, silent, created⟩
  · rw [same] at opened ⊢
    split
    · rename_i here
      rcases idle with closed | silent
      · rw [here, opened] at closed
        cases closed
      · rw [silent]
        rfl
    · rfl
  · have cuts := chained.cuts_closeChild
    have apart := List.nodup_append.mp chained.nodup
    by_cases here : act.emitter = k
    · rw [if_pos here, ← here]
      exact moves.here
    · rw [if_neg here]
      have mem : k ∈ before := by
        rcases moves.trails with chained' | ⟨-, chained'⟩
        · rcases List.mem_append.mp (chained'.open_iff_mem.mp opened) with mem | last
          · exact mem
          · exact absurd (List.mem_singleton.mp last).symm here
        · exact chained'.open_iff_mem.mp opened
      have notBelow : k ∉ below := fun later =>
        apart.2.2 k mem k (List.mem_cons_of_mem _ later) rfl
      rw [moves.above k mem, cuts.kept k notBelow (Ne.symm here)]
  · rw [created]
    by_cases here : act.emitter = k
    · rw [if_pos here, silent, here, frame_withChild_parent levels old]
      rfl
    · rw [if_neg here, frame_withChild_of_ne levels here old.ne]

theorem alone_replay (chained : family.Chained chain) (acts : List Act)
    (old : k < family.frames.size) (opened : ((family.replay acts).frame k).closed = false) :
    ((family.replay acts).frame k).alone = (family.frame k).alone.along k acts := by
  induction acts generalizing family chain with
  | nil => rfl
  | cons act acts ih =>
    obtain ⟨chain', chained', -⟩ := chained.chain_act act
    have old' := old.trans_le (chained.size_le_act act)
    have openedNow : ((family.act act).frame k).closed = false := by
      by_contra closed
      have later := chained'.closed_replay acts old' (Bool.eq_true_of_not_eq_false closed)
      exact Bool.false_ne_true (opened.symm.trans later)
    refine (ih chained' old' opened).trans ?_
    rw [chained.alone_act act old openedNow]
    rfl

end Chained

/-! ### Emitters are closed from above -/

/-- The open emitters of a family make a chain, and each is older than its child. -/
structure Ranked (family : Family) (chain : List FrameId) : Prop extends Chained family chain where
  ascending : chain.Pairwise (· < ·)

theorem ranked_root (width : Nat) : (root width).Ranked [0] :=
  ⟨chained_root width, List.pairwise_singleton _ _⟩

namespace Ranked

theorem act (ranked : family.Ranked chain) (act : Act) :
    ∃ chain', (family.act act).Ranked chain' := by
  obtain ⟨chain', chained', shape⟩ := ranked.toChained.chain_act act
  refine ⟨chain', chained', ?_⟩
  rcases shape with shorter | rfl
  · exact ranked.ascending.sublist shorter.sublist
  · refine List.pairwise_append.mpr ⟨ranked.ascending, List.pairwise_singleton _ _, ?_⟩
    rintro j mem _ last
    rw [List.mem_singleton.mp last]
    exact lt_size_of_open (ranked.open_iff_mem.mpr mem)

theorem replay (ranked : family.Ranked chain) (acts : List Act) :
    ∃ chain', (family.replay acts).Ranked chain' := by
  induction acts generalizing family chain with
  | nil => exact ⟨chain, ranked⟩
  | cons act acts ih =>
    obtain ⟨chain', ranked'⟩ := ranked.act act
    exact ih ranked'

/-- A child that was just created is open and the youngest emitter. -/
theorem newChild (ranked : family.Ranked chain) {created : Family} {levels : Nat}
    (creates : family.newChild i levels = .ok (k, created)) :
    k = family.frames.size ∧ family.frames.size < created.frames.size ∧
      (created.frame k).closed = false ∧ ∃ chain', created.Ranked chain' := by
  obtain ⟨chain', ranked'⟩ := ranked.act (.newChild i levels)
  rw [act_newChild creates] at ranked'
  obtain ⟨-, rfl, rfl⟩ := newChild_eq_ok_iff.mp creates
  refine ⟨rfl, ?_, ?_, chain', ranked'⟩
  · rw [size_withChild]
    exact Nat.lt_succ_self _
  · rw [frame_withChild_last]
    rfl

/-- **An emitter stays open during the acts of younger ones and during its own**,
unless it is closed by itself. -/
theorem open_act (ranked : family.Ranked chain) {act : Act}
    (opened : (family.frame k).closed = false) (younger : k ≤ act.emitter)
    (notClosed : act ≠ .close k) : ((family.act act).frame k).closed = false := by
  have mem := ranked.open_iff_mem.mp opened
  rcases ranked.toChained.act_cases act with ⟨same, -⟩ |
    ⟨before, below, strokes, rfl, moves⟩ | ⟨before, levels, rfl, positive, -, created⟩
  · rw [same, opened]
  · have above : k ∈ before → ((family.act act).frame k).closed = false := by
      intro above
      rcases moves.trails with chained' | ⟨-, chained'⟩
      · exact chained'.open_iff_mem.mpr (List.mem_append_left _ above)
      · exact chained'.open_iff_mem.mpr above
    rcases List.mem_append.mp mem with before | later
    · exact above before
    · rcases List.mem_cons.mp later with rfl | later
      · have here := congrArg Frame.closed moves.here
        rw [Act.closed_effect notClosed] at here
        exact here.trans opened
      · have ascending := (List.pairwise_append.mp ranked.ascending).2.1
        have older : act.emitter < k := List.rel_of_pairwise_cons ascending later
        exact absurd younger (Nat.not_le.mpr older)
  · rw [created]
    have longer := ranked.toChained.withChild positive
    apply longer.open_iff_mem.mpr
    rcases List.mem_append.mp mem with before | last
    · exact List.mem_append_left _ before
    · exact List.mem_append_right _ (List.mem_cons.mpr (.inl (List.mem_singleton.mp last)))

theorem open_replay (ranked : family.Ranked chain) {acts : List Act}
    (opened : (family.frame k).closed = false) (younger : ∀ act ∈ acts, k ≤ act.emitter)
    (notClosed : .close k ∉ acts) : ((family.replay acts).frame k).closed = false := by
  induction acts generalizing family chain with
  | nil => exact opened
  | cons act acts ih =>
    obtain ⟨chain', ranked'⟩ := ranked.act act
    obtain ⟨here, later⟩ := List.forall_mem_cons.mp younger
    obtain ⟨notNow, notLater⟩ := not_or.mp (mt List.mem_cons.mpr notClosed)
    exact ih ranked' (ranked.open_act opened here (Ne.symm notNow)) later notLater

end Ranked

end Family

end Bindery.Layout
